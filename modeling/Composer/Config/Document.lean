import Composer.Config
import Composer.Toml.Printer
import Composer.Toml.Reader
set_option autoImplicit false

/-!
# The configuration as a TOML document

The document has the tables `api`, `paste` and `log` and the list of tables `prompt`. What is
missing keeps its default, and keys that are not known are ignored. A table may also be written as a
list of its values in order.
-/

namespace Composer

namespace Toml

/-- The text of a string. -/
def asText : Toml → Option String
  | .string s => some s
  | _ => none

/-- The number of an integer that is not negative. -/
def asCount : Toml → Option Nat
  | .integer n => if 0 ≤ n then some n.toNat else none
  | _ => none

/-- The items of a list. -/
def asList : Toml → Option (List Toml)
  | .array items => some items
  | _ => none

/-- The members of a record with these fields. A list gives its items to the fields in their order,
and a date is a record without any of them. -/
def asRecord (fields : List String) : Toml → Option (List (String × Toml))
  | .table members => some members
  | .array items => some (fields.zip items)
  | .dateTime _ => some []
  | _ => none

end Toml

namespace Config

/-- A field of a record, or what stands for it if it is missing. -/
def field {α : Type} (decode : Toml → Option α) (missing : Option α) (key : String)
    (members : List (String × Toml)) : Option α :=
  match members.lookup key with
  | some v => decode v
  | none => missing

/-! ## Reading -/

/-- Reads how the backend is reached. -/
def apiOfToml (t : Toml) : Option ApiConfig := do
  let members ← t.asRecord ["base_url", "timeout_secs"]
  let start : ApiConfig := {}
  let baseUrl ← field Toml.asText (some start.baseUrl) "base_url" members
  let timeout ← field Toml.asCount (some start.timeoutSeconds.toNat) "timeout_secs" members
  return { baseUrl, timeoutSeconds := UInt64.ofNat timeout }

/-- Reads the thresholds for large pastes. -/
def pasteOfToml (t : Toml) : Option PasteClassifier := do
  let members ← t.asRecord ["char_threshold", "line_threshold"]
  let start : PasteClassifier := {}
  let charThreshold ← field Toml.asCount (some start.charThreshold) "char_threshold" members
  let lineThreshold ← field Toml.asCount (some start.lineThreshold) "line_threshold" members
  return { charThreshold, lineThreshold }

/-- Reads what is logged. -/
def logOfToml (t : Toml) : Option String := do
  let members ← t.asRecord ["filter"]
  let start : Config := {}
  field Toml.asText (some start.logFilter) "filter" members

/-- Reads a saved prompt. -/
def promptOfToml (t : Toml) : Option PromptGroup := do
  let members ← t.asRecord ["id", "name", "text", "description"]
  let id ← field Toml.asText none "id" members
  let name ← field Toml.asText none "name" members
  let text ← field Toml.asText none "text" members
  let description ← field (fun v => v.asText.map some) (some none) "description" members
  return { id, name, text, description }

/-- Reads saved prompts. -/
def promptsOfToml (t : Toml) : Option (List PromptGroup) := do
  let items ← t.asList
  items.mapM promptOfToml

/-- Reads a configuration. -/
def ofToml (t : Toml) : Option Config := do
  let members ← t.asRecord ["api", "paste", "log", "prompt"]
  let start : Config := {}
  let api ← field apiOfToml (some start.api) "api" members
  let paste ← field pasteOfToml (some start.paste) "paste" members
  let logFilter ← field logOfToml (some start.logFilter) "log" members
  let prompts ← field promptsOfToml (some start.prompts) "prompt" members
  return { api, paste, logFilter, prompts }

/-- The configuration that a text describes, which has to be usable. A blank text describes the
defaults. -/
def parse (text : String) : Except Fault Config :=
  if Text.isBlank text then .ok {}
  else match Toml.parse? text with
    | none => .error (.badToml "not a TOML document")
    | some t =>
      match ofToml t with
      | none => .error (.badToml "not a configuration")
      | some c => c.checked

/-! ## Writing -/

/-- The section of a saved prompt. -/
def promptSection (g : PromptGroup) : Toml.Section :=
  { name := "prompt", isItem := true,
    settings := [("id", .text g.id), ("name", .text g.name), ("text", .text g.text)]
      ++ (match g.description with
        | some d => [("description", .text d)]
        | none => []) }

/-- The sections of a configuration. -/
def sections (c : Config) : List Toml.Section :=
  [{ name := "api", settings :=
      [("base_url", .text c.api.baseUrl), ("timeout_secs", .number c.api.timeoutSeconds.toNat)] },
    { name := "paste", settings :=
      [("char_threshold", .number c.paste.charThreshold),
        ("line_threshold", .number c.paste.lineThreshold)] },
    { name := "log", settings := [("filter", .text c.logFilter)] }]
    ++ c.prompts.map promptSection

/-- Whether all numbers of a configuration can be written, which takes signed 64-bit numbers. -/
def fits (c : Config) : Bool :=
  c.api.timeoutSeconds.toNat ≤ Numeral.maxSigned && c.paste.charThreshold ≤ Numeral.maxSigned
    && c.paste.lineThreshold ≤ Numeral.maxSigned

/-- The text of a configuration. -/
def write (c : Config) : Except Fault String :=
  if c.fits then .ok (Toml.print c.sections)
  else .error (.badToml "out-of-range value for u64 type")

end Config
end Composer
