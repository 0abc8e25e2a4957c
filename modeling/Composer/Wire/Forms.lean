import Composer.Config
import Composer.Json.Decode
import Composer.MessageInput
set_option autoImplicit false

/-!
# JSON forms

How the values of the domain are written as JSON and read back. Objects are written with their
members in a fixed order; absent texts are left out or written as `null`, each type in its own way.
-/

namespace Composer

open Json (Decoded Record Field)

/-- A member that is left out if there is no text. -/
def Json.memberIfSome (key : String) (s : Option String) : List (String × Json) :=
  match s with
  | some s => [(key, .string s)]
  | none => []

/-! ## Draft -/

namespace Draft

/-- The JSON form of a draft. -/
def toJson (d : Draft) : Json :=
  .object [("text", .string d.text), ("cursor", .nat d.cursor), ("context", .optional d.context)]

/-- How a draft is decoded. -/
def record : Record Draft where
  name := "struct Draft"
  start := {}
  fields := [
    .of "text" .required Json.asText fun v d => { d with text := v },
    .of "cursor" .required Json.asCount fun v d => { d with cursor := v },
    .of "context" .optional (Json.asOptional Json.asText) fun v d => { d with context := v }]

/-- Decodes a draft. -/
def ofJson : Json → Decoded Draft := record.decode

end Draft

/-! ## Attachments and artifacts -/

namespace Attachment

/-- The JSON form of an attachment, which does not have its data. -/
def toJson (f : Attachment) : Json :=
  .object [("name", .string f.name), ("size", .nat f.size.toNat),
    ("lastModified", .int f.modified.toInt), ("mimeType", .string f.mime)]

/-- How an attachment is decoded. -/
def record : Record Attachment where
  name := "struct FileAttachment"
  start := { name := "", size := 0, modified := 0, mime := "", data := [] }
  fields := [
    .of "name" .required Json.asText fun v f => { f with name := v },
    .of "size" .required Json.asUnsigned fun v f => { f with size := v },
    .of "lastModified" .required Json.asSigned fun v f => { f with modified := v },
    .of "mimeType" .required Json.asText fun v f => { f with mime := v }]

/-- Decodes an attachment, without data. -/
def ofJson : Json → Decoded Attachment := record.decode

end Attachment

namespace ArtifactRef

/-- The JSON form of a reference. -/
def toJson (a : ArtifactRef) : Json :=
  .object (("uri", .string a.uri) :: Json.memberIfSome "sessionId" a.sessionId)

/-- How a reference is decoded. -/
def record : Record ArtifactRef where
  name := "struct ArtifactRef"
  start := { uri := "" }
  fields := [
    .of "uri" .required Json.asText fun v a => { a with uri := v },
    .of "sessionId" .defaulted (Json.asOptional Json.asText) fun v a => { a with sessionId := v }]

/-- Decodes a reference. -/
def ofJson : Json → Decoded ArtifactRef := record.decode

end ArtifactRef

namespace Badge

/-- The JSON form of a badge. -/
def toJson (b : Badge) : Json :=
  .object [("id", .string b.id), ("artifact", b.artifact.toJson),
    ("displayName", .string b.displayName), ("createdAt", .string (String.ofList b.createdAt.text))]

/-- Decodes a point in time. -/
def instantOfJson : Json → Decoded Instant
  | .string s =>
    match Instant.read s.toList with
    | .ok t => .ok t
    | .error e => .error (.malformed e.message)
  | v => .error (.wrongType v.found "an RFC 3339 formatted date and time string")

/-- How a badge is decoded. -/
def record : Record Badge where
  name := "struct PastedArtifactItem"
  start := { id := "", artifact := { uri := "" }, displayName := "", createdAt := ⟨0, 0⟩ }
  fields := [
    .of "id" .required Json.asText fun v b => { b with id := v },
    .of "artifact" .required ArtifactRef.ofJson fun v b => { b with artifact := v },
    .of "displayName" .required Json.asText fun v b => { b with displayName := v },
    .of "createdAt" .required instantOfJson fun v b => { b with createdAt := v }]

/-- Decodes a badge. -/
def ofJson : Json → Decoded Badge := record.decode

end Badge

/-! ## Prompts -/

namespace PromptGroup

/-- The JSON form of a prompt group. -/
def toJson (g : PromptGroup) : Json :=
  .object ([("id", .string g.id), ("name", .string g.name), ("promptText", .string g.text)]
    ++ Json.memberIfSome "description" g.description)

/-- How a prompt group is decoded. -/
def record : Record PromptGroup where
  name := "struct PromptGroup"
  start := { id := "", name := "", text := "" }
  fields := [
    .of "id" .required Json.asText fun v g => { g with id := v },
    .of "name" .required Json.asText fun v g => { g with name := v },
    .of "promptText" .required Json.asText fun v g => { g with text := v },
    .of "description" .defaulted (Json.asOptional Json.asText) fun v g =>
      { g with description := v }]

/-- Decodes a prompt group. -/
def ofJson : Json → Decoded PromptGroup := record.decode

end PromptGroup

namespace PendingPrompt

/-- The JSON form of a pending prompt. -/
def toJson (p : PendingPrompt) : Json :=
  .object [("promptText", .string p.text), ("groupId", .optional p.groupId),
    ("groupName", .optional p.groupName)]

/-- How a pending prompt is decoded. -/
def record : Record PendingPrompt where
  name := "struct PendingPrompt"
  start := { text := "" }
  fields := [
    .of "promptText" .required Json.asText fun v p => { p with text := v },
    .of "groupId" .defaulted (Json.asOptional Json.asText) fun v p => { p with groupId := v },
    .of "groupName" .defaulted (Json.asOptional Json.asText) fun v p => { p with groupName := v }]

/-- Decodes a pending prompt. -/
def ofJson : Json → Decoded PendingPrompt := record.decode

end PendingPrompt

namespace ReservedCommand

/-- The JSON form of a reserved command. -/
def toJson (c : ReservedCommand) : Json := .string c.name

/-- Decodes a reserved command. -/
def ofJson : Json → Decoded ReservedCommand := Json.asName (all.map fun c => (c.name, c))

end ReservedCommand

/-! ## Pastes, notifications, signals -/

namespace PasteClassifier

/-- The JSON form of the thresholds. -/
def toJson (c : PasteClassifier) : Json :=
  .object [("char_threshold", .nat c.charThreshold), ("line_threshold", .nat c.lineThreshold)]

/-- How thresholds are decoded. -/
def record : Record PasteClassifier where
  name := "struct PasteClassifier"
  start := {}
  fields := [
    .of "char_threshold" .defaulted Json.asCount fun v c => { c with charThreshold := v },
    .of "line_threshold" .defaulted Json.asCount fun v c => { c with lineThreshold := v }]

/-- Decodes thresholds. -/
def ofJson : Json → Decoded PasteClassifier := record.decode

end PasteClassifier

namespace NotificationLevel

/-- All levels with their names. -/
def named : List (String × NotificationLevel) :=
  [info, success, error].map fun l => (l.name, l)

end NotificationLevel

namespace Notification

/-- The JSON form of a notification. -/
def toJson (n : Notification) : Json :=
  .object [("level", .string n.level.name), ("title", .string n.title),
    ("message", .string n.message)]

/-- How a notification is decoded. -/
def record : Record Notification where
  name := "struct Notification"
  start := { level := .info, title := "", message := "" }
  fields := [
    .of "level" .required (Json.asName NotificationLevel.named) fun v n => { n with level := v },
    .of "title" .required Json.asText fun v n => { n with title := v },
    .of "message" .required Json.asText fun v n => { n with message := v }]

/-- Decodes a notification. -/
def ofJson : Json → Decoded Notification := record.decode

end Notification

namespace Signal

/-- The kinds of signals, as their tag names them. -/
inductive Tag where
  | focusInput
  | followUp
  deriving DecidableEq, Repr

/-- All tags with their names. -/
def Tag.named : List (String × Tag) :=
  [("focus-chat-input", .focusInput), ("follow-up-question", .followUp)]

/-- The JSON form of a signal. -/
def toJson : Signal → Json
  | .focusInput => .object [("type", .string "focus-chat-input")]
  | .followUp selected question autoSubmit =>
    .object [("type", .string "follow-up-question"), ("selected_text", .string selected),
      ("prompt", .optional question), ("auto_submit", .bool autoSubmit)]

/-- The fields of a follow-up question. -/
structure FollowUp where
  selected : String := ""
  question : Option String := none
  autoSubmit : Bool := false

/-- How a follow-up question is decoded. -/
def FollowUp.record : Record FollowUp where
  name := "struct variant AppSignal::FollowUpQuestion"
  start := {}
  fields := [
    .of "selected_text" .required Json.asText fun v f => { f with selected := v },
    .of "prompt" .defaulted (Json.asOptional Json.asText) fun v f => { f with question := v },
    .of "auto_submit" .defaulted Json.asBool fun v f => { f with autoSubmit := v }]

/-- The length of a list, as a message names it. -/
def lengthText (n : Nat) : String :=
  if n = 1 then "1 element in sequence" else s!"{n} elements in sequence"

/-- The signal with a follow-up question's fields. -/
def ofFollowUp (f : FollowUp) : Signal := .followUp f.selected f.question f.autoSubmit

/-- Decodes a tag. -/
def tagOfJson : Json → Decoded Tag
  | .string name =>
    match Tag.named.lookup name with
    | some t => .ok t
    | none => .error (.unknownName name (Tag.named.map Prod.fst))
  | v => .error (.wrongType v.found "variant identifier")

/-- Decodes a signal: its tag is the member `type`, or the first item, and the rest are its fields.
-/
def ofJson : Json → Decoded Signal
  | .object members =>
    match members.lookup "type" with
    | none => .error (.missingField "type")
    | some tag => do
      match ← tagOfJson tag with
      | .focusInput => return .focusInput
      | .followUp =>
        (FollowUp.record.ofMembers (members.filter fun m => m.1 != "type")).map ofFollowUp
  | .array [] => .error (.missingField "type")
  | .array (tag :: items) => do
    match ← tagOfJson tag with
    | .focusInput =>
      if items.isEmpty then return .focusInput
      else .error (.wrongLength items.length (lengthText 0))
    | .followUp =>
      (FollowUp.record.ofItems (lengthText FollowUp.record.fields.length) items).map ofFollowUp
  | v => .error (.wrongType v.found "internally tagged enum AppSignal")

end Signal

/-! ## The configuration -/

namespace ApiConfig

/-- The JSON form of how the backend is reached. -/
def toJson (a : ApiConfig) : Json :=
  .object [("base_url", .string a.baseUrl), ("timeout_secs", .nat a.timeoutSeconds.toNat)]

/-- How it is decoded. -/
def record : Record ApiConfig where
  name := "struct ApiConfig"
  start := {}
  fields := [
    .of "base_url" .defaulted Json.asText fun v a => { a with baseUrl := v },
    .of "timeout_secs" .defaulted Json.asUnsigned fun v a => { a with timeoutSeconds := v }]

end ApiConfig

namespace Config

/-- The JSON form of a saved prompt in a configuration. -/
def promptToJson (g : PromptGroup) : Json :=
  .object ([("id", .string g.id), ("name", .string g.name), ("text", .string g.text)]
    ++ Json.memberIfSome "description" g.description)

/-- How a saved prompt is decoded. -/
def promptRecord : Record PromptGroup where
  name := "struct PromptConfig"
  start := { id := "", name := "", text := "" }
  fields := [
    .of "id" .required Json.asText fun v g => { g with id := v },
    .of "name" .required Json.asText fun v g => { g with name := v },
    .of "text" .required Json.asText fun v g => { g with text := v },
    .of "description" .defaulted (Json.asOptional Json.asText) fun v g =>
      { g with description := v }]

/-- How what is logged is decoded. -/
def logRecord : Record String where
  name := "struct LogConfig"
  start := ({} : Config).logFilter
  fields := [.of "filter" .defaulted Json.asText fun v _ => v]

/-- The JSON form of a configuration; an empty list of prompts is left out. -/
def toJson (c : Config) : Json :=
  .object ([("api", c.api.toJson), ("paste", c.paste.toJson),
      ("log", .object [("filter", .string c.logFilter)])]
    ++ if c.prompts.isEmpty then [] else [("prompt", .array (c.prompts.map promptToJson))])

/-- How a configuration is decoded. -/
def record : Record Config where
  name := "struct ChatDeckConfig"
  start := {}
  fields := [
    .of "api" .defaulted ApiConfig.record.decode fun v c => { c with api := v },
    .of "paste" .defaulted PasteClassifier.ofJson fun v c => { c with paste := v },
    .of "log" .defaulted logRecord.decode fun v c => { c with logFilter := v },
    .of "prompt" .defaulted (Json.asList promptRecord.decode) fun v c => { c with prompts := v }]

/-- Decodes a configuration. -/
def ofJson : Json → Decoded Config := record.decode

end Config

/-! ## Faults -/

namespace Fault

/-- The JSON form of a fault. -/
def toJson : Fault → Json
  | backend m => .object [("Backend", .object [("message", .string m)])]
  | network m => .object [("Network", .string m)]
  | validation m => .object [("Validation", .string m)]
  | io m => .object [("Io", .object [("message", .string m)])]
  | serialization format m =>
    .object [("Serialization", .object [("format", .string format), ("message", .string m)])]
  | config m => .object [("Config", .string m)]
  | internal m => .object [("Internal", .string m)]

/-- The names of the kinds of faults. -/
def kindNames : List String :=
  ["Backend", "Network", "Validation", "Io", "Serialization", "Config", "Internal"]

/-- How a fault with nothing but a message is decoded. -/
def messageRecord (name : String) : Record String where
  name := name
  start := ""
  fields := [.of "message" .required Json.asText fun v _ => v]

/-- How a format and a message are decoded. -/
def formatRecord : Record (String × String) where
  name := "struct variant ChatDeckError::Serialization"
  start := ("", "")
  fields := [
    .of "format" .required Json.asText fun v p => (v, p.2),
    .of "message" .required Json.asText fun v p => (p.1, v)]

/-- Decodes a fault. -/
def ofJson (v : Json) : Decoded Fault := do
  let (name, payload) ← Json.asAlternative v
  match name with
  | "Backend" =>
    (Json.asFields (messageRecord "struct variant ChatDeckError::Backend") payload).map backend
  | "Network" => (Json.asPayload Json.asText payload).map network
  | "Validation" => (Json.asPayload Json.asText payload).map validation
  | "Io" => (Json.asFields (messageRecord "struct variant ChatDeckError::Io") payload).map io
  | "Serialization" =>
    (Json.asFields formatRecord payload).map fun (format, m) => serialization format m
  | "Config" => (Json.asPayload Json.asText payload).map config
  | "Internal" => (Json.asPayload Json.asText payload).map internal
  | _ => .error (.unknownName name kindNames)

end Fault
end Composer
