import Composer.Json.Printer
import Composer.Text.Printable
set_option autoImplicit false

/-!
# Decoding values

A decoder turns a JSON value into a value of the domain, or says what it found instead of what it
expected. Records are decoded from an object, by key, or from an array, by position; unknown keys
are ignored, surplus items are not.
-/

namespace Composer.Json

/-- What a decoder found in place of what it expected. -/
inductive Found where
  | null
  | bool (b : Bool)
  | number (n : Number)
  | string (s : String)
  | sequence
  | map
  /-- A bare name where a name with a value was expected. -/
  | bareName
  deriving Repr

/-- The kind of a value, with its content if it is simple. -/
def found : Json → Found
  | .null => .null
  | .bool b => .bool b
  | .number n => .number n
  | .string s => .string s
  | .array _ => .sequence
  | .object _ => .map

/-- How a finding is named in a message. -/
def Found.message : Found → String
  | .null => "null"
  | .bool b => s!"boolean `{b}`"
  | .number (.float minus x) => s!"floating point `{String.ofList (Number.float minus x).text}`"
  | .number n => s!"integer `{String.ofList n.text}`"
  | .string s => s!"string {Text.quoted s}"
  | .sequence => "sequence"
  | .map => "map"
  | .bareName => "unit variant"

/-- Why a value does not decode. -/
inductive Misfit where
  | wrongType (what : Found) (expected : String)
  | wrongValue (what : Found) (expected : String)
  | wrongLength (length : Nat) (expected : String)
  | unknownName (name : String) (known : List String)
  | missingField (name : String)
  | duplicateField (name : String)
  /-- A text that does not denote a value of the domain, with the reason. -/
  | malformed (reason : String)
  deriving Repr

/-- The known names, as a message lists them. -/
def nameList : List String → String
  | [] => "there are no variants"
  | [a] => s!"expected `{a}`"
  | [a, b] => s!"expected `{a}` or `{b}`"
  | names => "expected one of " ++ ", ".intercalate (names.map fun n => s!"`{n}`")

/-- The wording of a misfit. -/
def Misfit.message : Misfit → String
  | .wrongType what expected => s!"invalid type: {what.message}, expected {expected}"
  | .wrongValue what expected => s!"invalid value: {what.message}, expected {expected}"
  | .wrongLength length expected => s!"invalid length {length}, expected {expected}"
  | .unknownName name known => s!"unknown variant `{name}`, {nameList known}"
  | .missingField name => s!"missing field `{name}`"
  | .duplicateField name => s!"duplicate field `{name}`"
  | .malformed reason => reason

/-- The result of a decoder. -/
abbrev Decoded := Except Misfit

/-! ## Simple values -/

/-- Decodes a text. -/
def asText : Json → Decoded String
  | .string s => .ok s
  | v => .error (.wrongType v.found "a string")

/-- Decodes a truth value. -/
def asBool : Json → Decoded Bool
  | .bool b => .ok b
  | v => .error (.wrongType v.found "a boolean")

/-- Decodes a natural number; `expected` names the kind of number in messages. -/
def asNatural (expected : String) : Json → Decoded Nat
  | .number (.natural n) => .ok n
  | .number (.negative n) => .error (.wrongValue (.number (.negative n)) expected)
  | v => .error (.wrongType v.found expected)

/-- Decodes a count of characters, lines or the like. -/
def asCount : Json → Decoded Nat := asNatural "usize"

/-- Decodes an unsigned 64-bit number. -/
def asUnsigned (v : Json) : Decoded UInt64 := (asNatural "u64" v).map UInt64.ofNat

/-- Decodes a signed 64-bit number. -/
def asSigned : Json → Decoded Int64
  | .number (.natural n) =>
    if n ≤ Numeral.maxSigned then .ok (Int64.ofNat n)
    else .error (.wrongValue (.number (.natural n)) "i64")
  | .number (.negative n) => .ok (Int64.ofInt (-n))
  | v => .error (.wrongType v.found "i64")

/-- Decodes a value that may be `null`. -/
def asOptional {α : Type} (decode : Json → Decoded α) : Json → Decoded (Option α)
  | .null => .ok none
  | v => (decode v).map some

/-- Decodes a list, item by item. -/
def asList {α : Type} (decode : Json → Decoded α) : Json → Decoded (List α)
  | .array items => items.mapM decode
  | v => .error (.wrongType v.found "a sequence")

/-! ## Records -/

/-- Whether a field may be left out. -/
inductive Presence where
  /-- It may not. -/
  | required
  /-- From an object, but not from an array. -/
  | optional
  /-- From both; it then keeps its default. -/
  | defaulted
  deriving DecidableEq, Repr

/-- A field of a record of type `σ`. -/
structure Field (σ : Type) where
  name : String
  presence : Presence
  /-- Decodes the field's value and puts it into the record. -/
  put : Json → σ → Decoded σ

/-- A field that takes what `decode` gives. -/
def Field.of {σ α : Type} (name : String) (presence : Presence) (decode : Json → Decoded α)
    (set : α → σ → σ) : Field σ :=
  { name, presence, put := fun v r => (decode v).map fun a => set a r }

/-- How a record is decoded. -/
structure Record (σ : Type) where
  /-- The record's name in messages. -/
  name : String
  fields : List (Field σ)
  /-- The record before any field is put into it. -/
  start : σ

namespace Record

variable {σ : Type}

/-- Puts the members of an object into the record, in their order. -/
def putMembers (r : Record σ) (members : List (String × Json)) : Decoded σ :=
  members.foldlM (fun s (key, v) =>
    match r.fields.find? fun f => f.name == key with
    | some f => f.put v s
    | none => .ok s) r.start

/-- Decodes from the members of an object. -/
def ofMembers (r : Record σ) (members : List (String × Json)) : Decoded σ := do
  let s ← r.putMembers members
  let isMissing (f : Field σ) : Bool :=
    f.presence == .required && !(members.any fun m => m.1 == f.name)
  match r.fields.find? isMissing with
  | some f => .error (.missingField f.name)
  | none => return s

/-- Puts items into fields by position; the result also has the items that are left. -/
def putItems (r : Record σ) : (fields : List (Field σ)) → (items : List Json) → (read : Nat) → σ →
    Decoded (σ × List Json)
  | [], items, _, s => .ok (s, items)
  | f :: fields, [], read, s =>
    if f.presence = .defaulted then r.putItems fields [] read s
    else .error (.wrongLength read s!"{r.name} with {r.fields.length} elements")
  | f :: fields, v :: items, read, s => do r.putItems fields items (read + 1) (← f.put v s)

/-- Decodes from the items of an array; `surplus` names the expected length if there are too many.
-/
def ofItems (r : Record σ) (surplus : String) (items : List Json) : Decoded σ := do
  let (s, rest) ← r.putItems r.fields items 0 r.start
  if rest.isEmpty then return s else .error (.wrongLength items.length surplus)

/-- Decodes a record from an object or an array. -/
def decode (r : Record σ) : Json → Decoded σ
  | .object members => r.ofMembers members
  | .array items => r.ofItems "fewer elements in array" items
  | v => .error (.wrongType v.found r.name)

end Record

/-! ## Alternatives -/

/-- The name and the value of an alternative: a bare name, or an object with one member. -/
def asAlternative : Json → Decoded (String × Option Json)
  | .string name => .ok (name, none)
  | .object [(name, v)] => .ok (name, some v)
  | .object _ => .error (.wrongValue .map "map with a single key")
  | v => .error (.wrongType v.found "string or map")

/-- Decodes a name out of a list; as an object its value has to be `null`. -/
def asName {α : Type} (known : List (String × α)) (v : Json) : Decoded α := do
  let (name, payload) ← asAlternative v
  match known.lookup name with
  | none => .error (.unknownName name (known.map Prod.fst))
  | some a =>
    match payload with
    | none => return a
    | some .null => return a
    | some v => .error (.wrongType v.found "unit")

/-- Decodes the value of an alternative that carries one. -/
def asPayload {α : Type} (decode : Json → Decoded α) : Option Json → Decoded α
  | some v => decode v
  | none => .error (.wrongType .bareName "newtype variant")

/-- Decodes the fields of an alternative that carries a record. -/
def asFields {σ : Type} (r : Record σ) : Option Json → Decoded σ
  | some (.object members) => r.ofMembers members
  | some v => .error (.wrongType v.found "struct variant")
  | none => .error (.wrongType .bareName "struct variant")

end Composer.Json
