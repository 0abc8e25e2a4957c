import Composer.Number.Binary64
set_option autoImplicit false

/-!
# JSON values

A number is kept as it was written: a natural number below `2 ^ 64`, a negative number down to
`-2 ^ 63`, or a floating-point number for anything with a fraction, an exponent or more digits. The
members of an object that was read are in the order of their keys, each key once.
-/

namespace Composer

/-- A JSON number. -/
inductive Json.Number where
  /-- A number without sign, fraction or exponent. -/
  | natural (n : Nat)
  /-- The number `-n`. -/
  | negative (n : Nat)
  /-- A floating-point number with its sign. -/
  | float (negative : Bool) (magnitude : Binary64)
  deriving DecidableEq, Repr

/-- A JSON value. -/
inductive Json where
  | null
  | bool (b : Bool)
  | number (n : Json.Number)
  | string (s : String)
  | array (items : List Json)
  | object (members : List (String × Json))
  deriving Repr

namespace Json

/-- A natural number as a value. -/
def nat (n : Nat) : Json := .number (.natural n)

/-- An integer as a value. -/
def int (n : Int) : Json :=
  .number (if n < 0 then .negative n.natAbs else .natural n.natAbs)

/-- A text, or `null` if it is absent. -/
def optional (s : Option String) : Json := s.elim .null .string

/-- The member of an object with this key. -/
def get? (key : String) : Json → Option Json
  | .object members => members.lookup key
  | _ => none

/-- The text of a string value. -/
def asString? : Json → Option String
  | .string s => some s
  | _ => none

/-- Puts a member at its place in a list ordered by keys; a member with the same key is replaced. -/
def insertMember (key : String) (value : Json) : List (String × Json) → List (String × Json)
  | [] => [(key, value)]
  | (k, v) :: rest =>
    if key < k then (key, value) :: (k, v) :: rest
    else if key = k then (key, value) :: rest
    else (k, v) :: insertMember key value rest

/-- Members as they were written, put in order; of two with the same key the later one stays. -/
def ofMembers (members : List (String × Json)) : Json :=
  .object (members.foldl (fun sorted (k, v) => insertMember k v sorted) [])

end Json
end Composer
