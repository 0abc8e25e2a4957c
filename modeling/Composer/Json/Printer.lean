import Composer.Json.Basic
import Composer.Text.Numeral
set_option autoImplicit false

/-!
# JSON texts

The compact text of a value: no white space, members in their order, and only the characters escaped
that may not stand in a string.
-/

namespace Composer.Json

/-- A character as it stands between quotation marks. -/
def escapeChar (c : Char) : List Char :=
  if c = '"' then ['\\', '"']
  else if c = '\\' then ['\\', '\\']
  else if c = '\n' then ['\\', 'n']
  else if c = '\r' then ['\\', 'r']
  else if c = '\t' then ['\\', 't']
  else if c = '\x08' then ['\\', 'b']
  else if c = '\x0c' then ['\\', 'f']
  else if c.toNat < 0x20 then
    ['\\', 'u', '0', '0', Numeral.hexLower (c.toNat / 16), Numeral.hexLower (c.toNat % 16)]
  else [c]

/-- A text between quotation marks. -/
def quote (cs : List Char) : List Char := '"' :: cs.flatMap escapeChar ++ ['"']

/-- The exponent of a number in scientific form, always with its sign. -/
def exponentText (e : Int) : List Char :=
  'e' :: (if e < 0 then '-' else '+') :: Numeral.digits e.natAbs

/-- A floating-point number: positional from `1e-5` up to `1e16`, in scientific form beyond, always
with a fraction or an exponent. -/
def floatText (x : Binary64) : List Char :=
  if x.mantissa = 0 then ['0', '.', '0']
  else
    let short := x.shortest
    let ds := Numeral.digits short.digits
    let point : Int := short.exponent + ds.length
    if 0 ≤ short.exponent ∧ point ≤ 16 then
      ds ++ List.replicate short.exponent.toNat '0' ++ ['.', '0']
    else if 0 < point ∧ point ≤ 16 then ds.take point.toNat ++ ['.'] ++ ds.drop point.toNat
    else if -5 < point ∧ point ≤ 0 then
      ['0', '.'] ++ List.replicate (-point).toNat '0' ++ ds
    else
      let fraction := if ds.length = 1 then [] else '.' :: ds.drop 1
      ds.take 1 ++ fraction ++ exponentText (point - 1)

/-- The text of a number. -/
def Number.text : Number → List Char
  | .natural n => Numeral.digits n
  | .negative n => '-' :: Numeral.digits n
  | .float minus x => if minus then '-' :: floatText x else floatText x

/-- Texts with a comma between each two. -/
def commaSeparated : List (List Char) → List Char
  | [] => []
  | [t] => t
  | t :: rest => t ++ ',' :: commaSeparated rest

mutual

/-- The compact text of a value. -/
def text : Json → List Char
  | .null => ['n', 'u', 'l', 'l']
  | .bool true => ['t', 'r', 'u', 'e']
  | .bool false => ['f', 'a', 'l', 's', 'e']
  | .number n => n.text
  | .string s => quote s.toList
  | .array items => '[' :: commaSeparated (itemTexts items) ++ [']']
  | .object members => '{' :: commaSeparated (memberTexts members) ++ ['}']

/-- The texts of an array's items. -/
def itemTexts : List Json → List (List Char)
  | [] => []
  | v :: rest => text v :: itemTexts rest

/-- The texts of an object's members. -/
def memberTexts : List (String × Json) → List (List Char)
  | [] => []
  | (k, v) :: rest => (quote k.toList ++ ':' :: text v) :: memberTexts rest

end

/-- The compact text of a value, as a string. -/
def render (v : Json) : String := String.ofList (text v)

end Composer.Json
