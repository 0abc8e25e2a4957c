import Composer.Json.Reader
set_option autoImplicit false

/-!
# Skipping values

A value that nobody asks for is skipped without being built, and with fewer checks: strings may hold
lone surrogates, numbers may be of any size, and there is no limit on how deep values are nested.
-/

namespace Composer.Json

/-- The result of skipping: the rest of the text. -/
abbrev Skipped := Except (Failure Mistake) (List Char)

/-! ## Simple values -/

/-- Skips an exponent after its letter. -/
def skipExponent (cs : List Char) : Skipped :=
  let cs := match cs with
    | '+' :: rest => rest
    | '-' :: rest => rest
    | _ => cs
  match cs with
  | [] => .error (.before [] .invalidNumber)
  | c :: rest =>
    if Numeral.isDigit c then .ok (rest.dropWhile Numeral.isDigit)
    else .error (.behind (c :: rest) .invalidNumber)

/-- Skips what follows the digits of a fraction. -/
def skipAfterFraction : List Char → Skipped
  | 'e' :: cs => skipExponent cs
  | 'E' :: cs => skipExponent cs
  | cs => .ok cs

/-- Skips what follows the whole digits of a number. -/
def skipAfterDigits : List Char → Skipped
  | '.' :: cs =>
    if (cs.head?.map Numeral.isDigit).getD false then
      skipAfterFraction (cs.dropWhile Numeral.isDigit)
    else .error (.behind cs .invalidNumber)
  | cs => skipAfterFraction cs

/-- Skips a number after its sign. -/
def skipNumeral : List Char → Skipped
  | [] => .error (.before [] .invalidNumber)
  | '0' :: cs =>
    if (cs.head?.map Numeral.isDigit).getD false then .error (.behind cs .invalidNumber)
    else skipAfterDigits cs
  | c :: cs =>
    if Numeral.isDigit c then skipAfterDigits (cs.dropWhile Numeral.isDigit)
    else .error (.behind (c :: cs) .invalidNumber)

/-- Skips an escaped character after its backslash. -/
def skipEscaped : List Char → Skipped
  | [] => .error (.before [] .eofInString)
  | 'u' :: cs => (hexFour cs).map Prod.snd
  | c :: cs =>
    if ['"', '\\', '/', 'b', 'f', 'n', 'r', 't'].contains c then .ok cs
    else .error (.behind (c :: cs) .invalidEscape)

/-- Skips a string after its first quotation mark, of at most `n` characters. -/
def skipStringWithin : (n : Nat) → List Char → Skipped
  | _, [] => .error (.before [] .eofInString)
  | 0, _ => .error (.before [] .eofInString)
  | n + 1, c :: cs =>
    if c = '"' then .ok cs
    else if c = '\\' then do skipStringWithin n (← skipEscaped cs)
    else if c.toNat < 0x20 then .error (.before (c :: cs) .controlCharacter)
    else skipStringWithin n cs

/-- Skips a string after its first quotation mark. -/
def skipString (cs : List Char) : Skipped := skipStringWithin cs.length cs

/-- Skips a value that is neither an array nor an object. -/
def skipSimple : List Char → Skipped
  | 'n' :: cs => keyword ['u', 'l', 'l'] cs
  | 't' :: cs => keyword ['r', 'u', 'e'] cs
  | 'f' :: cs => keyword ['a', 'l', 's', 'e'] cs
  | '-' :: cs => skipNumeral cs
  | '"' :: cs => skipString cs
  | [] => .error (.before [] .eofInValue)
  | c :: cs =>
    if Numeral.isDigit c then skipNumeral (c :: cs) else .error (.behind (c :: cs) .expectedValue)

/-! ## Nested values -/

/-- An array or an object whose end is not reached yet. -/
inductive Enclosure where
  | array
  | object
  deriving DecidableEq, Repr

/-- The character that ends an array or an object. -/
def Enclosure.closing : Enclosure → Char
  | array => ']'
  | object => '}'

/-- The mistake of ending the text inside an array or an object. -/
def Enclosure.eof : Enclosure → Mistake
  | array => .eofInList
  | object => .eofInObject

/-- The mistake of putting something else behind a value than a comma or the end. -/
def Enclosure.expected : Enclosure → Mistake
  | array => .expectedCommaOrBracket
  | object => .expectedCommaOrBrace

/-- Skips what stands in front of a value: a key and its colon in an object. -/
def Enclosure.skipKey : Enclosure → List Char → Skipped
  | array, cs => .ok cs
  | object, cs =>
    match skipLayout cs with
    | [] => .error (.before [] .eofInObject)
    | '"' :: rest => do colon (← skipString rest)
    | rest => .error (.behind rest .keyMustBeString)

mutual

/-- Skips a value and then all that is open around it, in at most `n` steps. -/
def skipValue : (n : Nat) → (around : List Enclosure) → List Char → Skipped
  | 0, _, _ => .error (.before [] .eofInValue)
  | n + 1, around, cs =>
    match skipLayout cs with
    | [] => .error (.before [] .eofInValue)
    | '[' :: rest => skipRest n (.array :: around) false rest
    | '{' :: rest => skipRest n (.object :: around) false rest
    | rest => do skipRest n around true (← skipSimple rest)

/-- Skips the rest of all that is open, in at most `n` steps; `behindValue` tells whether a value
was just skipped, so that a comma may follow. -/
def skipRest : (n : Nat) → (around : List Enclosure) → (behindValue : Bool) → List Char → Skipped
  | _, [], _, cs => .ok cs
  | 0, _ :: _, _, _ => .error (.before [] .eofInValue)
  | n + 1, e :: around, behindValue, cs =>
    match skipLayout cs with
    | [] => .error (.before [] e.eof)
    | c :: rest =>
      if c = ',' && behindValue then do skipValue n (e :: around) (← e.skipKey rest)
      else if c = e.closing then skipRest n around true rest
      else if behindValue then .error (.behind (c :: rest) e.expected)
      else do skipValue n (e :: around) (← e.skipKey (c :: rest))

end

/-- Skips one value. -/
def skip (cs : List Char) : Skipped := skipValue (2 * cs.length + 1) [] cs

end Composer.Json
