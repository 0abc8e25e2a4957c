import Composer.Json.Basic
import Composer.Text.Numeral
import Composer.Text.Utf8
set_option autoImplicit false

/-!
# Reading JSON texts

Readers take the unread characters and give a result with the characters that remain. A failure
records how many bytes were unread where it was noticed, so that its line and column can be found
from the whole text. Values may be nested 127 deep.
-/

namespace Composer.Json

/-- What can be wrong with a JSON text. -/
inductive Mistake where
  | eofInList
  | eofInObject
  | eofInString
  | eofInValue
  | expectedColon
  | expectedCommaOrBracket
  | expectedCommaOrBrace
  | expectedIdent
  | expectedValue
  | invalidEscape
  | invalidNumber
  | numberOutOfRange
  | controlCharacter
  | keyMustBeString
  | loneSurrogate
  | trailingComma
  | trailingCharacters
  | unfinishedSurrogatePair
  | tooDeep
  deriving DecidableEq, Repr

/-- The wording of a mistake. -/
def Mistake.message : Mistake → String
  | .eofInList => "EOF while parsing a list"
  | .eofInObject => "EOF while parsing an object"
  | .eofInString => "EOF while parsing a string"
  | .eofInValue => "EOF while parsing a value"
  | .expectedColon => "expected `:`"
  | .expectedCommaOrBracket => "expected `,` or `]`"
  | .expectedCommaOrBrace => "expected `,` or `\x7d`"
  | .expectedIdent => "expected ident"
  | .expectedValue => "expected value"
  | .invalidEscape => "invalid escape"
  | .invalidNumber => "invalid number"
  | .numberOutOfRange => "number out of range"
  | .controlCharacter => "control character (\\u0000-\\u001F) found while parsing a string"
  | .keyMustBeString => "key must be a string"
  | .loneSurrogate => "lone leading surrogate in hex escape"
  | .trailingComma => "trailing comma"
  | .trailingCharacters => "trailing characters"
  | .unfinishedSurrogatePair => "unexpected end of hex escape"
  | .tooDeep => "recursion limit exceeded"

/-- A failure of some kind and how many bytes were still unread where it was noticed. -/
structure Failure (ε : Type) where
  cause : ε
  unread : Nat
  deriving DecidableEq, Repr

/-- A failure just before the next byte. -/
def Failure.before {ε : Type} (cs : List Char) (cause : ε) : Failure ε :=
  { cause, unread := Utf8.size cs }

/-- A failure just behind the next byte, or at the end of the text. -/
def Failure.behind {ε : Type} (cs : List Char) (cause : ε) : Failure ε :=
  { cause, unread := Utf8.size cs - 1 }

/-- The result of a reader, which pairs what it read with the rest of the text. -/
abbrev Read := Except (Failure Mistake)

/-- White space between tokens. -/
def isLayout (c : Char) : Bool := c == ' ' || c == '\n' || c == '\t' || c == '\r'

/-- The text from its next token on. -/
def skipLayout (cs : List Char) : List Char := cs.dropWhile isLayout

/-- Reads the remaining letters of a keyword. -/
def keyword : (letters : List Char) → List Char → Except (Failure Mistake) (List Char)
  | [], cs => .ok cs
  | _ :: _, [] => .error (.before [] .eofInValue)
  | x :: xs, c :: cs => if c = x then keyword xs cs else .error (.behind (c :: cs) .expectedIdent)

/-! ## Numbers -/

/-- Decimal digits read as a number as long as it stays below `2 ^ 64`: the number, how many digits
it took, and the rest. -/
def wordDigits (n count : Nat) : List Char → Nat × Nat × List Char
  | [] => (n, count, [])
  | c :: cs =>
    if Numeral.isDigit c && n * 10 + Numeral.digitValue c ≤ Numeral.maxUnsigned then
      wordDigits (n * 10 + Numeral.digitValue c) (count + 1) cs
    else (n, count, c :: cs)

/-- `significand * 10 ^ exponent`, where the significand and the power are rounded before they are
combined. Exponents below -308 divide in several steps, `n` at most. -/
def scaled (significand : Binary64) (exponent : Int) : (n : Nat) → Option Binary64
  | 0 => some .zero
  | n + 1 =>
    if exponent.natAbs ≤ 308 then do
      let power ← Binary64.ofRatio (Nat.pow 10 exponent.natAbs) 1
      if 0 ≤ exponent then significand.mul power else significand.div power
    else if significand.mantissa = 0 then some .zero
    else if 0 ≤ exponent then none
    else do
      let power ← Binary64.ofRatio (Nat.pow 10 308) 1
      let smaller ← significand.div power
      scaled smaller (exponent + 308) n

/-- The floating-point number with these parts. -/
def floatOf (minus : Bool) (significand : Nat) (exponent : Int) (rest : List Char) :
    Read (Number × List Char) :=
  match (Binary64.ofRatio significand 1).bind fun s => scaled s exponent 5 with
  | some x => .ok (.float minus x, rest)
  | none => .error (.before rest .numberOutOfRange)

/-- The digits of an exponent read as a number below `2 ^ 31`. -/
def exponentDigits (n : Nat) : List Char → Nat × List Char
  | [] => (n, [])
  | c :: cs =>
    if Numeral.isDigit c && n * 10 + Numeral.digitValue c < 0x80000000 then
      exponentDigits (n * 10 + Numeral.digitValue c) cs
    else (n, c :: cs)

/-- Reads an exponent after its letter. -/
def exponentPart (minus : Bool) (significand : Nat) (start : Int) (cs : List Char) :
    Read (Number × List Char) :=
  let (negative, cs) := match cs with
    | '+' :: rest => (false, rest)
    | '-' :: rest => (true, rest)
    | _ => (false, cs)
  match cs with
  | [] => .error (.before [] .eofInValue)
  | d :: rest =>
    if !Numeral.isDigit d then .error (.behind (d :: rest) .invalidNumber)
    else
      let (e, rest) := exponentDigits (Numeral.digitValue d) rest
      if (rest.head?.map Numeral.isDigit).getD false then
        if significand ≠ 0 ∧ !negative then .error (.behind rest .numberOutOfRange)
        else .ok (.float minus .zero, rest.dropWhile Numeral.isDigit)
      else floatOf minus significand (if negative then start - e else start + e) rest

/-- Reads a fraction after its point; `start` is the exponent of the digits before it. Digits beyond
64 bits do not count. -/
def fractionPart (minus : Bool) (significand : Nat) (start : Int) (cs : List Char) :
    Read (Number × List Char) :=
  let (n, count, rest) := wordDigits significand 0 cs
  let overflow := (rest.head?.map Numeral.isDigit).getD false
  if count = 0 ∧ !overflow then
    match rest with
    | [] => .error (.before [] .eofInValue)
    | _ => .error (.behind rest .invalidNumber)
  else
    let rest := rest.dropWhile Numeral.isDigit
    let exponent := start - count
    match rest with
    | 'e' :: rest => exponentPart minus n exponent rest
    | 'E' :: rest => exponentPart minus n exponent rest
    | _ => floatOf minus n exponent rest

/-- Reads what follows the digits before the point. Digits beyond 64 bits only raise the exponent.
-/
def afterDigits (minus : Bool) (n : Nat) (cs : List Char) : Read (Number × List Char) :=
  let dropped := cs.takeWhile Numeral.isDigit
  let rest := cs.dropWhile Numeral.isDigit
  match rest with
  | '.' :: rest => fractionPart minus n dropped.length rest
  | 'e' :: rest => exponentPart minus n dropped.length rest
  | 'E' :: rest => exponentPart minus n dropped.length rest
  | _ =>
    if dropped ≠ [] then floatOf minus n dropped.length rest
    else if !minus then .ok (.natural n, rest)
    else if n = 0 ∨ Numeral.maxSigned + 1 < n then floatOf true n 0 rest
    else .ok (.negative n, rest)

/-- Reads a number after its sign. A leading zero stands alone. -/
def numeral (minus : Bool) : List Char → Read (Number × List Char)
  | [] => .error (.before [] .eofInValue)
  | '0' :: cs =>
    if (cs.head?.map Numeral.isDigit).getD false then .error (.behind cs .invalidNumber)
    else afterDigits minus 0 cs
  | c :: cs =>
    if Numeral.isDigit c then
      let (n, _, rest) := wordDigits (Numeral.digitValue c) 1 cs
      afterDigits minus n rest
    else .error (.behind (c :: cs) .invalidNumber)

/-! ## Strings -/

/-- Four hexadecimal digits. -/
def hexFour : List Char → Read (Nat × List Char)
  | a :: b :: c :: d :: rest =>
    match Numeral.hexValue? a, Numeral.hexValue? b, Numeral.hexValue? c, Numeral.hexValue? d with
    | some a, some b, some c, some d => .ok (((a * 16 + b) * 16 + c) * 16 + d, rest)
    | _, _, _, _ =>
      .error { cause := .invalidEscape, unread := Utf8.size (a :: b :: c :: d :: rest) - 4 }
  | cs =>
    if Utf8.size cs < 4 then .error (.before [] .eofInString)
    else .error { cause := .invalidEscape, unread := Utf8.size cs - 4 }

/-- The second half of a surrogate pair, after the first. -/
def lowSurrogate (high : Nat) : List Char → Read (Char × List Char)
  | [] => .error (.before [] .eofInString)
  | '\\' :: [] => .error (.before [] .eofInString)
  | '\\' :: 'u' :: cs => do
    let (low, rest) ← hexFour cs
    if 0xDC00 ≤ low ∧ low ≤ 0xDFFF then
      return (Char.ofNat ((high - 0xD800) * 0x400 + (low - 0xDC00) + 0x10000), rest)
    else .error (.before rest .loneSurrogate)
  | '\\' :: cs => .error (.behind cs .unfinishedSurrogatePair)
  | cs => .error (.behind cs .unfinishedSurrogatePair)

/-- Reads an escaped character after its backslash. -/
def escaped : List Char → Read (Char × List Char)
  | [] => .error (.before [] .eofInString)
  | 'u' :: cs => do
    let (n, rest) ← hexFour cs
    if 0xDC00 ≤ n ∧ n ≤ 0xDFFF then .error (.before rest .loneSurrogate)
    else if 0xD800 ≤ n ∧ n ≤ 0xDBFF then lowSurrogate n rest
    else return (Char.ofNat n, rest)
  | c :: cs =>
    match c with
    | '"' => .ok ('"', cs)
    | '\\' => .ok ('\\', cs)
    | '/' => .ok ('/', cs)
    | 'b' => .ok ('\x08', cs)
    | 'f' => .ok ('\x0c', cs)
    | 'n' => .ok ('\n', cs)
    | 'r' => .ok ('\r', cs)
    | 't' => .ok ('\t', cs)
    | _ => .error (.behind (c :: cs) .invalidEscape)

/-- Reads a string after its first quotation mark, of at most `n` characters. -/
def stringWithin : (n : Nat) → List Char → Read (List Char × List Char)
  | _, [] => .error (.before [] .eofInString)
  | 0, _ => .error (.before [] .eofInString)
  | n + 1, c :: cs =>
    if c = '"' then .ok ([], cs)
    else if c = '\\' then do
      let (x, rest) ← escaped cs
      let (xs, rest) ← stringWithin n rest
      return (x :: xs, rest)
    else if c.toNat < 0x20 then .error (.before cs .controlCharacter)
    else do
      let (xs, rest) ← stringWithin n cs
      return (c :: xs, rest)

/-- Reads a string after its first quotation mark. -/
def stringBody (cs : List Char) : Read (String × List Char) := do
  let (xs, rest) ← stringWithin cs.length cs
  return (String.ofList xs, rest)

/-! ## Values -/

/-- Reads the items of an array after its bracket, at most `n` of them. -/
def itemsWithin {α : Type} (item : List Char → Read (α × List Char)) :
    (n : Nat) → (first : Bool) → List Char → Read (List α × List Char)
  | 0, _, _ => .error (.before [] .eofInList)
  | n + 1, first, cs => do
    let next (cs : List Char) : Read (List α × List Char) := do
      let (x, rest) ← item cs
      let (xs, rest) ← itemsWithin item n false rest
      return (x :: xs, rest)
    match skipLayout cs with
    | [] => .error (.before [] .eofInList)
    | ']' :: rest => return ([], rest)
    | c :: rest =>
      if first then next (c :: rest)
      else if c ≠ ',' then .error (.behind (c :: rest) .expectedCommaOrBracket)
      else match skipLayout rest with
        | [] => .error (.before [] .eofInValue)
        | ']' :: rest => .error (.behind (']' :: rest) .trailingComma)
        | rest => next rest

/-- Reads the colon behind a key. -/
def colon (cs : List Char) : Except (Failure Mistake) (List Char) :=
  match skipLayout cs with
  | ':' :: rest => .ok rest
  | [] => .error (.before [] .eofInObject)
  | rest => .error (.behind rest .expectedColon)

/-- Reads the members of an object after its brace, at most `n` of them. -/
def membersWithin {α : Type} (item : List Char → Read (α × List Char)) :
    (n : Nat) → (first : Bool) → List Char → Read (List (String × α) × List Char)
  | 0, _, _ => .error (.before [] .eofInObject)
  | n + 1, first, cs => do
    let next (cs : List Char) : Read (List (String × α) × List Char) := do
      let (key, rest) ← stringBody cs
      let rest ← colon rest
      let (x, rest) ← item rest
      let (xs, rest) ← membersWithin item n false rest
      return ((key, x) :: xs, rest)
    match skipLayout cs with
    | [] => .error (.before [] .eofInObject)
    | '}' :: rest => return ([], rest)
    | c :: rest =>
      if first then
        if c = '"' then next rest else .error (.behind (c :: rest) .keyMustBeString)
      else if c ≠ ',' then .error (.behind (c :: rest) .expectedCommaOrBrace)
      else match skipLayout rest with
        | [] => .error (.before [] .eofInValue)
        | '"' :: rest => next rest
        | '}' :: rest => .error (.behind ('}' :: rest) .trailingComma)
        | rest => .error (.behind rest .keyMustBeString)

/-- Reads a value in which arrays and objects may be nested `depth` deep. -/
def value (depth : Nat) (cs : List Char) : Read (Json × List Char) :=
  match skipLayout cs with
  | [] => .error (.before [] .eofInValue)
  | 'n' :: rest => (keyword ['u', 'l', 'l'] rest).map fun rest => (.null, rest)
  | 't' :: rest => (keyword ['r', 'u', 'e'] rest).map fun rest => (.bool true, rest)
  | 'f' :: rest => (keyword ['a', 'l', 's', 'e'] rest).map fun rest => (.bool false, rest)
  | '-' :: rest => do
    let (n, rest) ← numeral true rest
    return (.number n, rest)
  | '"' :: rest => do
    let (s, rest) ← stringBody rest
    return (.string s, rest)
  | '[' :: rest =>
    match depth with
    | 0 => .error (.behind ('[' :: rest) .tooDeep)
    | depth + 1 => do
      let (items, rest) ← itemsWithin (value depth) (rest.length + 1) true rest
      return (.array items, rest)
  | '{' :: rest =>
    match depth with
    | 0 => .error (.behind ('{' :: rest) .tooDeep)
    | depth + 1 => do
      let (members, rest) ← membersWithin (value depth) (rest.length + 1) true rest
      return (.ofMembers members, rest)
  | c :: rest =>
    if Numeral.isDigit c then do
      let (n, rest) ← numeral false (c :: rest)
      return (.number n, rest)
    else .error (.behind (c :: rest) .expectedValue)

/-- How deep arrays and objects may be nested. -/
def maxDepth : Nat := 127

/-- Checks that nothing but white space is left. -/
def finish (cs : List Char) : Except (Failure Mistake) Unit :=
  match skipLayout cs with
  | [] => .ok ()
  | rest => .error (.behind rest .trailingCharacters)

/-- The value of a whole text. -/
def readChars (cs : List Char) : Except (Failure Mistake) Json := do
  let (v, rest) ← value maxDepth cs
  finish rest
  return v

/-! ## Places in a text -/

/-- Line and column of the byte at an offset: lines count from one, columns count the bytes since
the last newline before it. -/
def placeOf (offset : Nat) : (line column : Nat) → List Char → Nat × Nat
  | line, column, [] => (line, column)
  | line, column, c :: cs =>
    if offset = 0 then (line, column)
    else if c = '\n' then placeOf (offset - 1) (line + 1) 0 cs
    else if offset ≤ c.utf8Size then (line, column + offset)
    else placeOf (offset - c.utf8Size) line (column + c.utf8Size) cs

/-- The text that names the place where `unread` bytes of a text are left. -/
def placeText (cs : List Char) (unread : Nat) : String :=
  let (line, column) := placeOf (Utf8.size cs - unread) 1 0 cs
  s!" at line {line} column {column}"

/-- The value of a text, or what is wrong with it and where. -/
def parse (s : String) : Except String Json :=
  match readChars s.toList with
  | .ok v => .ok v
  | .error e => .error (e.cause.message ++ placeText s.toList e.unread)

end Composer.Json
