import Composer.Text.Numeral
import Composer.Text.Space
set_option autoImplicit false

/-!
# Points in time

An instant is counted from the start of 1970 in universal time. Its written form is that of RFC
3339: writing always uses `Z` and as many groups of three fraction digits as are needed, reading
also accepts offsets, some white space, and fields of fewer digits.
-/

namespace Composer

/-- A point in time. -/
structure Instant where
  /-- Whole seconds since the start of 1970, universal time. -/
  seconds : Int
  /-- Billionths of a second; values from `10 ^ 9` on lie in a leap second. -/
  nanos : Nat
  deriving DecidableEq, Repr

namespace Instant

/-! ## Calendar -/

/-- Days from the start of 1970 to a date of the Gregorian calendar. Years are counted from March,
so that a leap day comes last. -/
def daysOf (year : Int) (month day : Nat) : Int :=
  let y := if month ≤ 2 then year - 1 else year
  let era := y.fdiv 400
  let yearOfEra := (y - era * 400).toNat
  let monthFromMarch := (month + 9) % 12
  let dayOfYear := (153 * monthFromMarch + 2) / 5 + day - 1
  era * 146097 + (yearOfEra * 365 + yearOfEra / 4 - yearOfEra / 100 + dayOfYear : Nat) - 719468

/-- Year, month and day of a date given in days from the start of 1970. -/
def dateOf (days : Int) : Int × Nat × Nat :=
  let z := days + 719468
  let era := z.fdiv 146097
  let dayOfEra := (z - era * 146097).toNat
  let yearOfEra := (dayOfEra - dayOfEra / 1460 + dayOfEra / 36524 - dayOfEra / 146096) / 365
  let dayOfYear := dayOfEra - (365 * yearOfEra + yearOfEra / 4 - yearOfEra / 100)
  let monthFromMarch := (5 * dayOfYear + 2) / 153
  let day := dayOfYear - (153 * monthFromMarch + 2) / 5 + 1
  let month := if monthFromMarch < 10 then monthFromMarch + 3 else monthFromMarch - 9
  let year := (yearOfEra : Int) + era * 400
  (if month ≤ 2 then year + 1 else year, month, day)

/-- Whether a year of the Gregorian calendar has a leap day. -/
def isLeapYear (year : Int) : Bool :=
  year % 4 == 0 && (year % 100 != 0 || year % 400 == 0)

/-- How many days a month has. -/
def daysInMonth (year : Int) (month : Nat) : Nat :=
  if month == 2 then if isLeapYear year then 29 else 28
  else if month == 4 || month == 6 || month == 9 || month == 11 then 30
  else 31

/-! ## Writing -/

/-- The year, with a sign if it does not have four digits. -/
def yearText (year : Int) : List Char :=
  if 0 ≤ year ∧ year ≤ 9999 then Numeral.padded 4 year.toNat
  else (if year < 0 then '-' else '+') :: Numeral.padded 4 year.natAbs

/-- The fraction of a second in groups of three digits, as many as are needed. -/
def fractionText (nanos : Nat) : List Char :=
  if nanos = 0 then []
  else if nanos % 1000000 = 0 then '.' :: Numeral.padded 3 (nanos / 1000000)
  else if nanos % 1000 = 0 then '.' :: Numeral.padded 6 (nanos / 1000)
  else '.' :: Numeral.padded 9 nanos

/-- The written form of an instant. -/
def text (t : Instant) : List Char :=
  let days := t.seconds.fdiv 86400
  let second := (t.seconds - days * 86400).toNat
  let (year, month, day) := dateOf days
  let leap := 1000000000 ≤ t.nanos
  yearText year ++ '-' :: Numeral.padded 2 month ++ '-' :: Numeral.padded 2 day
    ++ 'T' :: Numeral.padded 2 (second / 3600) ++ ':' :: Numeral.padded 2 (second / 60 % 60)
    ++ ':' :: Numeral.padded 2 (second % 60 + if leap then 1 else 0)
    ++ fractionText (if leap then t.nanos - 1000000000 else t.nanos) ++ ['Z']

/-! ## Reading -/

/-- Why a text is not an instant. -/
inductive ReadError where
  | tooShort
  | invalid
  | outOfRange
  | impossible
  | tooLong
  deriving DecidableEq, Repr

/-- The wording of a read error. -/
def ReadError.message : ReadError → String
  | .tooShort => "premature end of input"
  | .invalid => "input contains invalid characters"
  | .outOfRange => "input is out of range"
  | .impossible => "no possible date and time matching input"
  | .tooLong => "trailing input"

/-- The result of reading a part of a text, which pairs what was read with the rest. -/
abbrev Part := Except ReadError

/-- Reads between one and `width` digits. -/
def digitsUpTo (width : Nat) (cs : List Char) : Part (Nat × List Char) :=
  let ds := (cs.take width).takeWhile Numeral.isDigit
  if ds.isEmpty then .error (if cs.isEmpty then .tooShort else .invalid)
  else
    let n := Numeral.ofDigits ds
    if n ≤ Numeral.maxSigned then .ok (n, cs.drop ds.length) else .error .outOfRange

/-- Reads a field after white space and checks its range. -/
def field (width low high : Nat) (cs : List Char) : Part (Nat × List Char) :=
  match digitsUpTo width (Chars.trimStart cs) with
  | .ok (n, rest) => if low ≤ n ∧ n ≤ high then .ok (n, rest) else .error .outOfRange
  | .error e => .error e

/-- The largest number that a year can be written with; the smallest is its negative less one. -/
def maxWrittenYear : Nat := 0x7FFFFFFF

/-- Reads a year: up to four digits, or any number of digits after a sign. -/
def year (cs : List Char) : Part (Int × List Char) :=
  let (sign, part) : Int × Part (Nat × List Char) := match Chars.trimStart cs with
    | '-' :: rest => (-1, digitsUpTo rest.length rest)
    | '+' :: rest => (1, digitsUpTo rest.length rest)
    | rest => (1, digitsUpTo 4 rest)
  match part with
  | .ok (n, rest) =>
    let y := sign * n
    if -maxWrittenYear - 1 ≤ y ∧ y ≤ maxWrittenYear then .ok (y, rest) else .error .outOfRange
  | .error e => .error e

/-- Reads one given character. -/
def literal (c : Char) : List Char → Except ReadError (List Char)
  | [] => .error .tooShort
  | d :: rest => if d = c then .ok rest else .error .invalid

/-- Reads the fraction of a second, if there is one. Digits beyond the ninth do not count. -/
def fraction : List Char → Part (Nat × List Char)
  | '.' :: cs => do
    let (n, rest) ← digitsUpTo 9 cs
    let count := cs.length - rest.length
    return (n * Nat.pow 10 (9 - count), rest.dropWhile Numeral.isDigit)
  | cs => .ok (0, cs)

/-- Reads two digits of an offset. -/
def twoDigits : List Char → Part ((Nat × Nat) × List Char)
  | a :: b :: rest =>
    if Numeral.isDigit a && Numeral.isDigit b then
      .ok ((Numeral.digitValue a, Numeral.digitValue b), rest)
    else .error .invalid
  | [c] => .error (if c.utf8Size < 2 then .tooShort else .invalid)
  | [] => .error .tooShort

/-- Reads an offset from universal time, in seconds. -/
def offset (cs : List Char) : Part (Int × List Char) := do
  match cs with
  | 'Z' :: rest => return (0, rest)
  | 'z' :: rest => return (0, rest)
  | [] => .error .tooShort
  | sign :: rest =>
    if sign ≠ '+' ∧ sign ≠ '-' ∧ sign ≠ '\u2212' then .error .invalid
    else
      let ((h, h'), rest) ← twoDigits rest
      let rest := rest.dropWhile fun c => c == ':' || Chars.isSpace c
      let ((m, m'), rest) ← twoDigits rest
      if 6 ≤ m then .error .outOfRange
      else
        let seconds : Int := (h * 10 + h') * 3600 + (m * 10 + m') * 60
        return (if sign = '+' then seconds else -seconds, rest)

/-- Reads an offset, or the name of universal time. -/
def zone (cs : List Char) : Part (Int × List Char) :=
  match cs with
  | a :: b :: c :: rest =>
    if a.toUpper = 'U' ∧ b.toUpper = 'T' ∧ c.toUpper = 'C' then .ok (0, rest) else offset cs
  | _ => offset cs

/-- The first year that is supported. -/
def firstYear : Int := -262143

/-- The last year that is supported. -/
def lastYear : Int := 262142

/-- Whether a count of seconds lies in a supported year. -/
def isSupported (seconds : Int) : Bool :=
  daysOf firstYear 1 1 * 86400 ≤ seconds && seconds < daysOf (lastYear + 1) 1 1 * 86400

/-- The instant that a text denotes. -/
def read (cs : List Char) : Except ReadError Instant := do
  let (y, cs) ← year cs
  let cs ← literal '-' (Chars.trimStart cs)
  let (month, cs) ← field 2 1 12 cs
  let cs ← literal '-' (Chars.trimStart cs)
  let (day, cs) ← field 2 1 31 cs
  let cs ← match cs with
    | [] => .error .tooShort
    | c :: rest => if c = 'T' ∨ c = 't' ∨ c = ' ' then .ok rest else .error .invalid
  let (hour, cs) ← field 2 0 23 cs
  let cs ← literal ':' (Chars.trimStart cs)
  let (minute, cs) ← field 2 0 59 cs
  let cs ← literal ':' (Chars.trimStart cs)
  let (second, cs) ← field 2 0 60 cs
  let (nanos, cs) ← fraction cs
  let (shift, cs) ← zone (Chars.trimStart cs)
  if !(Chars.trimStart cs).isEmpty then .error .tooLong
  else if y < firstYear ∨ lastYear < y ∨ daysInMonth y month < day ∨ 86400 ≤ shift.natAbs then
    .error .outOfRange
  else
    let there := daysOf y month day * 86400 + (hour * 3600 + minute * 60 + min second 59 : Nat)
    let nanos := if second = 60 then nanos + 1000000000 else nanos
    let seconds := there - shift
    if isSupported seconds then return { seconds, nanos } else .error .impossible

end Instant
end Composer
