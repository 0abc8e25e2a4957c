import Composer.Number.Binary64
import Composer.Text.Numeral
set_option autoImplicit false

/-!
# Numbers, dates and times in TOML

A value that is neither quoted nor bracketed is one unbroken run of characters, but for a single
space that may stand between a date and a time. What it is can be told from the run alone.
-/

namespace Composer.Toml

/-! ## Numbers -/

/-- Digits of some base in which single underscores may stand between two digits; the result is the
digits alone. -/
def groupedDigits? (isDigit : Char → Bool) : List Char → Option (List Char)
  | [] => none
  | [c] => if isDigit c then some [c] else none
  | c :: '_' :: cs => if isDigit c then (groupedDigits? isDigit cs).map (c :: ·) else none
  | c :: d :: cs => if isDigit c then (groupedDigits? isDigit (d :: cs)).map (c :: ·) else none

/-- Decimal digits without a leading zero. -/
def wholeDigits? (cs : List Char) : Option (List Char) :=
  match groupedDigits? Numeral.isDigit cs with
  | some ('0' :: _ :: _) => none
  | ds => ds

/-- A sign, which may be missing, and what follows it. -/
def signed : List Char → Bool × List Char
  | '+' :: cs => (false, cs)
  | '-' :: cs => (true, cs)
  | cs => (false, cs)

/-- The number that digits of some base write. -/
def ofBase (base : Nat) (ds : List Char) : Nat :=
  ds.foldl (fun n d => n * base + (Numeral.hexValue? d).getD 0) 0

/-- Whether a character is a digit of a base up to sixteen. -/
def isDigitOf (base : Nat) (c : Char) : Bool :=
  match Numeral.hexValue? c with
  | some n => n < base
  | none => false

/-- The magnitude of an integer and its sign. Only decimal integers have a sign. -/
def magnitude? : List Char → Option (Bool × Nat)
  | '0' :: 'x' :: cs => (groupedDigits? (isDigitOf 16) cs).map fun ds => (false, ofBase 16 ds)
  | '0' :: 'o' :: cs => (groupedDigits? (isDigitOf 8) cs).map fun ds => (false, ofBase 8 ds)
  | '0' :: 'b' :: cs => (groupedDigits? (isDigitOf 2) cs).map fun ds => (false, ofBase 2 ds)
  | cs =>
    let (minus, cs) := signed cs
    (wholeDigits? cs).map fun ds => (minus, Numeral.ofDigits ds)

/-- The integer that a run writes; it has to fit into 64 bits. -/
def integer? (cs : List Char) : Option Int := do
  let (minus, n) ← magnitude? cs
  if minus then if n ≤ Numeral.maxSigned + 1 then return -(n : Int) else none
  else if n ≤ Numeral.maxSigned then return (n : Int) else none

/-- Whether `digits * 10 ^ exponent` is below the largest finite floating-point number. -/
def isFinite (digits : List Char) (exponent : Int) : Bool :=
  let digits := digits.dropWhile (· == '0')
  let size : Int := digits.length + exponent
  if digits.isEmpty || size < 300 then true
  else if 310 < size then false
  else
    (Binary64.ofRatio (Numeral.ofDigits digits * Nat.pow 10 exponent.toNat)
      (Nat.pow 10 (-exponent).toNat)).isSome

/-- The exponent that is written after its letter. -/
def exponent? (cs : List Char) : Option Int :=
  let (minus, cs) := signed cs
  (groupedDigits? Numeral.isDigit cs).map fun ds =>
    if minus then -(Numeral.ofDigits ds : Int) else Numeral.ofDigits ds

/-- What follows the whole digits of a floating-point number: the digits of the fraction and the
exponent, at least one of which is there. -/
def fractionAndExponent? : List Char → Option (List Char × Int)
  | '.' :: cs => do
    let written := cs.takeWhile fun c => Numeral.isDigit c || c == '_'
    let fraction ← groupedDigits? Numeral.isDigit written
    match cs.drop written.length with
    | [] => return (fraction, 0)
    | c :: rest => if c == 'e' || c == 'E' then return (fraction, ← exponent? rest) else none
  | c :: cs => if c == 'e' || c == 'E' then (exponent? cs).map fun e => ([], e) else none
  | [] => none

/-- Whether a run is a floating-point number; a positive one has to be finite unless it says `inf`.
-/
def isFloat (cs : List Char) : Bool :=
  let (minus, cs) := signed cs
  if cs == ['i', 'n', 'f'] || cs == ['n', 'a', 'n'] then true
  else
    let whole := cs.takeWhile fun c => Numeral.isDigit c || c == '_'
    match wholeDigits? whole, fractionAndExponent? (cs.drop whole.length) with
    | some ds, some (fraction, e) => minus || isFinite (ds ++ fraction) (e - fraction.length)
    | _, _ => false

/-! ## Dates and times -/

/-- A number of two digits within bounds, and what follows it. -/
def twoDigits? (low high : Nat) : List Char → Option (Nat × List Char)
  | a :: b :: cs =>
    let n := Numeral.ofDigits [a, b]
    if Numeral.isDigit a && Numeral.isDigit b && low ≤ n && n ≤ high then some (n, cs) else none
  | _ => none

/-- What follows a character that has to be there. -/
def after? (c : Char) : List Char → Option (List Char)
  | d :: cs => if d = c then some cs else none
  | [] => none

/-- How many days a month has. -/
def monthLength (year month : Nat) : Nat :=
  if month = 2 then
    if year % 4 = 0 ∧ (year % 100 ≠ 0 ∨ year % 400 = 0) then 29 else 28
  else if month = 4 ∨ month = 6 ∨ month = 9 ∨ month = 11 then 30
  else 31

/-- What follows a date. -/
def afterDate? (cs : List Char) : Option (List Char) := do
  let (century, cs) ← twoDigits? 0 99 cs
  let (year, cs) ← twoDigits? 0 99 cs
  let (month, cs) ← twoDigits? 1 12 (← after? '-' cs)
  let (_, cs) ← twoDigits? 1 (monthLength (century * 100 + year) month) (← after? '-' cs)
  return cs

/-- What follows a time of day. -/
def afterTime? (cs : List Char) : Option (List Char) := do
  let (_, cs) ← twoDigits? 0 23 cs
  let (_, cs) ← twoDigits? 0 59 (← after? ':' cs)
  let (_, cs) ← twoDigits? 0 60 (← after? ':' cs)
  match cs with
  | '.' :: rest =>
    if (rest.head?.map Numeral.isDigit).getD false then return rest.dropWhile Numeral.isDigit
    else none
  | _ => return cs

/-- Whether a text is an offset from universal time. -/
def isOffset (cs : List Char) : Bool :=
  match cs with
  | ['Z'] => true
  | ['z'] => true
  | sign :: rest =>
    let zone : Option (List Char) := do
      let (_, rest) ← twoDigits? 0 23 rest
      let (_, rest) ← twoDigits? 0 59 (← after? ':' rest)
      return rest
    (sign == '+' || sign == '-') && zone == some []
  | [] => false

/-- Whether a run is a date, a time, or a date and a time with or without an offset. -/
def isDateTime (cs : List Char) : Bool :=
  match afterDate? cs with
  | some [] => true
  | some (c :: rest) =>
    (c == 'T' || c == 't' || c == ' ') &&
      match afterTime? rest with
      | some [] => true
      | some offset => isOffset offset
      | none => false
  | none => afterTime? cs == some []

end Composer.Toml
