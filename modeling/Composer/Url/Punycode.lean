import Composer.Text.Search
set_option autoImplicit false

/-!
# Names outside ASCII

A label of a host name that holds other characters than those of ASCII is written with letters,
digits and hyphens only: its ASCII characters, and then, in the order of code points, how far on
each of the others is inserted. The distances are numbers of variable length in base 36, whose digit
weights adapt to the distances before them.
-/

namespace Composer.Punycode

/-- The character of a digit in base 36. -/
def digit (n : Nat) : Char := if n < 26 then Char.ofNat (97 + n) else Char.ofNat (22 + n)

/-- The largest digit but one at a position that does not end a number. -/
def threshold (position bias : Nat) : Nat :=
  if position ≤ bias then 1 else min 26 (position - bias)

/-- Brings a distance down to the range in which the weights are set; `n` bounds the steps. -/
def scaleDown : (n : Nat) → (distance steps : Nat) → Nat
  | 0, distance, steps => steps * 36 + 36 * distance / (distance + 38)
  | n + 1, distance, steps =>
    if 455 < distance then scaleDown n (distance / 35) (steps + 1)
    else steps * 36 + 36 * distance / (distance + 38)

/-- The bias after a distance, given how many characters are written so far. -/
def adapt (distance written : Nat) (first : Bool) : Nat :=
  let d := if first then distance / 700 else distance / 2
  scaleDown d (d + d / written) 0

/-- The digits of a distance; `n` bounds their number. -/
def number (bias : Nat) : (n position value : Nat) → List Char
  | 0, _, _ => []
  | n + 1, position, value =>
    let t := threshold position bias
    if value < t then [digit value]
    else
      let (above, base) := (value - t, 36 - t)
      digit (t + above % base) :: number bias n (position + 36) (above / base)

/-- How far an encoding has come. -/
structure Progress where
  text : List Char
  distance : Nat
  bias : Nat
  written : Nat

/-- Passes a character while the code point `m` is inserted. -/
def pass (basic m : Nat) (p : Progress) (c : Char) : Progress :=
  if c.toNat < m then { p with distance := p.distance + 1 }
  else if c.toNat = m then
    { text := p.text ++ number p.bias (p.distance + 1) 36 p.distance, distance := 0,
      bias := adapt p.distance (p.written + 1) (p.written == basic), written := p.written + 1 }
  else p

/-- Inserts code points in rising order; `next` is the least that can follow. -/
def insertAll (cs : List Char) (basic : Nat) :
    (points : List Nat) → (next : Nat) → Progress → Progress
  | [], _, p => p
  | m :: points, next, p =>
    let p := { p with distance := p.distance + (m - next) * (p.written + 1) }
    let p := cs.foldl (pass basic m) p
    insertAll cs basic points (m + 1) { p with distance := p.distance + 1 }

/-- A label in its written form. -/
def encode (cs : List Char) : List Char :=
  let basic := cs.filter fun c => c.toNat < 0x80
  let others := (cs.map Char.toNat).filter fun n => 0x80 ≤ n
  let points := (others.mergeSort fun a b => decide (a ≤ b)).eraseDups
  let start := if basic.isEmpty then [] else basic ++ ['-']
  (insertAll cs basic.length points 0x80 ⟨start, 0, 72, basic.length⟩).text

/-! ## Reading -/

/-- The number of a digit in base 36. -/
def digit? (c : Char) : Option Nat :=
  if 'a' ≤ c ∧ c ≤ 'z' then some (c.toNat - 97)
  else if '0' ≤ c ∧ c ≤ '9' then some (c.toNat - 22)
  else none

/-- Reads a distance and gives it with the rest; numbers are of 32 bits. -/
def number? (bias : Nat) : (position weight value : Nat) → List Char → Option (Nat × List Char)
  | _, _, _, [] => none
  | position, weight, value, c :: cs =>
    match digit? c with
    | none => none
    | some d =>
      let t := threshold position bias
      let value := value + d * weight
      if d < t then some (value, cs)
      else if 0x100000000 ≤ weight * (36 - t) then none
      else number? bias (position + 36) (weight * (36 - t)) value cs

/-- Reads the insertions that follow the characters of ASCII, at most `n` of them: the distance from
the place `distance` of the code point `point` gives the place and the code point of the next. -/
def insertions : (n : Nat) → (first : Bool) → (point distance bias : Nat) →
    (text : List Char) → List Char → Option (List Char)
  | 0, _, _, _, _, text, _ => some text
  | _ + 1, _, _, _, _, text, [] => some text
  | n + 1, first, point, place, bias, text, cs =>
    match number? bias 36 1 0 cs with
    | none => none
    | some (distance, rest) =>
      let places := text.length + 1
      let point := point + (place + distance) / places
      let place := (place + distance) % places
      if point.isValidChar then
        let text := text.take place ++ Char.ofNat point :: text.drop place
        insertions n false point (place + 1) (adapt distance places first) text rest
      else none

/-- The label with a written form. -/
def decode? (cs : List Char) : Option (List Char) :=
  let (basic, rest) := match Chars.splitLast '-' cs with
    | none => ([], cs)
    | some ([], _) => ([], cs)
    | some (basic, rest) => (basic, rest)
  if basic.all fun c => c.toNat < 0x80 then insertions cs.length true 0x80 0 72 basic rest
  else none

end Composer.Punycode
