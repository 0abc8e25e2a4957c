set_option autoImplicit false

/-!
# Texts as bytes

The bytes of a string are its UTF-8 encoding. Reading them back is either strict, where any fault
refuses the whole input, or lenient, where each faulty stretch becomes one replacement character. A
faulty stretch is the longest start of a well-formed sequence, or one byte if there is none.
-/

namespace Composer.Utf8

/-- The bytes of a list of characters. -/
def encodeChars (cs : List Char) : List UInt8 := cs.flatMap String.utf8EncodeChar

/-- The bytes of a string. -/
def encode (s : String) : List UInt8 := encodeChars s.toList

/-- How many bytes a list of characters takes. -/
def size : List Char → Nat
  | [] => 0
  | c :: cs => c.utf8Size + size cs

/-- The characters behind the first `n` bytes. A character that would be cut stays. -/
def drop : (n : Nat) → List Char → List Char
  | _, [] => []
  | n, c :: cs => if 0 < n ∧ c.utf8Size ≤ n then drop (n - c.utf8Size) cs else c :: cs

/-- What a first byte asks of the rest of its sequence. -/
structure Lead where
  /-- How many bytes follow. -/
  following : Nat
  /-- The bits that the first byte contributes. -/
  bits : Nat
  /-- The smallest second byte that is allowed. -/
  low : UInt8 := 0x80
  /-- The largest second byte that is allowed. -/
  high : UInt8 := 0xBF
  deriving DecidableEq, Repr

/-- Reads a first byte. The ranges of the second byte leave out overlong forms, surrogates and
everything above the last code point. -/
def Lead.of? (b : UInt8) : Option Lead :=
  if b < 0x80 then some { following := 0, bits := b.toNat }
  else if b < 0xC2 then none
  else if b < 0xE0 then some { following := 1, bits := b.toNat - 0xC0 }
  else if b == 0xE0 then some { following := 2, bits := 0, low := 0xA0 }
  else if b == 0xED then some { following := 2, bits := 0xD, high := 0x9F }
  else if b < 0xF0 then some { following := 2, bits := b.toNat - 0xE0 }
  else if b == 0xF0 then some { following := 3, bits := 0, low := 0x90 }
  else if b == 0xF4 then some { following := 3, bits := 4, high := 0x8F }
  else if b < 0xF4 then some { following := 3, bits := b.toNat - 0xF0 }
  else none

/-- Reads `n` continuation bytes onto the bits read so far; on a fault the rest starts at the byte
that does not fit. -/
def continuation : (n : Nat) → (low high : UInt8) → (bits : Nat) → List UInt8 →
    Option Nat × List UInt8
  | 0, _, _, bits, bs => (some bits, bs)
  | _ + 1, _, _, _, [] => (none, [])
  | n + 1, low, high, bits, b :: bs =>
    if low ≤ b && b ≤ high then
      continuation n 0x80 0xBF (bits * 64 + (b.toNat - 0x80)) bs
    else (none, b :: bs)

/-- Reads one sequence off the front; a fault gives no character and the rest after the faulty
stretch. -/
def next (b : UInt8) (bs : List UInt8) : Option Char × List UInt8 :=
  match Lead.of? b with
  | none => (none, bs)
  | some lead =>
    match continuation lead.following lead.low lead.high lead.bits bs with
    | (some n, rest) => (some (Char.ofNat n), rest)
    | (none, rest) => (none, rest)

/-- Reads a byte list of at most `n` bytes; each fault is passed to `onFault`. -/
def decodeWith (onFault : Option Char) : (n : Nat) → List UInt8 → Option (List Char)
  | _, [] => some []
  | 0, _ :: _ => some []
  | n + 1, b :: bs =>
    match next b bs with
    | (some c, rest) => (decodeWith onFault n rest).map (c :: ·)
    | (none, rest) =>
      match onFault with
      | none => none
      | some c => (decodeWith onFault n rest).map (c :: ·)

/-- The string with these bytes, if they are well formed. -/
def decode? (bs : List UInt8) : Option String :=
  (decodeWith none bs.length bs).map String.ofList

/-- The string with these bytes, with U+FFFD for each faulty stretch. -/
def decodeLossy (bs : List UInt8) : String :=
  String.ofList ((decodeWith (some '\uFFFD') bs.length bs).getD [])

/-- The characters of a list of UTF-16 units, with U+FFFD for each unpaired surrogate. -/
def ofUnits16 : List Nat → List Char
  | [] => []
  | [u] => [if 0xD800 ≤ u ∧ u < 0xE000 then '\uFFFD' else Char.ofNat u]
  | u :: v :: us =>
    if 0xD800 ≤ u ∧ u < 0xDC00 then
      if 0xDC00 ≤ v ∧ v < 0xE000 then
        Char.ofNat ((u - 0xD800) * 0x400 + (v - 0xDC00) + 0x10000) :: ofUnits16 us
      else '\uFFFD' :: ofUnits16 (v :: us)
    else if 0xDC00 ≤ u ∧ u < 0xE000 then '\uFFFD' :: ofUnits16 (v :: us)
    else Char.ofNat u :: ofUnits16 (v :: us)

/-- The UTF-16 units in a byte list, of which `unit` orders a pair. A lone last byte counts as an
unpaired surrogate, and is part of one that stands just before it. -/
def units16 (unit : UInt8 → UInt8 → Nat) : List UInt8 → List Nat
  | [] => []
  | [_] => [0xD800]
  | [a, b, _] =>
    let u := unit a b
    if 0xD800 ≤ u ∧ u < 0xDC00 then [u] else [u, 0xD800]
  | a :: b :: bs => unit a b :: units16 unit bs

/-- The text of a message body: a byte order mark at its start chooses the encoding and is not part
of the text, and without one the body is UTF-8. Faults become U+FFFD. -/
def bodyText : List UInt8 → String
  | 0xEF :: 0xBB :: 0xBF :: bs => decodeLossy bs
  | 0xFE :: 0xFF :: bs =>
    String.ofList (ofUnits16 (units16 (fun a b => a.toNat * 256 + b.toNat) bs))
  | 0xFF :: 0xFE :: bs =>
    String.ofList (ofUnits16 (units16 (fun a b => b.toNat * 256 + a.toNat) bs))
  | bs => decodeLossy bs

end Composer.Utf8
