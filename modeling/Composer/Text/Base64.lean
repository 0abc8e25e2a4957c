set_option autoImplicit false

/-!
# Base 64

The standard alphabet of RFC 4648 with padding: three bytes become four characters, and a last group
of one or two bytes is filled up with `=`. `decode?` accepts exactly the padded texts that `encode`
writes.
-/

namespace Composer.Base64

/-- The character of a six-bit number. -/
def digit (n : Nat) : Char :=
  if n < 26 then Char.ofNat (65 + n)
  else if n < 52 then Char.ofNat (71 + n)
  else if n < 62 then Char.ofNat (n - 4)
  else if n = 62 then '+' else '/'

/-- The six-bit number of a character. -/
def value? (c : Char) : Option Nat :=
  if 'A' ≤ c ∧ c ≤ 'Z' then some (c.toNat - 65)
  else if 'a' ≤ c ∧ c ≤ 'z' then some (c.toNat - 71)
  else if '0' ≤ c ∧ c ≤ '9' then some (c.toNat + 4)
  else if c = '+' then some 62
  else if c = '/' then some 63
  else none

/-- The characters of a byte list. -/
def encodeChars : List UInt8 → List Char
  | [] => []
  | [a] =>
    let n := a.toNat * 16
    [digit (n / 64), digit (n % 64), '=', '=']
  | [a, b] =>
    let n := (a.toNat * 256 + b.toNat) * 4
    [digit (n / 4096), digit (n / 64 % 64), digit (n % 64), '=']
  | a :: b :: c :: rest =>
    let n := (a.toNat * 256 + b.toNat) * 256 + c.toNat
    digit (n / 262144) :: digit (n / 4096 % 64) :: digit (n / 64 % 64) :: digit (n % 64)
      :: encodeChars rest

/-- The base 64 text of a byte list. -/
def encode (bytes : List UInt8) : String := String.ofList (encodeChars bytes)

/-- The bytes of a padded text. -/
def decodeChars? : List Char → Option (List UInt8)
  | [] => some []
  | [w, x, '=', '='] => do
    let n := (← value? w) * 64 + (← value? x)
    guard (n % 16 = 0)
    return [UInt8.ofNat (n / 16)]
  | [w, x, y, '='] => do
    let n := ((← value? w) * 64 + (← value? x)) * 64 + (← value? y)
    guard (n % 4 = 0)
    return [UInt8.ofNat (n / 1024), UInt8.ofNat (n / 4)]
  | w :: x :: y :: z :: rest => do
    let n := (((← value? w) * 64 + (← value? x)) * 64 + (← value? y)) * 64 + (← value? z)
    let bytes ← decodeChars? rest
    return UInt8.ofNat (n / 65536) :: UInt8.ofNat (n / 256) :: UInt8.ofNat n :: bytes
  | _ => none

/-- The bytes of a base 64 text. -/
def decode? (s : String) : Option (List UInt8) := decodeChars? s.toList

end Composer.Base64
