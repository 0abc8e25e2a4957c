import Composer.Text.Numeral
import Composer.Text.Utf8
set_option autoImplicit false

/-!
# Percent-encoding

A character that may not stand in a part of an address is written as its bytes, each as a percent
sign and two hexadecimal digits. Control characters and everything outside ASCII are always written
so.
-/

namespace Composer.Percent

/-- A byte in its written form. -/
def byteText (b : UInt8) : List Char :=
  ['%', Numeral.hexUpper (b.toNat / 16), Numeral.hexUpper (b.toNat % 16)]

/-- A character of which `reserved` tells whether it may not stand for itself. -/
def charText (reserved : Char → Bool) (c : Char) : List Char :=
  if c.toNat < 0x20 || 0x7F ≤ c.toNat || reserved c then
    (String.utf8EncodeChar c).flatMap byteText
  else [c]

/-- A text in its written form. -/
def encode (reserved : Char → Bool) (cs : List Char) : List Char := cs.flatMap (charText reserved)

/-- The bytes that a written form stands for; a percent sign without two digits stands for itself.
-/
def decode : List Char → List UInt8
  | [] => []
  | '%' :: a :: b :: cs =>
    match Numeral.hexValue? a, Numeral.hexValue? b with
    | some high, some low => UInt8.ofNat (high * 16 + low) :: decode cs
    | _, _ => UInt8.ofNat '%'.toNat :: decode (a :: b :: cs)
  | c :: cs => String.utf8EncodeChar c ++ decode cs

/-- The characters that are reserved in a path. -/
def inPath (c : Char) : Bool := [' ', '"', '#', '<', '>', '?', '`', '{', '}'].contains c

/-- The characters that are reserved in a user's name and password. -/
def inUser (c : Char) : Bool :=
  inPath c || ['/', ':', ';', '=', '@', '[', '\\', ']', '^', '|'].contains c

/-- The characters that are reserved in a query; in an address of the web so is the apostrophe. -/
def inQuery (web : Bool) (c : Char) : Bool :=
  [' ', '"', '#', '<', '>'].contains c || (web && c == '\'')

/-- The characters that are reserved in a fragment. -/
def inFragment (c : Char) : Bool := [' ', '"', '<', '>', '`'].contains c

end Composer.Percent
