import Composer.Text.Search
import Composer.Url.Idna
import Composer.Url.Percent
set_option autoImplicit false

/-!
# Hosts

A host is a name, or an address of four bytes or of eight pieces of sixteen bits. Addresses have
many spellings and one written form.
-/

namespace Composer.Host

/-- The characters that no host holds. -/
def isForbidden (c : Char) : Bool :=
  c.toNat ≤ 0x20 || c.toNat == 0x7F
    || ['#', '%', '/', ':', '<', '>', '?', '@', '[', '\\', ']', '^', '|'].contains c

/-! ## Addresses of four bytes -/

/-- The number that a part of an address writes: hexadecimal behind `0x`, octal behind `0`. -/
def partNumber? (cs : List Char) : Option Nat :=
  let digit? (base : Nat) (c : Char) : Option Nat :=
    (Numeral.hexValue? c).filter fun d => d < base
  let inBase (base : Nat) (cs : List Char) : Option Nat :=
    cs.foldlM (fun n c => (digit? base c).map fun d => n * base + d) 0
  match cs with
  | [] => none
  | '0' :: 'x' :: rest => inBase 16 rest
  | '0' :: 'X' :: rest => inBase 16 rest
  | '0' :: d :: rest => inBase 8 (d :: rest)
  | cs => inBase 10 cs

/-- The parts between the points of a name; a point at its end does not count. -/
def labels (cs : List Char) : List (List Char) :=
  let parts := Chars.pieces '.' cs
  match parts.getLast? with
  | some [] => if parts.length = 1 then parts else parts.dropLast
  | _ => parts

/-- Whether a name can only be an address of four bytes: its last part is a number. -/
def endsInNumber (cs : List Char) : Bool :=
  match (labels cs).getLast? with
  | some last => !last.isEmpty && (last.all Numeral.isDigit || (partNumber? last).isSome)
  | none => false

/-- Puts the numbers of an address together; the last one fills all bytes that are left. -/
def combine : (bytesLeft : Nat) → List Nat → Option Nat
  | _, [] => none
  | bytes, [n] => if n < Nat.pow 256 bytes then some n else none
  | bytes, n :: rest =>
    if n < 256 then (combine (bytes - 1) rest).map fun m => n * Nat.pow 256 (bytes - 1) + m
    else none

/-- The number that is an address of four bytes. -/
def address4? (cs : List Char) : Option Nat := do
  let parts := labels cs
  if 4 < parts.length then none
  combine 4 (← parts.mapM partNumber?)

/-- An address of four bytes in its written form. -/
def text4 (n : Nat) : List Char :=
  let bytes := [n / 0x1000000, n / 0x10000 % 256, n / 0x100 % 256, n % 256]
  List.intercalate ['.'] (bytes.map Numeral.digits)

/-! ## Addresses of eight pieces -/

/-- The number of a piece: one to four hexadecimal digits. -/
def piece? (cs : List Char) : Option Nat :=
  if cs.isEmpty || 4 < cs.length then none
  else cs.foldlM (fun n c => (Numeral.hexValue? c).map fun d => n * 16 + d) 0

/-- Four decimal bytes with points between them, as two pieces. -/
def lastPieces? (cs : List Char) : Option (List Nat) := do
  let parts := Chars.pieces '.' cs
  let byte? (part : List Char) : Option Nat :=
    let isPadded := part.head? == some '0' && part.length != 1
    if part.isEmpty || !part.all Numeral.isDigit || isPadded then none
    else if Numeral.ofDigits part < 256 then some (Numeral.ofDigits part) else none
  match ← parts.mapM byte? with
  | [a, b, c, d] => return [a * 256 + b, c * 256 + d]
  | _ => none

/-- Pieces with colons between them; the last one may be written as four bytes. -/
def pieces? (bytesAtEnd : Bool) (cs : List Char) : Option (List Nat) :=
  if cs.isEmpty then some []
  else
    let parts := Chars.pieces ':' cs
    let last := parts.getLast?.getD []
    if bytesAtEnd && last.contains '.' then do
      let front ← parts.dropLast.mapM piece?
      return front ++ (← lastPieces? last)
    else parts.mapM piece?

/-- The eight pieces of an address; two colons in a row stand for all pieces that are left out. -/
def address6? (cs : List Char) : Option (List Nat) :=
  match Chars.splitOn [':', ':'] cs with
  | none => do
    let pieces ← pieces? true cs
    if pieces.length = 8 then return pieces else none
  | some (before, after) => do
    let front ← pieces? false before
    let back ← pieces? true after
    if front.length + back.length ≤ 7 then
      return front ++ List.replicate (8 - front.length - back.length) 0 ++ back
    else none

/-- How many zeros stand at the front of a list. -/
def zeros (pieces : List Nat) : Nat := (pieces.takeWhile (· == 0)).length

/-- The length of the longest run of zeros. -/
def longestRun : List Nat → Nat
  | [] => 0
  | p :: pieces => max (zeros (p :: pieces)) (longestRun pieces)

/-- The pieces before the first run of so many zeros, and those behind it. -/
def splitAtRun (run : Nat) : List Nat → List Nat × List Nat
  | [] => ([], [])
  | p :: pieces =>
    if zeros (p :: pieces) = run then ([], (p :: pieces).drop run)
    else
      let (front, back) := splitAtRun run pieces
      (p :: front, back)

/-- The hexadecimal digits of a piece. -/
def pieceText (n : Nat) : List Char :=
  let digits := [n / 4096, n / 256 % 16, n / 16 % 16, n % 16].map Numeral.hexLower
  match digits.dropWhile (· == '0') with
  | [] => ['0']
  | digits => digits

/-- Pieces with colons between them. -/
def piecesText (pieces : List Nat) : List Char := List.intercalate [':'] (pieces.map pieceText)

/-- An address of eight pieces in its written form: the first longest run of at least two zeros is
left out. -/
def text6 (pieces : List Nat) : List Char :=
  let run := longestRun pieces
  if run < 2 then '[' :: piecesText pieces ++ [']']
  else
    let (front, back) := splitAtRun run pieces
    '[' :: piecesText front ++ [':', ':'] ++ piecesText back ++ [']']

/-! ## Hosts of either kind -/

/-- An address between brackets in its written form. -/
def bracketed? (cs : List Char) : Option (List Char) :=
  match cs.getLast? with
  | some ']' => (address6? (cs.drop 1).dropLast).map text6
  | _ => none

/-- The host of an address of the web in its written form. -/
def ofWeb? (cs : List Char) : Option (List Char) :=
  if cs.head? = some '[' then bracketed? cs
  else do
    let name ← Idna.ascii? (Utf8.decodeLossy (Percent.decode cs)).toList
    if name.isEmpty || name.any isForbidden then none
    else if endsInNumber name then (address4? name).map text4
    else return name

/-- The host of any other address in its written form. Percent signs and controls other than the
empty character do not make it invalid. -/
def ofOther? (cs : List Char) : Option (List Char) :=
  let isControl (c : Char) : Bool := (c.toNat < 0x20 && c != '\x00') || c.toNat == 0x7F
  if cs.head? = some '[' then bracketed? cs
  else if cs.any fun c => isForbidden c && c != '%' && !isControl c then none
  else some (Percent.encode (fun _ => false) cs)

end Composer.Host
