import Composer.Text.Base64
import Mathlib.Data.Option.Basic
set_option autoImplicit false

/-!
# Base 64 is read back

Each group of four characters gives the bytes that it was written for: three, or two or one where
the last group is filled up.
-/

namespace Composer.Base64

theorem value?_digit : ∀ n < 64, value? (digit n) = some n := by
  decide

theorem digit_ne_padding : ∀ n < 64, digit n ≠ '=' := by
  decide

/-! ## Groups -/

section Groups

variable {w x y z : Nat}

/-- A group that is filled up twice gives one byte. -/
theorem decodeChars?_one (hw : w < 64) (hx : x < 64) (hspare : (w * 64 + x) % 16 = 0) :
    decodeChars? [digit w, digit x, '=', '='] = some [UInt8.ofNat ((w * 64 + x) / 16)] := by
  have hguard : guard ((w * 64 + x) % 16 = 0) = some () := if_pos hspare
  rw [decodeChars?, value?_digit w hw, value?_digit x hx]
  change (guard ((w * 64 + x) % 16 = 0) >>= fun _ => some [UInt8.ofNat ((w * 64 + x) / 16)]) = _
  rw [hguard]
  rfl

/-- A group that is filled up once gives two bytes. -/
theorem decodeChars?_two (hw : w < 64) (hx : x < 64) (hy : y < 64)
    (hspare : ((w * 64 + x) * 64 + y) % 4 = 0) :
    decodeChars? [digit w, digit x, digit y, '='] =
      some [UInt8.ofNat (((w * 64 + x) * 64 + y) / 1024),
        UInt8.ofNat (((w * 64 + x) * 64 + y) / 4)] := by
  have hguard : guard (((w * 64 + x) * 64 + y) % 4 = 0) = some () := if_pos hspare
  rw [decodeChars?]
  · rw [value?_digit w hw, value?_digit x hx, value?_digit y hy]
    change (guard (((w * 64 + x) * 64 + y) % 4 = 0) >>= fun _ => some _) = _
    rw [hguard]
    rfl
  · intro heq
    exact digit_ne_padding y hy heq

/-- A full group gives three bytes. -/
theorem decodeChars?_three (hw : w < 64) (hx : x < 64) (hy : y < 64) (hz : z < 64)
    (rest : List Char) :
    decodeChars? (digit w :: digit x :: digit y :: digit z :: rest) =
      (decodeChars? rest).map fun bytes =>
        UInt8.ofNat ((((w * 64 + x) * 64 + y) * 64 + z) / 65536) ::
          UInt8.ofNat ((((w * 64 + x) * 64 + y) * 64 + z) / 256) ::
          UInt8.ofNat (((w * 64 + x) * 64 + y) * 64 + z) :: bytes := by
  rw [decodeChars?]
  · simp only [value?_digit w hw, value?_digit x hx, value?_digit y hy, value?_digit z hz]
    cases decodeChars? rest <;> rfl
  · intro _ heq _
    exact digit_ne_padding z hz heq
  · intro heq _
    exact digit_ne_padding z hz heq

end Groups

/-! ## Texts -/

theorem ofNat_eq {b : UInt8} {n : Nat} (h : n % 256 = b.toNat) : UInt8.ofNat n = b := by
  apply UInt8.toNat_inj.mp
  rw [UInt8.toNat_ofNat']
  exact h

/-- What is written of bytes is read as them. -/
theorem decodeChars?_encodeChars (bytes : List UInt8) :
    decodeChars? (encodeChars bytes) = some bytes := by
  induction bytes using encodeChars.induct with
  | case1 => rfl
  | case2 a =>
    have ha : a.toNat < 256 := a.toNat_lt
    rw [encodeChars, decodeChars?_one (by omega) (by omega) (by omega),
      ofNat_eq (b := a) (by omega)]
  | case3 a b =>
    have ha : a.toNat < 256 := a.toNat_lt
    have hb : b.toNat < 256 := b.toNat_lt
    rw [encodeChars, decodeChars?_two (by omega) (by omega) (by omega) (by omega),
      ofNat_eq (b := a) (by omega), ofNat_eq (b := b) (by omega)]
  | case4 a b c rest ih =>
    have ha : a.toNat < 256 := a.toNat_lt
    have hb : b.toNat < 256 := b.toNat_lt
    have hc : c.toNat < 256 := c.toNat_lt
    rw [encodeChars, decodeChars?_three (by omega) (by omega) (by omega) (by omega), ih,
      Option.map_some, ofNat_eq (b := a) (by omega), ofNat_eq (b := b) (by omega),
      ofNat_eq (b := c) (by omega)]

theorem decode?_encode (bytes : List UInt8) : decode? (encode bytes) = some bytes := by
  rw [decode?, encode, String.toList_ofList]
  exact decodeChars?_encodeChars bytes

end Composer.Base64
