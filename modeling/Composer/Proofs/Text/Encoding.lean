import Composer.Text.Utf8
set_option autoImplicit false

/-!
# Reading encoded text

The bytes of a text are read back as that text. A character takes one to four bytes by its code
point; each of these forms is read on its own, and the bounds on the second byte are the ones that
the shorter forms and the surrogates leave.
-/

namespace Composer.Utf8

/-! ## First bytes -/

theorem lead_one : ∀ v < 0x80, Lead.of? (UInt8.ofNat v) = some { following := 0, bits := v } := by
  decide

theorem lead_two : ∀ k < 32, 2 ≤ k →
    Lead.of? (UInt8.ofNat (k + 192)) = some { following := 1, bits := k } := by
  decide

theorem lead_three : ∀ k < 16,
    Lead.of? (UInt8.ofNat (k + 224)) = some
      { following := 2, bits := k, low := if k = 0 then 0xA0 else 0x80,
        high := if k = 13 then 0x9F else 0xBF } := by
  decide

theorem lead_four : ∀ k < 5,
    Lead.of? (UInt8.ofNat (k + 240)) = some
      { following := 3, bits := k, low := if k = 0 then 0x90 else 0x80,
        high := if k = 4 then 0x8F else 0xBF } := by
  decide

/-! ## The bytes behind them -/

/-- A continuation byte within its bounds adds its six bits. -/
theorem continuation_cons {low high : UInt8} {k : Nat} (hk : k < 64) (hlow : low.toNat ≤ k + 128)
    (hhigh : k + 128 ≤ high.toNat) (n bits : Nat) (bs : List UInt8) :
    continuation (n + 1) low high bits (UInt8.ofNat (k + 128) :: bs)
      = continuation n 0x80 0xBF (bits * 64 + k) bs := by
  have hbyte : (UInt8.ofNat (k + 128)).toNat = k + 128 := by
    rw [UInt8.toNat_ofNat_of_lt' (by change k + 128 < 256; omega)]
  have hbounds : (low ≤ UInt8.ofNat (k + 128) && UInt8.ofNat (k + 128) ≤ high) = true := by
    rw [Bool.and_eq_true, decide_eq_true_eq, decide_eq_true_eq, UInt8.le_iff_toNat_le,
      UInt8.le_iff_toNat_le, hbyte]
    exact ⟨hlow, hhigh⟩
  rw [continuation, if_pos hbounds, hbyte, Nat.add_sub_cancel]

/-- A continuation byte that is bound by nothing else adds its six bits. -/
theorem continuation_plain {k : Nat} (hk : k < 64) (n bits : Nat) (bs : List UInt8) :
    continuation (n + 1) 0x80 0xBF bits (UInt8.ofNat (k + 128) :: bs)
      = continuation n 0x80 0xBF (bits * 64 + k) bs :=
  continuation_cons hk (by change 128 ≤ k + 128; omega) (by change k + 128 ≤ 191; omega) n bits bs

/-! ## Characters -/

/-- A first byte with as many continuation bytes as it asks for is read as one character. -/
theorem next_of_lead {b : UInt8} {bs rest : List UInt8} {lead : Lead} {v : Nat}
    (hlead : Lead.of? b = some lead)
    (hbits : continuation lead.following lead.low lead.high lead.bits bs = (some v, rest)) :
    next b bs = (some (Char.ofNat v), rest) := by
  simp only [next, hlead, hbits]

theorem next_one {v : Nat} (h : v ≤ 0x7F) (rest : List UInt8) :
    next (UInt8.ofNat v) rest = (some (Char.ofNat v), rest) :=
  next_of_lead (lead_one v (by omega)) rfl

theorem next_two {v : Nat} (hlow : 0x7F < v) (hhigh : v ≤ 0x7FF) (rest : List UInt8) :
    next (UInt8.ofNat (v / 64 % 32 + 192)) (UInt8.ofNat (v % 64 + 128) :: rest)
      = (some (Char.ofNat v), rest) := by
  have hjoin : v / 64 % 32 * 64 + v % 64 = v := by omega
  apply next_of_lead (lead_two _ (by omega) (by omega))
  rw [continuation_plain (by omega), hjoin, continuation]

theorem next_three {v : Nat} (hlow : 0x7FF < v) (hhigh : v ≤ 0xFFFF)
    (hvalid : v < 0xD800 ∨ 0xDFFF < v) (rest : List UInt8) :
    next (UInt8.ofNat (v / 4096 % 16 + 224))
        (UInt8.ofNat (v / 64 % 64 + 128) :: UInt8.ofNat (v % 64 + 128) :: rest)
      = (some (Char.ofNat v), rest) := by
  have hjoin : (v / 4096 % 16 * 64 + v / 64 % 64) * 64 + v % 64 = v := by omega
  -- Behind 0xE0 shorter forms are left out, behind 0xED the surrogates.
  have habove : (if v / 4096 % 16 = 0 then (0xA0 : UInt8) else 0x80).toNat
      ≤ v / 64 % 64 + 128 := by
    split
    · change 160 ≤ _
      omega
    · change 128 ≤ _
      omega
  have hbelow : v / 64 % 64 + 128
      ≤ (if v / 4096 % 16 = 13 then (0x9F : UInt8) else 0xBF).toNat := by
    split
    · change _ ≤ 159
      omega
    · change _ ≤ 191
      omega
  apply next_of_lead (lead_three _ (by omega))
  rw [continuation_cons (by omega) habove hbelow, continuation_plain (by omega), hjoin,
    continuation]

theorem next_four {v : Nat} (hlow : 0xFFFF < v) (hhigh : v < 0x110000) (rest : List UInt8) :
    next (UInt8.ofNat (v / 262144 % 8 + 240))
        (UInt8.ofNat (v / 4096 % 64 + 128) :: UInt8.ofNat (v / 64 % 64 + 128)
          :: UInt8.ofNat (v % 64 + 128) :: rest)
      = (some (Char.ofNat v), rest) := by
  have hjoin :
      ((v / 262144 % 8 * 64 + v / 4096 % 64) * 64 + v / 64 % 64) * 64 + v % 64 = v := by omega
  -- Behind 0xF0 shorter forms are left out, behind 0xF4 what is above the last code point.
  have habove : (if v / 262144 % 8 = 0 then (0x90 : UInt8) else 0x80).toNat
      ≤ v / 4096 % 64 + 128 := by
    split
    · change 144 ≤ _
      omega
    · change 128 ≤ _
      omega
  have hbelow : v / 4096 % 64 + 128
      ≤ (if v / 262144 % 8 = 4 then (0x8F : UInt8) else 0xBF).toNat := by
    split
    · change _ ≤ 143
      omega
    · change _ ≤ 191
      omega
  apply next_of_lead (lead_four _ (by omega))
  rw [continuation_cons (by omega) habove hbelow, continuation_plain (by omega),
    continuation_plain (by omega), hjoin, continuation]

/-- The bytes of a character are read as that character. -/
theorem next_utf8EncodeChar (c : Char) :
    ∃ b bs, String.utf8EncodeChar c = b :: bs ∧ ∀ rest, next b (bs ++ rest) = (some c, rest) := by
  have hvalid : c.val.toNat < 0xD800 ∨ 0xDFFF < c.val.toNat ∧ c.val.toNat < 0x110000 := c.valid
  have hback : Char.ofNat c.val.toNat = c := Char.ofNat_toNat c
  unfold String.utf8EncodeChar
  dsimp only
  generalize c.val.toNat = v at hvalid hback
  subst hback
  split
  case isTrue hone => exact ⟨_, _, rfl, next_one hone⟩
  case isFalse hone =>
    split
    case isTrue htwo => exact ⟨_, _, rfl, next_two (by omega) htwo⟩
    case isFalse htwo =>
      split
      case isTrue hthree => exact ⟨_, _, rfl, next_three (by omega) hthree (by omega)⟩
      case isFalse hthree => exact ⟨_, _, rfl, next_four (by omega) (by omega)⟩

/-! ## Texts -/

/-- The bytes of characters are read as those characters, by whatever way of treating faults. -/
theorem decodeWith_encodeChars (onFault : Option Char) (cs : List Char) {n : Nat}
    (hn : (encodeChars cs).length ≤ n) : decodeWith onFault n (encodeChars cs) = some cs := by
  induction cs generalizing n with
  | nil => cases n <;> rfl
  | cons c cs ih =>
    obtain ⟨b, bs, hbytes, hnext⟩ := next_utf8EncodeChar c
    have hall : encodeChars (c :: cs) = b :: (bs ++ encodeChars cs) := by
      rw [encodeChars, List.flatMap_cons, hbytes]
      rfl
    rw [hall, List.length_cons, List.length_append] at hn
    obtain ⟨m, rfl⟩ : ∃ m, n = m + 1 := ⟨n - 1, by omega⟩
    rw [hall]
    simp only [decodeWith, hnext]
    rw [ih (by omega), Option.map_some]

/-- The bytes of a string are read as that string. -/
theorem decode?_encode (s : String) : decode? (encode s) = some s := by
  rw [decode?, encode, decodeWith_encodeChars none s.toList (Nat.le_refl _), Option.map_some,
    String.ofList_toList]

end Composer.Utf8
