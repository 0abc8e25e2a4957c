set_option autoImplicit false

/-!
# Numerals

Decimal and hexadecimal digits, read and written most significant digit first.
-/

namespace Composer.Numeral

/-- The largest unsigned 64-bit number. -/
def maxUnsigned : Nat := 0xFFFFFFFFFFFFFFFF

/-- The largest signed 64-bit number. -/
def maxSigned : Nat := 0x7FFFFFFFFFFFFFFF

/-- Whether a character is one of `0` to `9`. -/
def isDigit (c : Char) : Bool := '0' ≤ c && c ≤ '9'

/-- The number of a digit. -/
def digitValue (c : Char) : Nat := c.toNat - 48

/-- The digit of a number below ten. -/
def digit (n : Nat) : Char := Char.ofNat (48 + n)

/-- The number that a list of digits writes. -/
def ofDigits (ds : List Char) : Nat := ds.foldl (fun n d => n * 10 + digitValue d) 0

/-- The decimal digits of a number, without leading zeros. -/
def digits (n : Nat) : List Char :=
  if n < 10 then [digit n] else digits (n / 10) ++ [digit (n % 10)]
termination_by n
decreasing_by omega

/-! ## Reading what was written -/

theorem isDigit_digit : ∀ n < 10, isDigit (digit n) = true := by
  decide

theorem digitValue_digit : ∀ n < 10, digitValue (digit n) = n := by
  decide

theorem isDigit_of_mem_digits (n : Nat) : ∀ c ∈ digits n, isDigit c = true := by
  induction n using digits.induct with
  | case1 n hlt =>
    intro c hc
    rw [digits, if_pos hlt, List.mem_singleton] at hc
    rw [hc, isDigit_digit n hlt]
  | case2 n hge ih =>
    intro c hc
    rw [digits, if_neg hge, List.mem_append, List.mem_singleton] at hc
    rcases hc with hbefore | hlast
    · exact ih c hbefore
    · rw [hlast, isDigit_digit _ (Nat.mod_lt n (by omega))]

theorem ofDigits_digits (n : Nat) : ofDigits (digits n) = n := by
  induction n using digits.induct with
  | case1 n hlt =>
    rw [digits, if_pos hlt, ofDigits, List.foldl_cons, List.foldl_nil, digitValue_digit n hlt]
    omega
  | case2 n hge ih =>
    rw [ofDigits] at ih
    rw [digits, if_neg hge, ofDigits, List.foldl_append, ih, List.foldl_cons, List.foldl_nil,
      digitValue_digit _ (Nat.mod_lt n (by omega))]
    omega

/-- There is a digit, and it is not a zero if the number is not. -/
theorem exists_digits_eq_cons (n : Nat) :
    ∃ c cs, digits n = c :: cs ∧ (c = '0' → n = 0) := by
  induction n using digits.induct with
  | case1 n hlt =>
    have hzero : ∀ n < 10, digit n = '0' → n = 0 := by decide
    exact ⟨digit n, [], by rw [digits, if_pos hlt], hzero n hlt⟩
  | case2 n hge ih =>
    obtain ⟨c, cs, hdigits, hzero⟩ := ih
    refine ⟨c, cs ++ [digit (n % 10)], by rw [digits, if_neg hge, hdigits, List.cons_append], ?_⟩
    intro hc
    have := hzero hc
    omega

/-! ## Other forms -/

/-- Decimal digits filled up with leading zeros to a width. -/
def padded (width n : Nat) : List Char :=
  let ds := digits n
  List.replicate (width - ds.length) '0' ++ ds

/-- The decimal text of an integer, with a minus sign if it is negative. -/
def ofInt (n : Int) : List Char :=
  if n < 0 then '-' :: digits n.natAbs else digits n.natAbs

/-- Reads an unsigned 64-bit number: an optional plus sign and at least one digit. -/
def unsigned? (cs : List Char) : Option Nat :=
  let ds := match cs with
    | '+' :: rest => rest
    | _ => cs
  if ds.isEmpty || !ds.all isDigit then none
  else
    let n := ofDigits ds
    if n ≤ maxUnsigned then some n else none

/-- The value of a hexadecimal digit, in either case. -/
def hexValue? (c : Char) : Option Nat :=
  if '0' ≤ c ∧ c ≤ '9' then some (c.toNat - 48)
  else if 'a' ≤ c ∧ c ≤ 'f' then some (c.toNat - 87)
  else if 'A' ≤ c ∧ c ≤ 'F' then some (c.toNat - 55)
  else none

/-- The lower-case hexadecimal digit of a number below sixteen. -/
def hexLower (n : Nat) : Char := if n < 10 then Char.ofNat (48 + n) else Char.ofNat (87 + n)

/-- The upper-case hexadecimal digit of a number below sixteen. -/
def hexUpper (n : Nat) : Char := if n < 10 then Char.ofNat (48 + n) else Char.ofNat (55 + n)

end Composer.Numeral
