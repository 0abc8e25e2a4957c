import Composer.Json.Printer
import Composer.Json.Reader
import Composer.Proofs.Text.Reading
set_option autoImplicit false

/-!
# Numbers and strings are read as they were written

A number is read up to the first character that cannot go on with it, and what the printer puts
behind a number never can. A string is read piece by piece: each piece that the printer writes for
a character is read as that character.
-/

namespace Composer.Json

/-! ## Numbers -/

/-- A number cannot go on with this text. -/
def EndsNumber (rest : List Char) : Prop :=
  ∀ c ∈ rest.head?, Numeral.isDigit c = false ∧ c ≠ '.' ∧ c ≠ 'e' ∧ c ≠ 'E'

theorem endsNumber_nil : EndsNumber [] := by
  intro c hc
  cases hc

theorem endsNumber_cons {c : Char} (h : c = ',' ∨ c = ']' ∨ c = '}') (rest : List Char) :
    EndsNumber (c :: rest) := by
  intro d hd
  obtain rfl : c = d := Option.some.inj hd
  obtain rfl | rfl | rfl := h <;> decide

section Numbers

variable {rest : List Char}

theorem EndsNumber.stops (h : EndsNumber rest) : Chars.Stops Numeral.isDigit rest := by
  intro c hc
  exact (h c hc).1

/-- The number that more digits make of `n`. -/
theorem le_foldl_digits (ds : List Char) (n : Nat) :
    n ≤ ds.foldl (fun n d => n * 10 + Numeral.digitValue d) n := by
  induction ds generalizing n with
  | nil => exact Nat.le_refl n
  | cons d ds ih =>
    calc n ≤ n * 10 + Numeral.digitValue d := by omega
      _ ≤ _ := ih _

theorem wordDigits_append (hrest : EndsNumber rest) (ds : List Char)
    (hds : ∀ d ∈ ds, Numeral.isDigit d = true) (n count : Nat)
    (hsize : ds.foldl (fun n d => n * 10 + Numeral.digitValue d) n ≤ Numeral.maxUnsigned) :
    wordDigits n count (ds ++ rest) =
      (ds.foldl (fun n d => n * 10 + Numeral.digitValue d) n, count + ds.length, rest) := by
  induction ds generalizing n count with
  | nil =>
    cases rest with
    | nil => rfl
    | cons c rest =>
      have hdigit := (hrest c rfl).1
      rw [List.nil_append, wordDigits, hdigit]
      rfl
  | cons d ds ih =>
    rw [List.forall_mem_cons] at hds
    rw [List.foldl_cons] at hsize
    have hstep : n * 10 + Numeral.digitValue d ≤ Numeral.maxUnsigned :=
      Nat.le_trans (le_foldl_digits ds _) hsize
    rw [List.cons_append, wordDigits, hds.1, decide_eq_true hstep, Bool.and_true, if_pos rfl,
      ih hds.2 _ _ hsize, List.foldl_cons, List.length_cons]
    congr 2
    omega

/-- The digits of a number are read up to their end. -/
theorem numeral_digits (hrest : EndsNumber rest) {n : Nat} (hn : n ≤ Numeral.maxUnsigned)
    (minus : Bool) : numeral minus (Numeral.digits n ++ rest) = afterDigits minus n rest := by
  obtain ⟨c, cs, hdigits, hzero⟩ := Numeral.exists_digits_eq_cons n
  have hall := Numeral.isDigit_of_mem_digits n
  have hvalue := Numeral.ofDigits_digits n
  rw [hdigits] at hall hvalue ⊢
  rw [List.forall_mem_cons] at hall
  rw [List.cons_append]
  by_cases hc : c = '0'
  · obtain rfl := hzero hc
    obtain rfl : cs = [] := by
      rw [Numeral.digits, if_pos (by omega)] at hdigits
      exact (List.cons.inj hdigits).2.symm
    subst hc
    have hstop : (rest.head?.map Numeral.isDigit).getD false = false := by
      cases rest with
      | nil => rfl
      | cons d rest => exact (hrest d rfl).1
    rw [numeral, List.nil_append, hstop]
    rfl
  · have hfold :
        cs.foldl (fun n d => n * 10 + Numeral.digitValue d) (Numeral.digitValue c) = n := by
      rw [← hvalue, Numeral.ofDigits, List.foldl_cons, Nat.zero_mul, Nat.zero_add]
    have hword := wordDigits_append hrest cs hall.2 (Numeral.digitValue c) 1 (hfold ▸ hn)
    rw [numeral, hall.1, if_pos rfl, hword, hfold]
    intro heq
    exact absurd heq hc

/-- A number without fraction and exponent is natural, or negative behind a sign. -/
theorem afterDigits_of_ends (hrest : EndsNumber rest) {minus : Bool} {n : Nat}
    (hminus : minus = true → n ≠ 0 ∧ n ≤ Numeral.maxSigned + 1) :
    afterDigits minus n rest = .ok (if minus then .negative n else .natural n, rest) := by
  unfold afterDigits
  rw [hrest.stops.takeWhile_eq, hrest.stops.dropWhile_eq]
  dsimp only
  split
  · exact absurd rfl (hrest '.' rfl).2.1
  · exact absurd rfl (hrest 'e' rfl).2.2.1
  · exact absurd rfl (hrest 'E' rfl).2.2.2
  · rw [if_neg (by simp)]
    cases minus with
    | false => rfl
    | true =>
      obtain ⟨hzero, hsize⟩ := hminus rfl
      have hfits : ¬ (n = 0 ∨ Numeral.maxSigned + 1 < n) := by omega
      rw [if_neg (by simp), if_neg hfits]
      rfl

/-- A number that is no floating-point number is read as it was written. -/
theorem numeral_natural (hrest : EndsNumber rest) {n : Nat} (hn : n ≤ Numeral.maxUnsigned) :
    numeral false (Numeral.digits n ++ rest) = .ok (.natural n, rest) := by
  rw [numeral_digits hrest hn, afterDigits_of_ends hrest (by simp)]
  rfl

theorem numeral_negative (hrest : EndsNumber rest) {n : Nat} (hpos : n ≠ 0)
    (hn : n ≤ Numeral.maxSigned + 1) :
    numeral true (Numeral.digits n ++ rest) = .ok (.negative n, rest) := by
  have hword : n ≤ Numeral.maxUnsigned :=
    Nat.le_trans hn (by rw [Numeral.maxSigned, Numeral.maxUnsigned]; omega)
  rw [numeral_digits hrest hword, afterDigits_of_ends hrest fun _ => ⟨hpos, hn⟩]
  rfl

end Numbers

/-! ## Strings -/

theorem hexValue?_hexLower : ∀ n < 16, Numeral.hexValue? (Numeral.hexLower n) = some n := by
  decide

/-- The code point of a character below 256 in four digits. -/
theorem hexFour_hexLower {n : Nat} (hn : n < 256) (rest : List Char) :
    hexFour ('0' :: '0' :: Numeral.hexLower (n / 16) :: Numeral.hexLower (n % 16) :: rest) =
      .ok (n, rest) := by
  have hzero : Numeral.hexValue? '0' = some 0 := by decide
  have hjoin : ((0 * 16 + 0) * 16 + n / 16) * 16 + n % 16 = n := by omega
  simp only [hexFour, hzero, hexValue?_hexLower _ (show n / 16 < 16 by omega),
    hexValue?_hexLower _ (show n % 16 < 16 by omega), hjoin]

/-- A character is written as an escape that is read as it, or as itself. -/
theorem escapeChar_cases (c : Char) :
    (∃ code, escapeChar c = '\\' :: code ∧ ∀ rest, escaped (code ++ rest) = .ok (c, rest)) ∨
    (escapeChar c = [c] ∧ c ≠ '"' ∧ c ≠ '\\' ∧ ¬ c.toNat < 0x20) := by
  unfold escapeChar
  split
  case isTrue h => subst h; exact .inl ⟨_, rfl, fun _ => rfl⟩
  rename_i hquote
  split
  case isTrue h => subst h; exact .inl ⟨_, rfl, fun _ => rfl⟩
  rename_i hbackslash
  split
  case isTrue h => subst h; exact .inl ⟨_, rfl, fun _ => rfl⟩
  split
  case isTrue h => subst h; exact .inl ⟨_, rfl, fun _ => rfl⟩
  split
  case isTrue h => subst h; exact .inl ⟨_, rfl, fun _ => rfl⟩
  split
  case isTrue h => subst h; exact .inl ⟨_, rfl, fun _ => rfl⟩
  split
  case isTrue h => subst h; exact .inl ⟨_, rfl, fun _ => rfl⟩
  split
  case isTrue h =>
    refine .inl ⟨_, rfl, ?_⟩
    intro rest
    have hcode := hexFour_hexLower (show c.toNat < 256 by omega) rest
    have hlow : ¬ (0xDC00 ≤ c.toNat ∧ c.toNat ≤ 0xDFFF) := by omega
    have hhigh : ¬ (0xD800 ≤ c.toNat ∧ c.toNat ≤ 0xDBFF) := by omega
    simp only [List.cons_append, List.nil_append, escaped, hcode, bind, Except.bind, if_neg hlow,
      if_neg hhigh, Char.ofNat_toNat]
    rfl
  case isFalse h => exact .inr ⟨rfl, hquote, hbackslash, h⟩

theorem escapeChar_ne_nil (c : Char) : escapeChar c ≠ [] := by
  obtain ⟨code, hcode, -⟩ | ⟨hself, -⟩ := escapeChar_cases c
  · rw [hcode]
    exact List.cons_ne_nil _ _
  · rw [hself]
    exact List.cons_ne_nil _ _

/-- The characters of a string are read up to its quotation mark. -/
theorem stringWithin_escapes (cs rest : List Char) {n : Nat}
    (hn : (cs.flatMap escapeChar).length < n) :
    stringWithin n (cs.flatMap escapeChar ++ '"' :: rest) = .ok (cs, rest) := by
  induction cs generalizing n with
  | nil =>
    cases n with
    | zero => cases hn
    | succ n => rfl
  | cons c cs ih =>
    rw [List.flatMap_cons, List.length_append] at hn
    have hpos := List.length_pos_iff.mpr (escapeChar_ne_nil c)
    obtain ⟨n, rfl⟩ : ∃ k, n = k + 1 := ⟨n - 1, by omega⟩
    have hlater := ih (show (cs.flatMap escapeChar).length < n by omega)
    rw [List.flatMap_cons, List.append_assoc]
    obtain ⟨code, hcode, hread⟩ | ⟨hself, hquote, hbackslash, hvisible⟩ := escapeChar_cases c
    · rw [hcode, List.cons_append, stringWithin, if_neg (by decide), if_pos rfl, hread]
      simp only [bind, Except.bind, hlater]
      rfl
    · rw [hself, List.singleton_append, stringWithin, if_neg hquote, if_neg hbackslash,
        if_neg hvisible, hlater]
      rfl

/-- A string is read as it was written. -/
theorem stringBody_quoted (s : String) (rest : List Char) :
    stringBody (s.toList.flatMap escapeChar ++ '"' :: rest) = .ok (s, rest) := by
  have hread := stringWithin_escapes s.toList rest
    (show (s.toList.flatMap escapeChar).length <
      (s.toList.flatMap escapeChar ++ '"' :: rest).length by
        rw [List.length_append, List.length_cons]; omega)
  rw [stringBody, hread]
  simp only [bind, Except.bind, String.ofList_toList]
  rfl

end Composer.Json
