import Composer.Text.Numeral
set_option autoImplicit false

/-!
# Reading one part after the other

A part that is made of characters of one kind is read up to where another character stands. A reader
succeeds exactly if each of its parts does.
-/

namespace Composer

/-! ## Results -/

section Results

variable {ε α β : Type} {x : Except ε α} {b : β}

theorem bind_eq_ok_iff {f : α → Except ε β} : (x >>= f) = .ok b ↔ ∃ a, x = .ok a ∧ f a = .ok b := by
  cases x with
  | error e => simp [bind, Except.bind]
  | ok a => simp [bind, Except.bind]

theorem map_eq_ok_iff {f : α → β} : x.map f = .ok b ↔ ∃ a, x = .ok a ∧ f a = b := by
  cases x with
  | error e => simp [Except.map]
  | ok a => simp [Except.map]

theorem toOption_eq_some_iff {a : α} : x.toOption = some a ↔ x = .ok a := by
  cases x with
  | error e => simp [Except.toOption]
  | ok b => simp [Except.toOption]

end Results

/-! ## Characters of one kind -/

namespace Chars

section Kinds

variable {p : Char → Bool} {front rest : List Char}

/-- No character of this kind comes next. -/
def Stops (p : Char → Bool) (rest : List Char) : Prop := ∀ c ∈ rest.head?, p c = false

theorem stops_cons {c : Char} (h : p c = false) (rest : List Char) : Stops p (c :: rest) := by
  intro d hd
  obtain rfl : c = d := Option.some.inj hd
  exact h

theorem Stops.take (h : Stops p rest) (n : Nat) : Stops p (rest.take n) := by
  cases rest with
  | nil => simpa using h
  | cons c rest =>
    cases n with
    | zero =>
      intro d hd
      cases hd
    | succ n => exact stops_cons (h c rfl) _

theorem Stops.takeWhile_eq (h : Stops p rest) : rest.takeWhile p = [] := by
  cases rest with
  | nil => rfl
  | cons c rest => exact List.takeWhile_cons_of_neg (by simp [h c rfl])

theorem Stops.dropWhile_eq (h : Stops p rest) : rest.dropWhile p = rest := by
  cases rest with
  | nil => rfl
  | cons c rest => exact List.dropWhile_cons_of_neg (by simp [h c rfl])

theorem Stops.takeWhile_append (h : Stops p rest) (hfront : ∀ c ∈ front, p c = true) :
    (front ++ rest).takeWhile p = front := by
  rw [List.takeWhile_append_of_pos hfront, h.takeWhile_eq, List.append_nil]

theorem Stops.dropWhile_append (h : Stops p rest) (hfront : ∀ c ∈ front, p c = true) :
    (front ++ rest).dropWhile p = rest := by
  rw [List.dropWhile_append_of_pos hfront, h.dropWhile_eq]

/-- A part of one kind ends at one place only. -/
theorem Stops.append_inj {front' rest' : List Char} (h : Stops p rest) (h' : Stops p rest')
    (hfront : ∀ c ∈ front, p c = true) (hfront' : ∀ c ∈ front', p c = true)
    (heq : front ++ rest = front' ++ rest') : front = front' ∧ rest = rest' := by
  constructor
  · rw [← h.takeWhile_append hfront, heq, h'.takeWhile_append hfront']
  · rw [← h.dropWhile_append hfront, heq, h'.dropWhile_append hfront']

end Kinds

end Chars

/-! ## Digits -/

theorem Numeral.digitValue_le {c : Char} (h : isDigit c = true) : digitValue c ≤ 9 := by
  simp only [isDigit, Bool.and_eq_true, decide_eq_true_eq, Char.le_def,
    UInt32.le_iff_toNat_le] at h
  have hnine : c.toNat ≤ 57 := h.2
  unfold digitValue
  omega

end Composer
