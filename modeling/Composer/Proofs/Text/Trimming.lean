import Composer.Text.Numeral
import Composer.Text.Words
import Mathlib.Data.List.DropRight
set_option autoImplicit false

/-!
# Trimmed texts and their words

White space around a text is not part of the trimmed text, and a text is trimmed if neither end of
it is white space. Words that are joined by single spaces are the words of the joined text. A text
is cut at the first character of a class, whatever stands behind it.
-/

namespace Composer.Chars

/-! ## Trimming -/

theorem not_isSpace_of_isDigit {c : Char} (h : Numeral.isDigit c = true) : isSpace c = false := by
  simp only [Numeral.isDigit, Bool.and_eq_true, decide_eq_true_eq, Char.le_def,
    UInt32.le_iff_toNat_le] at h
  obtain ⟨hlow, hhigh⟩ := h
  have hlow' : 48 ≤ c.toNat := hlow
  have hhigh' : c.toNat ≤ 57 := hhigh
  rw [← Bool.not_eq_true]
  intro hspace
  simp only [isSpace, Bool.or_eq_true, Bool.and_eq_true, decide_eq_true_eq, beq_iff_eq] at hspace
  omega

theorem isBlank_iff {cs : List Char} : isBlank cs = true ↔ ∀ c ∈ cs, isSpace c = true :=
  List.all_eq_true

theorem trimStart_blank_append {blank : List Char} (h : isBlank blank = true) (cs : List Char) :
    trimStart (blank ++ cs) = trimStart cs :=
  List.dropWhile_append_of_pos (isBlank_iff.mp h)

theorem trimEnd_append_blank {blank : List Char} (h : isBlank blank = true) (cs : List Char) :
    trimEnd (cs ++ blank) = trimEnd cs := by
  have hall : ∀ c ∈ blank.reverse, isSpace c = true := by
    intro c hc
    exact isBlank_iff.mp h c (List.mem_reverse.mp hc)
  rw [trimEnd, trimEnd, List.reverse_append, List.dropWhile_append_of_pos hall]

theorem trim_append_blank {blank : List Char} (h : isBlank blank = true) (cs : List Char) :
    trim (cs ++ blank) = trim cs := by
  cases hstart : trimStart cs with
  | nil =>
    have hcs : isBlank cs = true := isBlank_iff.mpr (List.dropWhile_eq_nil_iff.mp hstart)
    have hblank : trimStart blank = [] := List.dropWhile_eq_nil_iff.mpr (isBlank_iff.mp h)
    rw [trim, trim, trimStart_blank_append hcs, hstart, hblank]
  | cons c rest =>
    have happend : trimStart (cs ++ blank) = trimStart cs ++ blank := by
      rw [trimStart, List.dropWhile_append, ← trimStart, hstart]
      rfl
    rw [trim, trim, happend, trimEnd_append_blank h]

/-- White space on either side of a text is not part of it. -/
theorem trim_surrounded {before after : List Char} (hbefore : isBlank before = true)
    (hafter : isBlank after = true) (cs : List Char) : trim (before ++ cs ++ after) = trim cs := by
  rw [trim_append_blank hafter, trim, trimStart_blank_append hbefore, ← trim]

/-- What is left without the leading white space starts with something else. -/
theorem not_isSpace_of_trimStart {c : Char} {cs rest : List Char} (h : trimStart cs = c :: rest) :
    isSpace c = false := by
  have hhead := List.head?_dropWhile_not isSpace cs
  rw [← trimStart, h] at hhead
  simpa using hhead

theorem trim_eq_nil_iff {cs : List Char} : trim cs = [] ↔ isBlank cs = true := by
  rw [isBlank_iff, ← List.dropWhile_eq_nil_iff, ← trimStart, trim]
  cases hstart : trimStart cs with
  | nil => exact iff_of_true rfl rfl
  | cons c rest => simp [trimEnd_cons (not_isSpace_of_trimStart hstart)]

/-! ## Trimmed texts -/

/-- Trimming a trimmed text cuts nothing off. -/
def IsTrimmed (cs : List Char) : Prop := trim cs = cs

theorem isTrimmed_nil : IsTrimmed [] := rfl

theorem isTrimmed_iff {cs : List Char} :
    IsTrimmed cs ↔ (∀ c ∈ cs.head?, isSpace c = false) ∧ ∀ c ∈ cs.getLast?, isSpace c = false := by
  have hstart : trimStart cs = cs ↔ ∀ c ∈ cs.head?, isSpace c = false := by
    rw [trimStart, List.dropWhile_eq_self_iff]
    cases cs <;> simp
  have hend : trimEnd cs = cs ↔ ∀ c ∈ cs.getLast?, isSpace c = false := by
    rw [show trimEnd cs = cs.rdropWhile isSpace from rfl, List.rdropWhile_eq_self_iff]
    cases hlast : cs.getLast? with
    | none => simp [List.getLast?_eq_none_iff.mp hlast]
    | some c =>
      obtain ⟨front, rfl⟩ := List.getLast?_eq_some_iff.mp hlast
      simp
  rw [← hstart, ← hend]
  constructor
  · intro h
    have hboth : trimStart cs = cs := by
      apply (List.dropWhile_suffix isSpace).eq_of_length_le
      calc cs.length = (trim cs).length := by rw [show trim cs = cs from h]
        _ ≤ (trimStart cs).length := (List.rdropWhile_prefix isSpace (trimStart cs)).length_le
    exact ⟨hboth, by rw [← h, trim, hboth]; exact List.rdropWhile_idempotent isSpace cs⟩
  · rintro ⟨hfirst, hlast⟩
    rw [IsTrimmed, trim, hfirst, hlast]

/-- What is left after trimming is trimmed. -/
theorem isTrimmed_trim (cs : List Char) : IsTrimmed (trim cs) := by
  cases hstart : trimStart cs with
  | nil =>
    rw [trim, hstart]
    exact isTrimmed_nil
  | cons c rest =>
    have hc := not_isSpace_of_trimStart hstart
    have hfirst : trimStart (trim cs) = trim cs := by
      rw [trim, hstart, trimEnd_cons hc, trimStart, List.dropWhile_cons_of_neg (by simp [hc])]
    rw [IsTrimmed, trim, hfirst]
    exact List.rdropWhile_idempotent isSpace (trimStart cs)

/-- Only the two ends of a text decide. -/
theorem IsTrimmed.append {front back : List Char} (hfront : IsTrimmed front)
    (hback : IsTrimmed back) (hne : front ≠ []) (hne' : back ≠ []) (middle : List Char) :
    IsTrimmed (front ++ middle ++ back) := by
  rw [isTrimmed_iff] at hfront hback ⊢
  constructor
  · obtain ⟨c, cs, rfl⟩ := List.exists_cons_of_ne_nil hne
    exact hfront.1
  · rw [List.getLast?_append_of_ne_nil _ hne']
    exact hback.2

/-- In front of a text that is trimmed nothing is cut off at the end. -/
theorem IsTrimmed.trimEnd_append {cs : List Char} (h : IsTrimmed cs) (hne : cs ≠ [])
    (front : List Char) : trimEnd (front ++ cs) = front ++ cs := by
  rw [show trimEnd (front ++ cs) = (front ++ cs).rdropWhile isSpace from rfl,
    List.rdropWhile_eq_self_iff]
  intro hboth
  have hlast := (isTrimmed_iff.mp h).2 (cs.getLast hne) (List.getLast?_eq_some_getLast hne)
  rw [List.getLast_append_of_ne_nil _ hne, hlast]
  exact Bool.false_ne_true

/-! ## Words -/

/-- A word: some characters and no white space. -/
def IsWord (cs : List Char) : Prop := cs ≠ [] ∧ ∀ c ∈ cs, isSpace c = false

theorem IsWord.isTrimmed {word : List Char} (h : IsWord word) : IsTrimmed word :=
  trim_of_forall_not_isSpace h.2

theorem words_space {c : Char} (hc : isSpace c = true) (cs : List Char) :
    words (c :: cs) = words cs := by
  rw [words.eq_def]
  simp only [hc, if_true]

/-- A character in front of a word belongs to it. -/
theorem words_cons_of_words {c d : Char} {cs word : List Char} {rest : List (List Char)}
    (hc : isSpace c = false) (hd : isSpace d = false) (h : words (d :: cs) = word :: rest) :
    words (c :: d :: cs) = (c :: word) :: rest := by
  rw [words.eq_def]
  simp only [hc, hd, h, Bool.false_eq_true, if_false]

theorem words_word {word : List Char} (h : IsWord word) : words word = [word] := by
  obtain ⟨hne, hall⟩ := h
  induction word with
  | nil => exact absurd rfl hne
  | cons c cs ih =>
    rw [List.forall_mem_cons] at hall
    cases cs with
    | nil =>
      rw [words.eq_def]
      simp [hall.1]
    | cons d ds =>
      have hd : isSpace d = false := hall.2 d List.mem_cons_self
      exact words_cons_of_words hall.1 hd (ih (List.cons_ne_nil d ds) hall.2)

/-- The first word ends at the first space. -/
theorem words_word_append {word : List Char} (h : IsWord word) (rest : List Char) :
    words (word ++ ' ' :: rest) = word :: words rest := by
  obtain ⟨hne, hall⟩ := h
  have hspace : isSpace ' ' = true := by decide
  induction word with
  | nil => exact absurd rfl hne
  | cons c cs ih =>
    rw [List.forall_mem_cons] at hall
    cases cs with
    | nil =>
      rw [List.singleton_append, words.eq_def]
      simp only [hall.1, hspace, words_space, Bool.false_eq_true, if_false, if_true]
    | cons d ds =>
      have hd : isSpace d = false := hall.2 d List.mem_cons_self
      exact words_cons_of_words hall.1 hd (ih (List.cons_ne_nil d ds) hall.2)

/-- Joined words fall apart into the same words. -/
theorem words_intercalate {ws : List (List Char)} (h : ∀ w ∈ ws, IsWord w) :
    words (List.intercalate [' '] ws) = ws := by
  induction ws with
  | nil => rfl
  | cons w ws ih =>
    rw [List.forall_mem_cons] at h
    cases ws with
    | nil => rw [List.intercalate_singleton, words_word h.1]
    | cons v ws =>
      rw [List.intercalate_cons_cons, List.append_assoc, List.singleton_append,
        words_word_append h.1, ih h.2]

theorem intercalate_ne_nil {ws : List (List Char)} (hne : ws ≠ []) (h : ∀ w ∈ ws, IsWord w) :
    List.intercalate [' '] ws ≠ [] := by
  intro hnil
  have hwords := words_intercalate h
  rw [hnil] at hwords
  exact hne hwords.symm

theorem isTrimmed_intercalate {ws : List (List Char)} (h : ∀ w ∈ ws, IsWord w) :
    IsTrimmed (List.intercalate [' '] ws) := by
  induction ws with
  | nil => exact isTrimmed_nil
  | cons w ws ih =>
    rw [List.forall_mem_cons] at h
    cases ws with
    | nil =>
      rw [List.intercalate_singleton]
      exact h.1.isTrimmed
    | cons v ws =>
      rw [List.intercalate_cons_cons]
      exact h.1.isTrimmed.append (ih h.2) h.1.1 (intercalate_ne_nil (List.cons_ne_nil v ws) h.2) _

theorem intercalate_append_singleton {ws : List (List Char)} (h : ws ≠ []) (w : List Char) :
    List.intercalate [' '] (ws ++ [w]) = List.intercalate [' '] ws ++ ' ' :: w := by
  induction ws with
  | nil => exact absurd rfl h
  | cons v vs ih =>
    cases vs with
    | nil =>
      rw [List.singleton_append, List.intercalate_cons_cons, List.intercalate_singleton,
        List.intercalate_singleton, List.append_assoc, List.singleton_append]
    | cons u us =>
      rw [List.cons_append, List.cons_append, List.intercalate_cons_cons, ← List.cons_append,
        ih (List.cons_ne_nil u us), List.intercalate_cons_cons, List.append_assoc,
        List.append_assoc, List.append_assoc]

/-! ## Cutting at the first character of a class -/

theorem splitFirst_of_forall {p : Char → Bool} {cs : List Char} (h : ∀ c ∈ cs, p c = false) :
    splitFirst p cs = none := by
  induction cs with
  | nil => rfl
  | cons c cs ih =>
    rw [List.forall_mem_cons] at h
    rw [splitFirst, if_neg (by simp [h.1]), ih h.2]
    rfl

theorem splitFirst_append_cons {p : Char → Bool} {before : List Char} {c : Char}
    (hbefore : ∀ b ∈ before, p b = false) (hc : p c = true) (after : List Char) :
    splitFirst p (before ++ c :: after) = some (before, after) := by
  induction before with
  | nil => rw [List.nil_append, splitFirst, if_pos hc]
  | cons b bs ih =>
    rw [List.forall_mem_cons] at hbefore
    rw [List.cons_append, splitFirst, if_neg (by simp [hbefore.1]), ih hbefore.2]
    rfl

end Composer.Chars
