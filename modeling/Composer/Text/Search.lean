set_option autoImplicit false

/-!
# Finding and cutting

Searches in a list of characters that also give the text on both sides of what was found.
-/

namespace Composer.Chars

/-- Cuts a text at the last occurrence of a character, which is left out. -/
def splitLast (x : Char) : List Char → Option (List Char × List Char)
  | [] => none
  | c :: cs =>
    match splitLast x cs with
    | some (before, after) => some (c :: before, after)
    | none => if c = x then some ([], cs) else none

theorem splitLast_of_not_mem {x : Char} {cs : List Char} (h : x ∉ cs) : splitLast x cs = none := by
  induction cs with
  | nil => rfl
  | cons c cs ih =>
    rw [List.mem_cons, not_or] at h
    simp [splitLast, ih h.2, Ne.symm h.1]

theorem splitLast_append_cons {x : Char} {after : List Char} (h : x ∉ after) :
    ∀ before : List Char, splitLast x (before ++ x :: after) = some (before, after) := by
  intro before
  induction before with
  | nil => simp [splitLast, splitLast_of_not_mem h]
  | cons c cs ih => simp [splitLast, ih]

/-- A text that holds a character falls apart at its last occurrence. -/
theorem exists_last_of_mem {x : Char} {cs : List Char} (h : x ∈ cs) :
    ∃ before after, cs = before ++ x :: after ∧ x ∉ after := by
  obtain ⟨after, before, hcs, habsent⟩ := List.eq_append_cons_of_mem (List.mem_reverse.mpr h)
  refine ⟨before.reverse, after.reverse, ?_, by simpa using habsent⟩
  have hreverse := congrArg List.reverse hcs
  simpa using hreverse

theorem splitLast_eq_none_iff {x : Char} {cs : List Char} : splitLast x cs = none ↔ x ∉ cs := by
  constructor
  · intro hnone hmem
    obtain ⟨before, after, rfl, habsent⟩ := exists_last_of_mem hmem
    rw [splitLast_append_cons habsent before] at hnone
    exact absurd hnone (by simp)
  · exact splitLast_of_not_mem

/-- The cut is at the last occurrence: none is left behind it. -/
theorem splitLast_eq_some_iff {x : Char} {cs before after : List Char} :
    splitLast x cs = some (before, after) ↔ cs = before ++ x :: after ∧ x ∉ after := by
  constructor
  · intro h
    have hmem : x ∈ cs := by
      by_cases hmem : x ∈ cs
      · exact hmem
      · rw [splitLast_of_not_mem hmem] at h
        exact absurd h (by simp)
    obtain ⟨front, back, rfl, habsent⟩ := exists_last_of_mem hmem
    rw [splitLast_append_cons habsent front] at h
    obtain ⟨rfl, rfl⟩ := Prod.mk.inj (Option.some.inj h)
    exact ⟨rfl, habsent⟩
  · rintro ⟨rfl, habsent⟩
    exact splitLast_append_cons habsent before

/-- Cuts a text at the first character of a class, which is left out. -/
def splitFirst (p : Char → Bool) : List Char → Option (List Char × List Char)
  | [] => none
  | c :: cs => if p c then some ([], cs) else (splitFirst p cs).map fun (b, a) => (c :: b, a)

/-- Cuts a text at the first occurrence of a separator, which is left out. -/
def splitOn (sep : List Char) : List Char → Option (List Char × List Char)
  | [] => if sep.isEmpty then some ([], []) else none
  | c :: cs =>
    match sep.isPrefixOf? (c :: cs) with
    | some after => some ([], after)
    | none => (splitOn sep cs).map fun (b, a) => (c :: b, a)

/-- Whether a text occurs inside another. -/
def hasInfix (sub : List Char) (cs : List Char) : Bool := (splitOn sub cs).isSome

/-- The letters `A` to `Z` in lower case, all else unchanged. -/
def lowerAscii (c : Char) : Char := if 'A' ≤ c ∧ c ≤ 'Z' then Char.ofNat (c.toNat + 32) else c

/-- The pieces between the occurrences of a character: always one more piece than occurrences. -/
def pieces (x : Char) : List Char → List (List Char)
  | [] => [[]]
  | c :: cs =>
    if c = x then [] :: pieces x cs
    else match pieces x cs with
      | [] => [[c]]
      | piece :: rest => (c :: piece) :: rest

end Composer.Chars

namespace Composer.Text

/-- Whether a string begins with another. -/
def startsWith (s start : String) : Bool := start.toList.isPrefixOf s.toList

/-- Whether a string ends with another. -/
def endsWith (s tail : String) : Bool := tail.toList.isSuffixOf s.toList

/-- The string in which every occurrence of a non-empty text is replaced, from left to right. -/
def replaceAll (old new : List Char) (cs : List Char) : List Char :=
  go old new cs.length cs
where
  go (old new : List Char) : Nat → List Char → List Char
    | 0, cs => cs
    | n + 1, cs =>
      if old.isEmpty then cs
      else match Chars.splitOn old cs with
        | none => cs
        | some (before, after) => before ++ new ++ go old new n after

end Composer.Text
