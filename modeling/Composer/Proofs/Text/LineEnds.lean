import Composer.Proofs.Text.Trimming
import Composer.Text.Lines
import Mathlib.Data.List.Forall2
set_option autoImplicit false

/-!
# Line ends

A line may end in a newline alone or in a carriage return and a newline. Putting a carriage return
in front of every newline changes nothing that is looked for in a text: white space stays white
space, what is found inside is found at the same place, and each line is the same up to a carriage
return that was stray before.
-/

namespace Composer.Chars

/-- The text with a carriage return in front of every newline. -/
def withReturns (cs : List Char) : List Char :=
  cs.flatMap fun c => if c = '\n' then ['\r', '\n'] else [c]

@[simp] theorem withReturns_nil : withReturns [] = [] := rfl

@[simp] theorem withReturns_newline (cs : List Char) :
    withReturns ('\n' :: cs) = '\r' :: '\n' :: withReturns cs := rfl

theorem withReturns_cons {c : Char} (h : c ≠ '\n') (cs : List Char) :
    withReturns (c :: cs) = c :: withReturns cs := by
  simp [withReturns, h]

theorem withReturns_append (front back : List Char) :
    withReturns (front ++ back) = withReturns front ++ withReturns back :=
  List.flatMap_append

@[simp] theorem withReturns_eq_nil_iff {cs : List Char} : withReturns cs = [] ↔ cs = [] := by
  cases cs with
  | nil => simp
  | cons c cs =>
    by_cases hc : c = '\n'
    · simp [hc]
    · simp [withReturns_cons hc]

theorem length_le_withReturns (cs : List Char) : cs.length ≤ (withReturns cs).length := by
  induction cs with
  | nil => exact Nat.le_refl _
  | cons c cs ih =>
    by_cases hc : c = '\n'
    · rw [hc, withReturns_newline]
      exact Nat.succ_le_succ (Nat.le_succ_of_le ih)
    · rw [withReturns_cons hc]
      exact Nat.succ_le_succ ih

theorem withReturns_of_not_mem {cs : List Char} (h : '\n' ∉ cs) : withReturns cs = cs := by
  induction cs with
  | nil => rfl
  | cons c cs ih =>
    rw [List.mem_cons, not_or] at h
    rw [withReturns_cons (Ne.symm h.1), ih h.2]

/-- Where a newline was among the first characters, there is a carriage return now. -/
theorem mem_take_withReturns {n : Nat} {cs : List Char} (h : '\n' ∈ cs.take n) :
    '\r' ∈ (withReturns cs).take n := by
  induction n generalizing cs with
  | zero => simp at h
  | succ n ih =>
    cases cs with
    | nil => simp at h
    | cons c cs =>
      by_cases hc : c = '\n'
      · simp [hc]
      · rw [List.take_succ_cons, List.mem_cons] at h
        rw [withReturns_cons hc, List.take_succ_cons]
        exact List.mem_cons_of_mem _ (ih (h.resolve_left (Ne.symm hc)))

/-! ## Characters at the ends -/

/-- The first character is the same, or was a newline. -/
theorem head?_withReturns {x : Char} (hnewline : x ≠ '\n') (hreturn : x ≠ '\r') (cs : List Char) :
    (withReturns cs).head? = some x ↔ cs.head? = some x := by
  cases cs with
  | nil => simp
  | cons c cs =>
    by_cases hc : c = '\n'
    · simp [hc, hnewline.symm, hreturn.symm]
    · simp [withReturns_cons hc]

/-- No newline comes first. -/
theorem head?_withReturns_ne (cs : List Char) : (withReturns cs).head? ≠ some '\n' := by
  cases cs with
  | nil => simp
  | cons c cs =>
    by_cases hc : c = '\n'
    · simp [hc]
    · simpa [withReturns_cons hc] using hc

@[simp] theorem getLast?_withReturns (cs : List Char) :
    (withReturns cs).getLast? = cs.getLast? := by
  cases hlast : cs.getLast? with
  | none => simp [List.getLast?_eq_none_iff.mp hlast]
  | some c =>
    obtain ⟨front, rfl⟩ := List.getLast?_eq_some_iff.mp hlast
    rw [withReturns_append]
    by_cases hc : c = '\n'
    · simp [hc]
    · simp [withReturns_cons hc]

/-! ## Characters of one kind -/

section Kinds

variable {p : Char → Bool}

/-- A run of characters that may hold line ends of both kinds, or none, ends at the same place. -/
theorem dropWhile_withReturns (h : p '\r' = p '\n') (cs : List Char) :
    (withReturns cs).dropWhile p = withReturns (cs.dropWhile p) := by
  induction cs with
  | nil => rfl
  | cons c cs ih =>
    by_cases hc : c = '\n'
    · subst hc
      cases hp : p '\n' <;> simp [h, hp, ih]
    · rw [withReturns_cons hc]
      cases hp : p c
      · simp [hp, withReturns_cons hc]
      · simp [hp, ih]

theorem takeWhile_withReturns (hreturn : p '\r' = false) (hnewline : p '\n' = false)
    (cs : List Char) : (withReturns cs).takeWhile p = cs.takeWhile p := by
  induction cs with
  | nil => rfl
  | cons c cs ih =>
    by_cases hc : c = '\n'
    · subst hc
      simp [hreturn, hnewline]
    · rw [withReturns_cons hc, List.takeWhile_cons, List.takeWhile_cons, ih]

theorem all_withReturns (h : p '\r' = p '\n') (cs : List Char) :
    (withReturns cs).all p = cs.all p := by
  induction cs with
  | nil => rfl
  | cons c cs ih =>
    by_cases hc : c = '\n'
    · subst hc
      cases hp : p '\n' <;> simp [h, hp, ih]
    · rw [withReturns_cons hc, List.all_cons, List.all_cons, ih]

end Kinds

/-- Characters that are replaced one by one, a newline by itself. -/
theorem map_withReturns {f : Char → Char} (hreturn : f '\r' = '\r')
    (hnewline : ∀ c, f c = '\n' ↔ c = '\n') (cs : List Char) :
    (withReturns cs).map f = withReturns (cs.map f) := by
  induction cs with
  | nil => rfl
  | cons c cs ih =>
    by_cases hc : c = '\n'
    · subst hc
      simp [hreturn, (hnewline '\n').mpr rfl, ih]
    · have hf : f c ≠ '\n' := mt (hnewline c).mp hc
      rw [withReturns_cons hc, List.map_cons, List.map_cons, withReturns_cons hf, ih]

/-! ## White space around a text -/

theorem isBlank_withReturns (cs : List Char) : isBlank (withReturns cs) = isBlank cs :=
  all_withReturns (by decide) cs

/-- Both ends of a trimmed text are as they were. -/
theorem isTrimmed_withReturns {cs : List Char} (h : IsTrimmed cs) : IsTrimmed (withReturns cs) := by
  rw [isTrimmed_iff] at h ⊢
  refine ⟨?_, by simpa using h.2⟩
  cases cs with
  | nil => simp
  | cons c cs =>
    have hc : isSpace c = false := h.1 c rfl
    have hne : c ≠ '\n' := by
      rintro rfl
      exact absurd hc (by decide)
    rw [withReturns_cons hne]
    simpa using hc

/-- A text is its trimmed text with white space around it. -/
theorem exists_trim_surrounded (cs : List Char) :
    ∃ before after, isBlank before = true ∧ isBlank after = true ∧
      cs = before ++ trim cs ++ after := by
  have hstart := List.takeWhile_append_dropWhile (p := isSpace) (l := cs)
  have hend := List.takeWhile_append_dropWhile (p := isSpace) (l := (trimStart cs).reverse)
  refine ⟨cs.takeWhile isSpace, ((trimStart cs).reverse.takeWhile isSpace).reverse,
    List.all_takeWhile, ?_, ?_⟩
  · rw [isBlank, List.all_reverse]
    exact List.all_takeWhile
  · have hcut : trim cs ++ ((trimStart cs).reverse.takeWhile isSpace).reverse = trimStart cs := by
      rw [trim, trimEnd, ← List.reverse_append, hend, List.reverse_reverse]
    rw [List.append_assoc, hcut]
    exact hstart.symm

theorem trim_withReturns (cs : List Char) : trim (withReturns cs) = withReturns (trim cs) := by
  obtain ⟨before, after, hbefore, hafter, hcs⟩ := exists_trim_surrounded cs
  have hall : withReturns cs =
      withReturns before ++ withReturns (trim cs) ++ withReturns after := by
    rw [← withReturns_append, ← withReturns_append, ← hcs]
  rw [hall, trim_surrounded (by rw [isBlank_withReturns, hbefore])
    (by rw [isBlank_withReturns, hafter])]
  exact isTrimmed_withReturns (isTrimmed_trim cs)

/-! ## Texts inside a text -/

/-- A text without line ends. -/
def IsInline (cs : List Char) : Prop := ∀ c ∈ cs, c ≠ '\r' ∧ c ≠ '\n'

instance (cs : List Char) : Decidable (IsInline cs) := List.decidableBAll _ cs

theorem isPrefixOf_withReturns {sub : List Char} (h : IsInline sub) (cs : List Char) :
    sub.isPrefixOf (withReturns cs) = sub.isPrefixOf cs := by
  induction sub generalizing cs with
  | nil => simp
  | cons x sub ih =>
    obtain ⟨⟨hreturn, hnewline⟩, hsub⟩ := List.forall_mem_cons.mp h
    cases cs with
    | nil => rfl
    | cons c cs =>
      by_cases hc : c = '\n'
      · subst hc
        rw [withReturns_newline, List.isPrefixOf, List.isPrefixOf, beq_false_of_ne hreturn,
          beq_false_of_ne hnewline]
        rfl
      · rw [withReturns_cons hc, List.isPrefixOf, List.isPrefixOf, ih hsub]

theorem hasInfix_nil (cs : List Char) : hasInfix [] cs = true := by
  cases cs <;> rfl

/-- A text is found at the first character or behind it. -/
theorem hasInfix_cons (sub : List Char) (c : Char) (cs : List Char) :
    hasInfix sub (c :: cs) = (sub.isPrefixOf (c :: cs) || hasInfix sub cs) := by
  have hcut : (sub.isPrefixOf? (c :: cs)).isSome = sub.isPrefixOf (c :: cs) :=
    List.isSome_isPrefixOf?_eq_isPrefixOf sub (c :: cs)
  rw [← hcut, hasInfix, splitOn]
  cases sub.isPrefixOf? (c :: cs) with
  | none => simp [hasInfix]
  | some after => rfl

theorem hasInfix_withReturns {sub : List Char} (h : IsInline sub) (cs : List Char) :
    hasInfix sub (withReturns cs) = hasInfix sub cs := by
  cases sub with
  | nil => rw [hasInfix_nil, hasInfix_nil]
  | cons x sub =>
    induction cs with
    | nil => rfl
    | cons c cs ih =>
      have hfirst := isPrefixOf_withReturns h (c :: cs)
      by_cases hc : c = '\n'
      · subst hc
        have hne : (x :: sub).isPrefixOf ('\n' :: withReturns cs) = false := by
          rw [List.isPrefixOf, beq_false_of_ne (h x List.mem_cons_self).2, Bool.false_and]
        rw [withReturns_newline, hasInfix_cons, hasInfix_cons, hasInfix_cons, hne, ih,
          ← withReturns_newline, hfirst, Bool.false_or]
      · rw [withReturns_cons hc, hasInfix_cons, hasInfix_cons, ih, ← withReturns_cons hc, hfirst]

/-! ## Lines -/

/-- A character that ends no line stands in front of the first line. -/
theorem lines_cons {c : Char} (hc : c ≠ '\n') {cs : List Char}
    (hpair : c = '\r' → cs.head? ≠ some '\n') :
    lines (c :: cs) = (c :: (lines cs).head?.getD []) :: (lines cs).tail := by
  rw [lines.eq_def]
  split
  next heq => cases heq
  next heq => exact absurd (List.cons.inj heq).1 hc
  next heq =>
    cases heq
    exact absurd rfl (hpair rfl)
  next heq =>
    cases heq
    cases lines cs <;> rfl

/-- The same line, or the line with a carriage return that was stray at its end. -/
def SameLine (line line' : List Char) : Prop := line' = line ∨ line' = line ++ ['\r']

theorem SameLine.refl (line : List Char) : SameLine line line := .inl rfl

theorem SameLine.cons {line line' : List Char} (h : SameLine line line') (c : Char) :
    SameLine (c :: line) (c :: line') := by
  rcases h with rfl | rfl
  · exact .inl rfl
  · exact .inr rfl

/-- Lines are the same one by one. -/
theorem lines_withReturns (cs : List Char) :
    List.Forall₂ SameLine (lines cs) (lines (withReturns cs)) := by
  fun_induction lines cs with
  | case1 => exact .nil
  | case2 cs ih => exact .cons (.refl []) ih
  | case3 cs ih =>
    -- the carriage return was part of the line's end, and is now in front of another
    have hstray : lines (withReturns ('\r' :: '\n' :: cs)) = ['\r'] :: lines (withReturns cs) := rfl
    rw [hstray]
    exact .cons (.inr rfl) ih
  | case4 c cs hc hpair hnone ih =>
    have hne : c ≠ '\n' := hc
    rw [hnone, List.forall₂_nil_left_iff] at ih
    rw [withReturns_cons hne, lines_cons hne fun _ => head?_withReturns_ne cs, ih]
    exact .cons (.refl [c]) .nil
  | case5 c cs hc hpair line rest hsome ih =>
    have hne : c ≠ '\n' := hc
    rw [hsome, List.forall₂_cons_left_iff] at ih
    obtain ⟨line', rest', hline, hrest, hlines⟩ := ih
    rw [withReturns_cons hne, lines_cons hne fun _ => head?_withReturns_ne cs, hlines]
    exact .cons (hline.cons c) hrest

namespace SameLine

variable {line line' : List Char}

theorem isBlank_eq (h : SameLine line line') : isBlank line' = isBlank line := by
  have hreturn : isBlank ['\r'] = true := by decide
  rcases h with rfl | rfl
  · rfl
  · rw [isBlank_append, hreturn, Bool.and_true]

theorem trimStart_eq (h : SameLine line line') : SameLine (trimStart line) (trimStart line') := by
  rcases h with rfl | rfl
  · exact .refl _
  · rw [trimStart, trimStart, List.dropWhile_append]
    split
    next hblank =>
      rw [List.isEmpty_iff.mp hblank]
      exact .inl (by decide)
    next => exact .inr rfl

theorem isPrefixOf_eq (h : SameLine line line') {sub : List Char} (hsub : IsInline sub) :
    sub.isPrefixOf line' = sub.isPrefixOf line := by
  rcases h with rfl | rfl
  · rfl
  · rw [Bool.eq_iff_iff, List.isPrefixOf_iff_prefix, List.isPrefixOf_iff_prefix,
      List.prefix_concat_iff]
    refine or_iff_right ?_
    rintro rfl
    exact (hsub '\r' (by simp)).1 rfl

theorem count_eq (h : SameLine line line') {c : Char} (hc : c ≠ '\r') :
    line'.count c = line.count c := by
  rcases h with rfl | rfl
  · rfl
  · simp [List.count_append, hc.symm]

end SameLine
end Composer.Chars
