import Composer.Proofs.Text.LineEnds
set_option autoImplicit false

/-!
# Lines

What the lines of a text are, from one newline to the next: the text up to the first newline is a
line, less a carriage return at its end, and the other lines are those of the rest. So no line
holds a newline, and there are as many lines as newlines, and one more where the text goes on
behind the last of them.
-/

namespace Composer.Chars

/-- A text has no newline, or it goes on behind its first one. -/
theorem newline_induction {motive : List Char → Prop}
    (line : ∀ line, '\n' ∉ line → motive line)
    (newline : ∀ line rest, '\n' ∉ line → motive rest → motive (line ++ '\n' :: rest))
    (cs : List Char) : motive cs := by
  -- what was read since the last newline stands in front
  suffices h : ∀ front, '\n' ∉ front → motive (front ++ cs) from h [] List.not_mem_nil
  induction cs with
  | nil =>
    intro front hfront
    rw [List.append_nil]
    exact line front hfront
  | cons c cs ih =>
    intro front hfront
    by_cases hc : c = '\n'
    · rw [hc]
      exact newline front cs hfront (ih [] List.not_mem_nil)
    · rw [List.append_cons]
      exact ih (front ++ [c]) (by simp [hfront, Ne.symm hc])

theorem lines_of_not_mem {line : List Char} (h : '\n' ∉ line) (hne : line ≠ []) :
    lines line = [line] := by
  induction line with
  | nil => exact absurd rfl hne
  | cons c line ih =>
    rw [List.mem_cons, not_or] at h
    have hhead : line.head? ≠ some '\n' := fun hhead => h.2 (List.mem_of_mem_head? hhead)
    rw [lines_cons (Ne.symm h.1) fun _ => hhead]
    cases line with
    | nil => rfl
    | cons d line =>
      rw [ih h.2 (List.cons_ne_nil d line)]
      rfl

/-- The text up to the first newline is a line, maybe without a carriage return at its end. -/
theorem lines_append_newline {line : List Char} (h : '\n' ∉ line) (rest : List Char) :
    ∃ first, SameLine first line ∧ lines (line ++ '\n' :: rest) = first :: lines rest := by
  induction line with
  | nil => exact ⟨[], .refl [], rfl⟩
  | cons c line ih =>
    rw [List.mem_cons, not_or] at h
    by_cases hend : c = '\r' ∧ line = []
    · obtain ⟨rfl, rfl⟩ := hend
      exact ⟨[], .inr rfl, rfl⟩
    · obtain ⟨first, hsame, hlines⟩ := ih h.2
      have hpair : c = '\r' → (line ++ '\n' :: rest).head? ≠ some '\n' := by
        intro hc
        cases line with
        | nil => exact absurd ⟨hc, rfl⟩ hend
        | cons d line =>
          intro hhead
          obtain rfl := Option.some.inj hhead
          exact h.2 List.mem_cons_self
      refine ⟨c :: first, hsame.cons c, ?_⟩
      rw [List.cons_append, lines_cons (Ne.symm h.1) hpair, hlines]
      rfl

/-- A newline ends a line and is not part of it. -/
theorem newline_not_mem {line cs : List Char} (h : line ∈ lines cs) : '\n' ∉ line := by
  induction cs using newline_induction with
  | line cs hcs =>
    cases cs with
    | nil => exact absurd h List.not_mem_nil
    | cons c cs =>
      rw [lines_of_not_mem hcs (List.cons_ne_nil c cs), List.mem_singleton] at h
      rwa [h]
  | newline front rest hfront ih =>
    obtain ⟨first, hsame, hlines⟩ := lines_append_newline hfront rest
    rw [hlines, List.mem_cons] at h
    rcases h with rfl | hrest
    · rcases hsame with rfl | rfl
      · exact hfront
      · exact fun hmem => hfront (List.mem_append_left _ hmem)
    · exact ih hrest

theorem lines_ne_nil {cs : List Char} (h : cs ≠ []) : lines cs ≠ [] := by
  induction cs using newline_induction with
  | line cs hcs => simp [lines_of_not_mem hcs h]
  | newline front rest hfront _ =>
    obtain ⟨first, -, hlines⟩ := lines_append_newline hfront rest
    simp [hlines]

/-! ## How many -/

/-- Whether a text goes on behind its last newline. -/
def EndsOpen (cs : List Char) : Prop := cs ≠ [] ∧ cs.getLast? ≠ some '\n'

instance (cs : List Char) : Decidable (EndsOpen cs) := inferInstanceAs (Decidable (_ ∧ _))

/-- What stands in front does not matter to the end of a text. -/
theorem endsOpen_append {back : List Char} (h : back ≠ []) (front : List Char) :
    EndsOpen (front ++ back) ↔ EndsOpen back := by
  simp [EndsOpen, h]

theorem length_lines (cs : List Char) :
    (lines cs).length = cs.count '\n' + if EndsOpen cs then 1 else 0 := by
  induction cs using newline_induction with
  | line cs hcs =>
    rw [List.count_eq_zero_of_not_mem hcs]
    cases cs with
    | nil => rfl
    | cons c cs =>
      have hopen : EndsOpen (c :: cs) :=
        ⟨List.cons_ne_nil c cs, fun hlast => hcs (List.mem_of_getLast? hlast)⟩
      rw [lines_of_not_mem hcs hopen.1, if_pos hopen, List.length_singleton]
  | newline front rest hfront ih =>
    obtain ⟨first, -, hlines⟩ := lines_append_newline hfront rest
    have hopen : EndsOpen (front ++ '\n' :: rest) ↔ EndsOpen rest := by
      cases rest with
      | nil => simp [EndsOpen]
      | cons c rest =>
        rw [List.append_cons]
        exact endsOpen_append (List.cons_ne_nil c rest) _
    rw [hlines, List.length_cons, ih, List.count_append, List.count_eq_zero_of_not_mem hfront,
      List.count_cons_self]
    simp only [hopen]
    omega

/-- Where something follows, every newline in front is the end of a line. -/
theorem length_lines_append {back : List Char} (h : back ≠ []) (front : List Char) :
    (lines (front ++ back)).length = front.count '\n' + (lines back).length := by
  rw [length_lines, length_lines, List.count_append, Nat.add_assoc]
  simp only [endsOpen_append h]

end Composer.Chars
