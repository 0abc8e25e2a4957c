import Composer.Prompt.Template
import Composer.Proofs.Text.Reading
set_option autoImplicit false

/-!
# Placeholders

A placeholder is two opening braces, a name and two closing braces, with white space allowed
around the name. No name holds white space and neither holds a brace, so what stands at the front
of a text is a placeholder in at most one way. The reader finds it exactly if there is one, and
the pieces of a template are read off accordingly.
-/

namespace Composer.Template

open Chars (isSpace Stops stops_cons)

/-! ## The grammar -/

/-- A placeholder, with the white space on both sides of its name. -/
structure Placeholder where
  left : List Char
  name : List Char
  right : List Char
  left_blank : ∀ c ∈ left, isSpace c = true
  name_ne_nil : name ≠ []
  name_chars : ∀ c ∈ name, isNameChar c = true
  right_blank : ∀ c ∈ right, isSpace c = true

/-- The placeholder as it is written. -/
def Placeholder.written (p : Placeholder) : List Char :=
  '{' :: '{' :: (p.left ++ (p.name ++ (p.right ++ ['}', '}'])))

/-- A placeholder stands at this position of a text. -/
def OccursAt (text : List Char) (i : Nat) : Prop := ∃ p : Placeholder, p.written <+: text.drop i

theorem isNameChar_bounds {c : Char} (h : isNameChar c = true) : 45 ≤ c.toNat ∧ c.toNat ≤ 122 := by
  simp only [isNameChar, Numeral.isDigit, Bool.or_eq_true, Bool.and_eq_true, decide_eq_true_eq,
    beq_iff_eq, Char.le_def, UInt32.le_iff_toNat_le] at h
  rcases h with ((((h | h) | h) | rfl) | rfl) | rfl
  · have hupper : 65 ≤ c.toNat ∧ c.toNat ≤ 90 := h
    omega
  · have hlower : 97 ≤ c.toNat ∧ c.toNat ≤ 122 := h
    omega
  · have hdigit : 48 ≤ c.toNat ∧ c.toNat ≤ 57 := h
    omega
  all_goals decide

theorem not_isSpace_of_isNameChar {c : Char} (h : isNameChar c = true) : isSpace c = false := by
  have hbounds := isNameChar_bounds h
  rw [← Bool.not_eq_true]
  intro hspace
  simp only [isSpace, Bool.or_eq_true, Bool.and_eq_true, decide_eq_true_eq, beq_iff_eq] at hspace
  omega

namespace Placeholder

variable (p : Placeholder) (rest : List Char)

/-! Each part ends where a character of another kind comes. -/

theorem stops_right : Stops isSpace ('}' :: '}' :: rest) := stops_cons (by decide) _

theorem stops_name : Stops isNameChar (p.right ++ '}' :: '}' :: rest) := by
  cases hright : p.right with
  | nil => exact stops_cons (by decide) _
  | cons c cs =>
    have hspace : isSpace c = true := p.right_blank c (by rw [hright]; exact List.mem_cons_self)
    refine stops_cons ?_ _
    rw [← Bool.not_eq_true]
    intro hname
    rw [not_isSpace_of_isNameChar hname] at hspace
    exact absurd hspace (by decide)

theorem stops_left : Stops isSpace (p.name ++ (p.right ++ '}' :: '}' :: rest)) := by
  obtain ⟨c, cs, hname⟩ := List.exists_cons_of_ne_nil p.name_ne_nil
  have hc : isNameChar c = true := p.name_chars c (by rw [hname]; exact List.mem_cons_self)
  rw [hname, List.cons_append]
  exact stops_cons (not_isSpace_of_isNameChar hc) _

theorem written_append :
    p.written ++ rest = '{' :: '{' :: (p.left ++ (p.name ++ (p.right ++ '}' :: '}' :: rest))) := by
  simp [written]

variable {p rest}

/-- What stands at the front of a text is a placeholder in at most one way. -/
theorem written_append_inj {q : Placeholder} {rest' : List Char}
    (h : p.written ++ rest = q.written ++ rest') : p = q ∧ rest = rest' := by
  rw [written_append, written_append] at h
  obtain ⟨hleft, h⟩ := (p.stops_left rest).append_inj (q.stops_left rest') p.left_blank q.left_blank
    (List.cons.inj (List.cons.inj h).2).2
  obtain ⟨hname, h⟩ :=
    (p.stops_name rest).append_inj (q.stops_name rest') p.name_chars q.name_chars h
  obtain ⟨hright, h⟩ :=
    (stops_right rest).append_inj (stops_right rest') p.right_blank q.right_blank h
  refine ⟨?_, (List.cons.inj (List.cons.inj h).2).2⟩
  cases p
  cases q
  congr

end Placeholder

/-! ## The reader -/

theorem placeholder?_written (p : Placeholder) (rest : List Char) :
    placeholder? (p.written ++ rest) = some (p.name, rest) := by
  have hleft := (p.stops_left rest).dropWhile_append p.left_blank
  have hname := (p.stops_name rest).takeWhile_append p.name_chars
  have hbehind := (p.stops_name rest).dropWhile_append p.name_chars
  have hright := (Placeholder.stops_right rest).dropWhile_append p.right_blank
  obtain ⟨c, cs, hcons⟩ := List.exists_cons_of_ne_nil p.name_ne_nil
  rw [Placeholder.written_append, placeholder?]
  simp only [Chars.trimStart, hleft, hname, hbehind, hright]
  simp only [hcons]

/-- What the reader finds is there. -/
theorem exists_of_placeholder? {cs name rest : List Char}
    (h : placeholder? cs = some (name, rest)) :
    ∃ p : Placeholder, p.name = name ∧ cs = p.written ++ rest := by
  have hkind : ∀ (p : Char → Bool) (cs : List Char), ∀ c ∈ cs.takeWhile p, p c = true :=
    fun _ _ => List.all_eq_true.mp List.all_takeWhile
  unfold placeholder? at h
  split at h
  · rename_i cs
    dsimp only [Chars.trimStart] at h
    split at h
    · rename_i rest' hname hclosing
      obtain ⟨rfl, rfl⟩ := Prod.mk.inj (Option.some.inj h)
      -- the three parts that the reader steps over, each as far as its characters go
      have hleft := List.takeWhile_append_dropWhile (p := isSpace) (l := cs)
      have hmiddle := List.takeWhile_append_dropWhile (p := isNameChar) (l := cs.dropWhile isSpace)
      have hright := List.takeWhile_append_dropWhile (p := isSpace)
        (l := (cs.dropWhile isSpace).dropWhile isNameChar)
      rw [hclosing] at hright
      refine ⟨⟨_, _, _, hkind isSpace cs, ?_, hkind isNameChar (cs.dropWhile isSpace),
        hkind isSpace ((cs.dropWhile isSpace).dropWhile isNameChar)⟩, rfl, ?_⟩
      · rw [hname]
        exact List.cons_ne_nil _ _
      · rw [Placeholder.written_append]
        dsimp only
        rw [hright, hmiddle, hleft]
    · simp at h
  · simp at h

theorem occursAt_zero_iff {cs : List Char} :
    OccursAt cs 0 ↔ ∃ (p : Placeholder) (rest : List Char), cs = p.written ++ rest := by
  constructor
  · rintro ⟨p, rest, h⟩
    exact ⟨p, rest, h.symm⟩
  · rintro ⟨p, rest, rfl⟩
    exact ⟨p, rest, rfl⟩

theorem placeholder?_of_not_occursAt {cs : List Char} (h : ¬OccursAt cs 0) :
    placeholder? cs = none := by
  cases hread : placeholder? cs with
  | none => rfl
  | some found =>
    obtain ⟨p, -, hcs⟩ := exists_of_placeholder? hread
    exact absurd (occursAt_zero_iff.mpr ⟨p, _, hcs⟩) h

/-! ## Pieces -/

theorem Placeholder.length_lt (p : Placeholder) (rest : List Char) :
    rest.length < (p.written ++ rest).length := by
  simp only [written_append, List.length_cons, List.length_append]
  omega

/-- As many pieces as there are characters are enough. -/
theorem piecesWithin_congr {n m : Nat} {cs : List Char} (hn : cs.length ≤ n) (hm : cs.length ≤ m) :
    piecesWithin n cs = piecesWithin m cs := by
  induction n generalizing m cs with
  | zero =>
    obtain rfl := List.eq_nil_of_length_eq_zero (Nat.le_zero.mp hn)
    cases m <;> rfl
  | succ n ih =>
    cases cs with
    | nil => cases m <;> rfl
    | cons c cs =>
      rw [List.length_cons] at hn hm
      obtain ⟨m, rfl⟩ : ∃ k, m = k + 1 := ⟨m - 1, by omega⟩
      unfold piecesWithin
      cases hread : placeholder? (c :: cs) with
      | none =>
        dsimp only
        rw [ih (Nat.le_of_succ_le_succ hn) (Nat.le_of_succ_le_succ hm)]
      | some found =>
        obtain ⟨name, rest⟩ := found
        obtain ⟨p, -, hcs⟩ := exists_of_placeholder? hread
        have hshort := p.length_lt rest
        rw [← hcs, List.length_cons] at hshort
        dsimp only
        rw [ih (Nat.le_trans (Nat.le_of_lt_succ hshort) (Nat.le_of_succ_le_succ hn))
          (Nat.le_trans (Nat.le_of_lt_succ hshort) (Nat.le_of_succ_le_succ hm))]

/-- Where no placeholder stands, a character is literal text. -/
theorem pieces_cons {c : Char} {cs : List Char} (h : ¬OccursAt (c :: cs) 0) :
    pieces (c :: cs) = .literal c :: pieces cs := by
  rw [pieces, List.length_cons, piecesWithin, placeholder?_of_not_occursAt h]
  rfl

theorem pieces_written (p : Placeholder) (rest : List Char) :
    pieces (p.written ++ rest) = .placeholder p.written p.name :: pieces rest := by
  have hread := placeholder?_written p rest
  have hlong := p.length_lt rest
  have hwritten : (p.written ++ rest).length - rest.length = p.written.length := by
    rw [List.length_append, Nat.add_sub_cancel]
  cases htext : p.written ++ rest with
  | nil =>
    rw [htext] at hlong
    exact absurd hlong (Nat.not_lt_zero _)
  | cons c cs =>
    rw [htext] at hread hlong hwritten
    rw [pieces, List.length_cons, piecesWithin, hread]
    dsimp only
    rw [hwritten, ← htext, List.take_left, pieces, piecesWithin_congr _ (Nat.le_refl _)]
    exact Nat.le_of_lt_succ hlong

/-- Literal text in front of the first placeholder falls into its characters. -/
theorem pieces_append {literal rest : List Char}
    (h : ∀ i < literal.length, ¬OccursAt (literal ++ rest) i) :
    pieces (literal ++ rest) = literal.map .literal ++ pieces rest := by
  induction literal with
  | nil => rfl
  | cons c literal ih =>
    rw [List.cons_append] at h ⊢
    rw [pieces_cons (h 0 (Nat.zero_lt_succ _)), ih, List.map_cons, List.cons_append]
    intro i hi
    exact h (i + 1) (Nat.succ_lt_succ hi)

end Composer.Template
