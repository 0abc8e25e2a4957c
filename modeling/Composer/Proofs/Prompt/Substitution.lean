import Composer.Proofs.Prompt.Placeholders
import Mathlib.Data.List.Induction
import Mathlib.Data.List.Nodup
set_option autoImplicit false

/-!
# What a template asks for and what it becomes

Scanned from the left, a template falls into placeholders and the literal text around them in one
way only. What it asks for, what is missing and what it becomes are read off this cut, so the
three agree on every text: braces that belong to no placeholder are literal text, and a value that
looks like a placeholder is not looked at again.
-/

namespace Composer.Template

/-! ## The cut -/

/-- A text that is cut at placeholders. -/
structure Cut where
  /-- The placeholders, each with the literal text in front of it. -/
  parts : List (List Char × Placeholder)
  /-- The literal text behind the last placeholder. -/
  last : List Char

namespace Cut

/-- The text with something in place of each placeholder. -/
def fill (cut : Cut) (stand : Placeholder → List Char) : List Char :=
  cut.parts.flatMap (fun part => part.1 ++ stand part.2) ++ cut.last

/-- The names of the placeholders, in the order in which they stand. -/
def names (cut : Cut) : List String := cut.parts.map fun part => String.ofList part.2.name

theorem fill_congr {cut : Cut} {stand stand' : Placeholder → List Char}
    (h : ∀ p : Placeholder, String.ofList p.name ∈ cut.names → stand p = stand' p) :
    cut.fill stand = cut.fill stand' := by
  rw [fill, fill]
  congr 1
  refine List.flatMap_congr ?_
  intro part hpart
  rw [h part.2 (List.mem_map_of_mem hpart)]

end Cut

/-- Each placeholder of the cut is the first one in what is left of the text behind the one before
it, and behind the last there is none. -/
inductive IsCut : List Char → Cut → Prop where
  | last {text : List Char} (hnone : ∀ i, ¬OccursAt text i) : IsCut text ⟨[], text⟩
  | next {literal rest : List Char} {cut : Cut} (p : Placeholder)
      (hfirst : ∀ i < literal.length, ¬OccursAt (literal ++ (p.written ++ rest)) i)
      (hrest : IsCut rest cut) :
      IsCut (literal ++ (p.written ++ rest)) ⟨(literal, p) :: cut.parts, cut.last⟩

theorem occursAt_length (literal : List Char) (p : Placeholder) (rest : List Char) :
    OccursAt (literal ++ (p.written ++ rest)) literal.length := by
  refine ⟨p, ?_⟩
  rw [List.drop_left]
  exact List.prefix_append _ _

/-- The literal text in front of the first placeholder is the same in every cut. -/
theorem length_le_of_first {literal literal' rest rest' : List Char} {p : Placeholder}
    (hfirst : ∀ i < literal'.length, ¬OccursAt (literal' ++ rest') i)
    (heq : literal ++ (p.written ++ rest) = literal' ++ rest') :
    literal'.length ≤ literal.length := by
  rw [← heq] at hfirst
  exact Nat.le_of_not_lt fun hlt => hfirst _ hlt (occursAt_length literal p rest)

namespace IsCut

theorem fill_written {text : List Char} {cut : Cut} (h : IsCut text cut) :
    cut.fill Placeholder.written = text := by
  induction h with
  | last hnone => rfl
  | next p hfirst hrest ih =>
    rw [Cut.fill] at ih ⊢
    rw [List.flatMap_cons, List.append_assoc, ih, List.append_assoc]

theorem unique {text : List Char} {cut cut' : Cut} (h : IsCut text cut) (h' : IsCut text cut') :
    cut = cut' := by
  induction h generalizing cut' with
  | last hnone =>
    cases h' with
    | last => rfl
    | next p _ _ => exact absurd (occursAt_length _ p _) (hnone _)
  | @next literal rest cut p hfirst hrest ih =>
    generalize htext : literal ++ (p.written ++ rest) = text at h'
    cases h' with
    | last hnone =>
      rw [← htext] at hnone
      exact absurd (occursAt_length literal p rest) (hnone _)
    | @next literal' rest' cut' p' hfirst' hrest' =>
      have hlength : literal.length = literal'.length := by
        apply Nat.le_antisymm
        · exact length_le_of_first hfirst htext.symm
        · exact length_le_of_first hfirst' htext
      obtain ⟨rfl, hbehind⟩ := List.append_inj htext hlength
      obtain ⟨rfl, rfl⟩ := Placeholder.written_append_inj hbehind
      rw [ih hrest']

end IsCut

/-- A character in front of a cut text, where no placeholder stands, is literal text. -/
theorem IsCut.cons {c : Char} {text : List Char} {cut : Cut} (h : IsCut text cut)
    (hc : ¬OccursAt (c :: text) 0) : ∃ cut', IsCut (c :: text) cut' := by
  cases h with
  | last hnone =>
    refine ⟨_, .last ?_⟩
    intro i
    cases i with
    | zero => exact hc
    | succ i => exact hnone i
  | @next literal rest cut p hfirst hrest =>
    refine ⟨_, @IsCut.next (c :: literal) rest cut p ?_ hrest⟩
    intro i hi
    cases i with
    | zero => exact hc
    | succ i => exact hfirst i (Nat.lt_of_succ_lt_succ hi)

/-- Every text can be cut. -/
theorem exists_isCut (text : List Char) : ∃ cut, IsCut text cut := by
  induction hlength : text.length using Nat.strongRecOn generalizing text with
  | ind n ih =>
    by_cases hoccurs : OccursAt text 0
    · obtain ⟨p, rest, rfl⟩ := occursAt_zero_iff.mp hoccurs
      obtain ⟨cut, hcut⟩ := ih rest.length (hlength ▸ p.length_lt rest) rest rfl
      exact ⟨_, @IsCut.next [] rest cut p (fun i hi => absurd hi (Nat.not_lt_zero i)) hcut⟩
    · cases text with
      | nil =>
        refine ⟨_, .last ?_⟩
        intro i
        rwa [OccursAt, List.drop_nil] at *
      | cons c text =>
        obtain ⟨cut, hcut⟩ := ih text.length (by rw [← hlength]; exact Nat.lt_succ_self _) text rfl
        exact hcut.cons hoccurs

/-! ## What is read off the cut -/

/-- The pieces of a part: the characters of its literal text, and its placeholder. -/
def partPieces (part : List Char × Placeholder) : List Piece :=
  part.1.map .literal ++ [.placeholder part.2.written part.2.name]

namespace IsCut

variable {text : List Char} {cut : Cut}

theorem pieces_eq (h : IsCut text cut) :
    pieces text = cut.parts.flatMap partPieces ++ cut.last.map .literal := by
  induction h with
  | last hnone =>
    rename_i text
    have hliteral := @pieces_append text []
    rw [List.append_nil] at hliteral
    rw [hliteral fun i _ => hnone i]
    exact List.append_nil _
  | next p hfirst hrest ih =>
    rw [pieces_append hfirst, pieces_written, ih, List.flatMap_cons, partPieces]
    simp only [List.append_assoc, List.cons_append, List.nil_append]

theorem names_pieces (h : IsCut text cut) :
    (pieces text).filterMap (fun p => p.name?.map String.ofList) = cut.names := by
  have hliteral : ∀ cs : List Char,
      (cs.map Piece.literal).filterMap (fun p => p.name?.map String.ofList) = [] := by
    intro cs
    rw [List.filterMap_map, List.filterMap_eq_nil_iff]
    exact fun _ _ => rfl
  rw [h.pieces_eq, List.filterMap_append, hliteral, List.append_nil, Cut.names]
  induction cut.parts with
  | nil => rfl
  | cons part parts ih =>
    rw [List.flatMap_cons, List.filterMap_append, ih, partPieces, List.filterMap_append, hliteral]
    rfl

theorem fill_pieces (h : IsCut text cut) (values : VariableValues) :
    (pieces text).flatMap (Piece.filled values) =
      cut.fill fun p => (Piece.placeholder p.written p.name).filled values := by
  have hliteral : ∀ cs : List Char, (cs.map Piece.literal).flatMap (Piece.filled values) = cs := by
    intro cs
    induction cs with
    | nil => rfl
    | cons c cs ih => rw [List.map_cons, List.flatMap_cons, ih]; rfl
  rw [h.pieces_eq, List.flatMap_append, hliteral, Cut.fill]
  congr 1
  induction cut.parts with
  | nil => rfl
  | cons part parts ih =>
    rw [List.flatMap_cons, List.flatMap_append, ih, partPieces, List.flatMap_append, hliteral,
      List.flatMap_cons, List.flatMap_cons, List.flatMap_nil, List.append_nil]

end IsCut

/-! ## Names that are listed once -/

/-- What appears in a list, each item once, in the order of the first appearances. -/
structure FirstAppearances {α : Type} (all listed : List α) : Prop where
  nodup : listed.Nodup
  mem_iff : ∀ x, x ∈ listed ↔ x ∈ all
  /-- An item that appears for the first time is listed behind just those that appeared before. -/
  order : ∀ earlier x later, all = earlier ++ x :: later → x ∉ earlier →
    ∃ before after, listed = before ++ x :: after ∧ ∀ y, y ∈ before ↔ y ∈ earlier

theorem eraseDups_append_of_mem {earlier : List String} {name : String} (h : name ∈ earlier) :
    (earlier ++ [name]).eraseDups = earlier.eraseDups := by
  rw [List.eraseDups_append, List.cons_removeAll, if_neg (by simp [h]), List.nil_removeAll,
    List.eraseDups_nil, List.append_nil]

theorem eraseDups_append_of_not_mem {earlier : List String} {name : String} (h : name ∉ earlier)
    (later : List String) : ∃ rest,
      (earlier ++ name :: later).eraseDups = earlier.eraseDups ++ name :: rest := by
  rw [List.eraseDups_append, List.cons_removeAll, if_pos (by simp [h]), List.eraseDups_cons]
  exact ⟨_, rfl⟩

theorem nodup_eraseDups (names : List String) : names.eraseDups.Nodup := by
  induction names using List.reverseRecOn with
  | nil => exact List.nodup_nil
  | append_singleton names name ih =>
    by_cases hseen : name ∈ names
    · rw [eraseDups_append_of_mem hseen]
      exact ih
    · rw [List.eraseDups_append, List.cons_removeAll, if_pos (by simp [hseen]), List.nil_removeAll,
        List.eraseDups_cons, List.filter_nil, List.eraseDups_nil]
      refine ih.append (List.nodup_singleton name) ?_
      rw [List.disjoint_singleton]
      exact fun hmem => hseen (List.mem_eraseDups.mp hmem)

theorem firstAppearances_eraseDups (names : List String) :
    FirstAppearances names names.eraseDups := by
  refine ⟨nodup_eraseDups names, fun x => List.mem_eraseDups, ?_⟩
  rintro earlier name later rfl hnew
  obtain ⟨rest, hrest⟩ := eraseDups_append_of_not_mem hnew later
  exact ⟨_, rest, hrest, fun y => List.mem_eraseDups⟩

/-! ## The main statement -/

variable {template : String} {cut : Cut}

theorem variableNames_of_isCut (h : IsCut template.toList cut) :
    variableNames template = cut.names.eraseDups := by
  rw [variableNames, h.names_pieces]

theorem isFilled_eq_false_iff {values : VariableValues} {name : String} :
    isFilled values name = false ↔ ∀ v, values.lookup name = some v → Text.isBlank v = true := by
  unfold isFilled
  split
  · rename_i v hvalue
    rw [hvalue]
    simp
  · rename_i hvalue
    rw [hvalue]
    simp

theorem substitute_of_isCut (h : IsCut template.toList cut) (values : VariableValues) :
    (substitute template values).toList =
      cut.fill fun p => (Piece.placeholder p.written p.name).filled values := by
  rw [substitute, String.toList_ofList, h.fill_pieces]

/-- A template that asks for nothing is literal text. -/
theorem substitute_of_no_names (h : variableNames template = []) (values : VariableValues) :
    substitute template values = template := by
  obtain ⟨cut, hcut⟩ := exists_isCut template.toList
  have hnames : cut.names = [] := by
    rw [variableNames_of_isCut hcut] at h
    cases hcons : cut.names with
    | nil => rfl
    | cons name names =>
      rw [hcons, List.eraseDups_cons] at h
      exact absurd h (List.cons_ne_nil _ _)
  have hparts : cut.parts = [] := List.map_eq_nil_iff.mp hnames
  have hwhole := hcut.fill_written
  apply String.toList_injective
  rw [substitute_of_isCut hcut, ← hwhole, Cut.fill, Cut.fill, hparts]
  rfl

/-- Every template falls into placeholders and literal text in exactly one way, from which the rest
is read off. What it asks for are the names of the placeholders, each once and in the order in which
they first appear; what is missing are those without a value that is not blank; and the values stand
in place of the placeholders, where a name without a value leaves its placeholder as it is written
and all literal text is kept. Values of other names do not matter. -/
theorem read_off_one_cut (template : String) :
    ∃ cut : Cut, IsCut template.toList cut ∧ (∀ other, IsCut template.toList other → other = cut) ∧
      cut.fill Placeholder.written = template.toList ∧
      FirstAppearances cut.names (variableNames template) ∧
      ∀ values : VariableValues,
        (missing template values).Sublist (variableNames template) ∧
        (∀ name, name ∈ missing template values ↔
          name ∈ cut.names ∧ ∀ v, values.lookup name = some v → Text.isBlank v = true) ∧
        (substitute template values).toList =
          (cut.fill fun p =>
            match values.lookup (String.ofList p.name) with
            | some v => v.toList
            | none => p.written) ∧
        ∀ other : VariableValues,
          (∀ name ∈ variableNames template, other.lookup name = values.lookup name) →
            missing template other = missing template values ∧
            substitute template other = substitute template values := by
  obtain ⟨cut, hcut⟩ := exists_isCut template.toList
  have hnames := variableNames_of_isCut hcut
  have hmem : ∀ name, name ∈ variableNames template ↔ name ∈ cut.names := by
    intro name
    rw [hnames, List.mem_eraseDups]
  refine ⟨cut, hcut, fun other hother => hother.unique hcut, hcut.fill_written, ?_, ?_⟩
  · rw [hnames]
    exact firstAppearances_eraseDups cut.names
  · intro values
    refine ⟨List.filter_sublist, ?_, substitute_of_isCut hcut values, ?_⟩
    · intro name
      rw [missing, List.mem_filter, hmem, Bool.not_eq_true', isFilled_eq_false_iff]
    · intro other hsame
      constructor
      · refine List.filter_congr ?_
        intro name hname
        rw [isFilled, isFilled, hsame name hname]
      · apply String.toList_injective
        rw [substitute_of_isCut hcut, substitute_of_isCut hcut]
        refine Cut.fill_congr ?_
        intro p hp
        rw [Piece.filled, Piece.filled, hsame _ ((hmem _).mpr hp)]

/-- The first of three braces is literal text, and the value that is put in is left alone. -/
example :
    substitute "\x7b\x7b\x7ba\x7d\x7d \x7b\x7b b \x7d\x7d" [("a", "\x7b\x7bb\x7d\x7d")] =
      "\x7b\x7b\x7bb\x7d\x7d \x7b\x7b b \x7d\x7d" := by decide

end Composer.Template
