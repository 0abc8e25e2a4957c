import Composer.Proofs.Draft.SlashTokens
import Composer.Proofs.Text.Slicing
set_option autoImplicit false

/-!
# Slices around the token

The token before the cursor can also be found by slices: the text is cut where the cursor is, then
in front of and behind the last slash, and a replacement is put between two slices of the text.
Every one of these slices can be had, and together they give what counting characters gives.
-/

namespace Composer.Sliced

/-! ## By slices -/

/-- The text before the cursor. -/
def beforeCursor (text : String) (cursor : Nat) : Option String :=
  upTo? text (byteIndex text cursor)

/-- Where the last slash before the cursor is, in bytes of the text before the cursor. -/
def slashPosition? (before : String) : Option Nat := (findLast? (· == '/') before).map Prod.fst

/-- Where the token starts, in characters, if there is one. -/
def tokenStart (text : String) (cursor : Nat) : Option (Option Nat) := do
  let before ← beforeCursor text cursor
  match slashPosition? before with
  | none => some none
  | some position => (upTo? before position).map fun front => some front.length

/-- The query behind the token's slash, if there is one. A slash takes one byte. -/
def tokenQuery (text : String) (cursor : Nat) : Option (Option String) := do
  let before ← beforeCursor text cursor
  match slashPosition? before with
  | none => some none
  | some position => (from? before (position + 1)).map some

/-- The text with the token replaced, and the cursor behind the replacement. -/
def replaceToken (text : String) (cursor : Nat) (replacement : String) : Option (String × Nat) := do
  let cursor := min cursor text.length
  let start := (← tokenStart text cursor).getD cursor
  let front ← upTo? text (byteIndex text start)
  let back ← from? text (byteIndex text cursor)
  some (front ++ replacement ++ back, start + replacement.length)

/-! ## By counting characters -/

variable {text : String} {cursor : Nat}

theorem beforeCursor_eq (text : String) (cursor : Nat) :
    beforeCursor text cursor = some (String.ofList (SlashToken.before text.toList cursor)) :=
  upTo?_byteIndex text cursor

/-- The last slash of a text, with the characters on both sides. -/
theorem slashPosition?_eq (cs : List Char) :
    slashPosition? (String.ofList cs) =
      (Chars.splitLast '/' cs).map fun p => Utf8.size p.1 := by
  cases hsplit : Chars.splitLast '/' cs with
  | none =>
    have habsent := Chars.splitLast_eq_none_iff.mp hsplit
    rw [slashPosition?, findLast?_eq_none]
    · rfl
    · intro c hc
      rw [String.toList_ofList] at hc
      exact beq_false_of_ne (ne_of_mem_of_not_mem hc habsent)
  | some p =>
    obtain ⟨hcs, habsent⟩ := Chars.splitLast_eq_some_iff.mp hsplit
    have htext : (String.ofList cs).toList = p.1 ++ '/' :: p.2 := by rw [String.toList_ofList, hcs]
    have hfound : findLast? (· == '/') (String.ofList cs) = some (Utf8.size p.1, '/') := by
      refine findLast?_of_toList htext (beq_self_eq_true '/') fun c hc => ?_
      exact beq_false_of_ne (ne_of_mem_of_not_mem hc habsent)
    rw [slashPosition?, hfound, Option.map_some, Option.map_some]

/-- Behind a slash a text may be cut. -/
theorem toList_behind_slash {before : String} {front query : List Char}
    (h : before.toList = front ++ '/' :: query) :
    before.toList = (front ++ ['/']) ++ query ∧
      Utf8.size (front ++ ['/']) = Utf8.size front + 1 :=
  ⟨by rw [h, List.append_assoc, List.singleton_append], Utf8.size_append front ['/']⟩

theorem tokenStart_eq (text : String) (cursor : Nat) :
    tokenStart text cursor = some (SlashToken.start? text.toList cursor) := by
  simp only [tokenStart, beforeCursor_eq, Option.bind_eq_bind, Option.bind_some, slashPosition?_eq,
    SlashToken.start?]
  cases hsplit : Chars.splitLast '/' (SlashToken.before text.toList cursor) with
  | none => rfl
  | some p =>
    obtain ⟨hbefore, -⟩ := Chars.splitLast_eq_some_iff.mp hsplit
    have hslice := upTo?_of_toList (String.toList_ofList.trans hbefore)
    simp only [Option.map_some, hslice, String.length_ofList]

/-- A text may be cut at its last slash, and behind it. -/
theorem isBoundary_slashPosition {before : String} {position : Nat}
    (h : slashPosition? before = some position) :
    IsBoundary before position ∧ IsBoundary before (position + 1) := by
  rw [← String.ofList_toList (s := before), slashPosition?_eq] at h
  obtain ⟨p, hsplit, rfl⟩ := Option.map_eq_some_iff.mp h
  obtain ⟨hbefore, -⟩ := Chars.splitLast_eq_some_iff.mp hsplit
  obtain ⟨hbehind, hsize⟩ := toList_behind_slash hbefore
  rw [← hsize]
  exact ⟨isBoundary_of_toList hbefore, isBoundary_of_toList hbehind⟩

theorem tokenQuery_eq (text : String) (cursor : Nat) :
    tokenQuery text cursor =
      some ((SlashToken.query? text.toList cursor).map String.ofList) := by
  simp only [tokenQuery, beforeCursor_eq, Option.bind_eq_bind, Option.bind_some, slashPosition?_eq,
    SlashToken.query?]
  cases hsplit : Chars.splitLast '/' (SlashToken.before text.toList cursor) with
  | none => rfl
  | some p =>
    obtain ⟨hbefore, -⟩ := Chars.splitLast_eq_some_iff.mp hsplit
    obtain ⟨hbehind, hsize⟩ := toList_behind_slash (String.toList_ofList.trans hbefore)
    have hslice := from?_of_toList hbehind
    rw [hsize] at hslice
    simp only [Option.map_some, hslice]

theorem replaceToken_eq (text : String) (cursor : Nat) (replacement : String) :
    replaceToken text cursor replacement =
      some (String.ofList (SlashToken.replace text.toList cursor replacement.toList).1,
        (SlashToken.replace text.toList cursor replacement.toList).2) := by
  simp only [replaceToken, tokenStart_eq, upTo?_byteIndex, from?_byteIndex, Option.bind_eq_bind,
    Option.bind_some, SlashToken.replace, String.length_toList, String.ofList_append,
    String.ofList_toList]

/-- The text is cut where the token starts, and behind that where the cursor is. -/
theorem tokenStart_le (text : String) (cursor : Nat) :
    (SlashToken.start? text.toList cursor).getD (min cursor text.length) ≤
      min cursor text.length := by
  rcases SlashToken.token_cases text.toList cursor with
    ⟨start, -, hstart, -, hinside, -⟩ | ⟨-, hstart, -⟩
  · rw [hstart, Option.getD_some, ← String.length_toList]
    exact Nat.le_of_lt hinside
  · rw [hstart]
    exact Nat.le_refl _

end Composer.Sliced
