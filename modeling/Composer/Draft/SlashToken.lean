import Composer.Text.Search
set_option autoImplicit false

/-!
# Slash tokens

Typing a slash at the start of a word asks for a saved prompt. The token runs from the last slash
before the cursor up to the cursor; what stands behind the slash is the query that narrows the list
of prompts. Positions count characters, and a cursor beyond the end stands at the end.
-/

namespace Composer.SlashToken

/-- The characters before the cursor. -/
def before (text : List Char) (cursor : Nat) : List Char := text.take cursor

@[simp] theorem before_length (text : List Char) : before text text.length = text := by
  simp [before]

/-- Whether the character just before the cursor is a slash that starts a word: at the start of the
text, after a space or after a newline. -/
def isTrigger (text : List Char) (cursor : Nat) : Bool :=
  match (before text cursor).reverse with
  | '/' :: [] => true
  | '/' :: c :: _ => c == ' ' || c == '\n'
  | _ => false

/-- A slash triggers at the start of the text, behind a space and behind a newline. -/
theorem isTrigger_iff {text : List Char} {cursor : Nat} :
    isTrigger text cursor = true ↔
      ∃ front, before text cursor = front ++ ['/'] ∧ ∀ c ∈ front.getLast?, c = ' ' ∨ c = '\n' := by
  constructor
  · intro h
    unfold isTrigger at h
    split at h
    · rename_i hrev
      exact ⟨[], List.reverse_eq_iff.mp hrev, by simp⟩
    · rename_i c cs hrev
      refine ⟨(c :: cs).reverse, ?_, ?_⟩
      · simpa using List.reverse_eq_iff.mp hrev
      · simpa using h
    · exact absurd h (by simp)
  · rintro ⟨front, hbefore, hlast⟩
    unfold isTrigger
    rw [hbefore, List.reverse_append]
    cases hrev : front.reverse with
    | nil => rfl
    | cons c cs =>
      have hc : front.getLast? = some c := by
        rw [← List.head?_reverse, hrev, List.head?_cons]
      simpa using hlast c hc

/-- With the cursor at the end, what matters of a slash is what it stands behind. -/
theorem isTrigger_append_slash (front : List Char) :
    isTrigger (front ++ ['/']) (front ++ ['/']).length = true ↔
      ∀ c ∈ front.getLast?, c = ' ' ∨ c = '\n' := by
  rw [isTrigger_iff, before_length]
  constructor
  · rintro ⟨front', hfront, hlast⟩
    rwa [List.append_cancel_right hfront]
  · exact fun hlast => ⟨front, rfl, hlast⟩

/-- A text that ends in something without a slash triggers nothing. -/
theorem isTrigger_append_of_not_mem (front : List Char) {back : List Char} (hback : back ≠ [])
    (hslash : '/' ∉ back) : isTrigger (front ++ back) (front ++ back).length = false := by
  rw [← Bool.not_eq_true, isTrigger_iff, before_length]
  rintro ⟨front', hfront, -⟩
  have hlast := congrArg List.getLast? hfront
  rw [List.getLast?_append, List.getLast?_concat, List.getLast?_eq_some_getLast hback,
    Option.some_or] at hlast
  exact hslash (Option.some.inj hlast ▸ List.getLast_mem hback)

theorem slash_mem_of_isTrigger {text : List Char} {cursor : Nat}
    (h : isTrigger text cursor = true) : '/' ∈ before text cursor := by
  obtain ⟨front, hbefore, -⟩ := isTrigger_iff.mp h
  simp [hbefore]

/-- The position of the last slash before the cursor. -/
def start? (text : List Char) (cursor : Nat) : Option Nat :=
  (Chars.splitLast '/' (before text cursor)).map fun p => p.1.length

/-- The characters between the last slash before the cursor and the cursor. -/
def query? (text : List Char) (cursor : Nat) : Option (List Char) :=
  (Chars.splitLast '/' (before text cursor)).map Prod.snd

theorem query?_eq_some_iff {text query : List Char} {cursor : Nat} :
    query? text cursor = some query ↔
      ∃ front, before text cursor = front ++ '/' :: query ∧ '/' ∉ query := by
  simp only [query?, Option.map_eq_some_iff]
  constructor
  · rintro ⟨⟨front, back⟩, hsplit, rfl⟩
    exact ⟨front, Chars.splitLast_eq_some_iff.mp hsplit⟩
  · rintro ⟨front, hfront⟩
    exact ⟨(front, query), Chars.splitLast_eq_some_iff.mpr hfront, rfl⟩

theorem query?_eq_none_iff {text : List Char} {cursor : Nat} :
    query? text cursor = none ↔ '/' ∉ before text cursor := by
  rw [query?, Option.map_eq_none_iff, Chars.splitLast_eq_none_iff]

/-- The text with the slash token replaced, and the cursor just behind the replacement. Without a
token the replacement goes in at the cursor. -/
def replace (text : List Char) (cursor : Nat) (replacement : List Char) : List Char × Nat :=
  let cursor := min cursor text.length
  let start := (start? text cursor).getD cursor
  (text.take start ++ replacement ++ text.drop cursor, start + replacement.length)

/-- With the cursor at the end, what is replaced is the last slash and all behind it. -/
theorem replace_length {front query replacement : List Char} (h : '/' ∉ query) :
    replace (front ++ '/' :: query) (front ++ '/' :: query).length replacement =
      (front ++ replacement, front.length + replacement.length) := by
  have hstart : start? (front ++ '/' :: query) (front ++ '/' :: query).length
      = some front.length := by
    rw [start?, before_length, Chars.splitLast_append_cons h]
    rfl
  simp only [replace, Nat.min_self, hstart]
  simp

end Composer.SlashToken
