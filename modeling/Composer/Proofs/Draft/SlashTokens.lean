import Composer.Draft.SlashToken
import Composer.Text.Utf8
import Mathlib.Data.List.Basic
set_option autoImplicit false

/-!
# The token before the cursor

The token runs from the last slash before the cursor up to the cursor, and a replacement takes its
place. A cursor beyond the end stands at the end. All positions count characters: where characters
that are no marks are exchanged for others, of whatever size, every position stays.
-/

namespace Composer

/-- Where characters are exchanged, and none becomes this one or stops being it, a text is still cut
at the same place. -/
theorem Chars.splitLast_map {x : Char} {f : Char → Char} (hx : ∀ c, f c = x ↔ c = x)
    (cs : List Char) :
    splitLast x (cs.map f) = (splitLast x cs).map fun p => (p.1.map f, p.2.map f) := by
  by_cases hmem : x ∈ cs
  · obtain ⟨before, after, rfl, habsent⟩ := exists_last_of_mem hmem
    have habsent' : x ∉ after.map f := by simpa [hx] using habsent
    have hmark : f x = x := (hx x).mpr rfl
    rw [List.map_append, List.map_cons, hmark, splitLast_append_cons habsent' (before.map f),
      splitLast_append_cons habsent before, Option.map_some]
  · have hmem' : x ∉ cs.map f := by simpa [hx] using hmem
    rw [splitLast_of_not_mem hmem, splitLast_of_not_mem hmem', Option.map_none]

namespace SlashToken

variable {text front query : List Char} {cursor : Nat}

/-! ## The cursor -/

theorem before_min (text : List Char) (cursor : Nat) :
    before text (min cursor text.length) = before text cursor := by
  rw [before, before, ← List.take_eq_take_min]

theorem isTrigger_min (text : List Char) (cursor : Nat) :
    isTrigger text (min cursor text.length) = isTrigger text cursor := by
  simp only [isTrigger, before_min]

theorem start?_min (text : List Char) (cursor : Nat) :
    start? text (min cursor text.length) = start? text cursor := by
  simp only [start?, before_min]

theorem query?_min (text : List Char) (cursor : Nat) :
    query? text (min cursor text.length) = query? text cursor := by
  simp only [query?, before_min]

/-! ## Where the token is -/

/-- What stands before the last slash is the text up to the slash's position. -/
theorem take_of_last (hbefore : before text cursor = front ++ '/' :: query) :
    front.length < min cursor text.length ∧ text.take front.length = front := by
  have hlength : (before text cursor).length = min cursor text.length := List.length_take
  have hinside : front.length < min cursor text.length := by
    rw [← hlength, hbefore, List.length_append, List.length_cons]
    omega
  have hfront : (before text cursor).take front.length = front := by
    rw [hbefore, List.take_left]
  rw [before, List.take_take, Nat.min_eq_left (by omega)] at hfront
  exact ⟨hinside, hfront⟩

/-- A text has a last slash before the cursor, or none. -/
theorem token_cases (text : List Char) (cursor : Nat) :
    (∃ start query, start? text cursor = some start ∧ query? text cursor = some query ∧
      start < min cursor text.length ∧ before text cursor = text.take start ++ '/' :: query ∧
      '/' ∉ query) ∨
    ('/' ∉ before text cursor ∧ start? text cursor = none ∧ query? text cursor = none) := by
  by_cases hslash : '/' ∈ before text cursor
  · obtain ⟨front, query, hbefore, hquery⟩ := Chars.exists_last_of_mem hslash
    obtain ⟨hinside, hfront⟩ := take_of_last hbefore
    have hstart : start? text cursor = some front.length := by
      rw [start?, hbefore, Chars.splitLast_append_cons hquery front, Option.map_some]
    refine .inl ⟨front.length, query, hstart, ?_, hinside, ?_, hquery⟩
    · exact query?_eq_some_iff.mpr ⟨front, hbefore, hquery⟩
    · rw [hfront, hbefore]
  · refine .inr ⟨hslash, ?_, query?_eq_none_iff.mpr hslash⟩
    rw [start?, Chars.splitLast_of_not_mem hslash, Option.map_none]

/-! ## What takes its place -/

theorem replace_of_start {start : Nat} (h : start? text cursor = some start)
    (replacement : List Char) :
    replace text cursor replacement =
      (text.take start ++ replacement ++ text.drop (min cursor text.length),
        start + replacement.length) := by
  simp only [replace, start?_min, h, Option.getD_some]

theorem replace_of_no_start (h : start? text cursor = none) (replacement : List Char) :
    replace text cursor replacement =
      (before text cursor ++ replacement ++ text.drop (min cursor text.length),
        min cursor text.length + replacement.length) := by
  rw [← before_min]
  simp only [replace, start?_min, h, Option.getD_none, before]

/-- The new cursor is within the new text. -/
theorem replace_cursor_le (text : List Char) (cursor : Nat) (replacement : List Char) :
    (replace text cursor replacement).2 ≤ (replace text cursor replacement).1.length := by
  rcases token_cases text cursor with ⟨start, -, hstart, -, hinside, -⟩ | ⟨-, hstart, -⟩
  · rw [replace_of_start hstart]
    simp only [List.length_append, List.length_take]
    omega
  · rw [replace_of_no_start hstart]
    simp only [before, List.length_append, List.length_take]
    omega

/-! ## Other characters -/

/-- Whether an exchange of characters keeps the marks that tokens go by: the slash, the space and
the newline. -/
structure KeepsMarks (f : Char → Char) : Prop where
  slash : ∀ c, f c = '/' ↔ c = '/'
  space : ∀ c, f c = ' ' ↔ c = ' '
  newline : ∀ c, f c = '\n' ↔ c = '\n'

section Exchange

variable {f : Char → Char}

theorem before_map (f : Char → Char) (text : List Char) (cursor : Nat) :
    before (text.map f) cursor = (before text cursor).map f := by
  rw [before, before, List.map_take]

theorem isTrigger_map (hf : KeepsMarks f) (text : List Char) (cursor : Nat) :
    isTrigger (text.map f) cursor = isTrigger text cursor := by
  rw [Bool.eq_iff_iff, isTrigger_iff, isTrigger_iff, before_map]
  constructor
  · rintro ⟨front, hbefore, hlast⟩
    obtain ⟨front', back, hsplit, rfl, hback⟩ := List.map_eq_append_iff.mp hbefore
    obtain ⟨c, rfl, hc⟩ := List.map_eq_singleton_iff.mp hback
    obtain rfl := (hf.slash c).mp hc
    refine ⟨front', hsplit, fun c hc => ?_⟩
    have hmapped : f c ∈ (front'.map f).getLast? := by
      rw [List.getLast?_map, hc]
      rfl
    exact (hlast (f c) hmapped).imp (hf.space c).mp (hf.newline c).mp
  · rintro ⟨front, hbefore, hlast⟩
    refine ⟨front.map f, ?_, fun c hc => ?_⟩
    · rw [hbefore, List.map_append, List.map_singleton, (hf.slash '/').mpr rfl]
    · rw [List.getLast?_map] at hc
      obtain ⟨d, hd, rfl⟩ := Option.map_eq_some_iff.mp hc
      exact (hlast d hd).imp (hf.space d).mpr (hf.newline d).mpr

theorem start?_map (hf : KeepsMarks f) (text : List Char) (cursor : Nat) :
    start? (text.map f) cursor = start? text cursor := by
  rw [start?, start?, before_map, Chars.splitLast_map hf.slash, Option.map_map]
  congr 1
  funext p
  exact List.length_map f

theorem query?_map (hf : KeepsMarks f) (text : List Char) (cursor : Nat) :
    query? (text.map f) cursor = (query? text cursor).map (List.map f) := by
  rw [query?, query?, before_map, Chars.splitLast_map hf.slash, Option.map_map, Option.map_map]
  rfl

theorem replace_map (hf : KeepsMarks f) (text : List Char) (cursor : Nat)
    (replacement : List Char) :
    replace (text.map f) cursor (replacement.map f) =
      ((replace text cursor replacement).1.map f, (replace text cursor replacement).2) := by
  simp only [replace, start?_map hf, List.length_map, List.map_append, List.map_take,
    List.map_drop]

end Exchange

/-! ## The token as a whole -/

/-- With the cursor at the end at most, either there is a last slash before it, and then the token
starts at its position, the query is what is behind it, and a replacement takes the place of both;
or there is none, and the replacement goes in at the cursor. The new cursor is just behind the
replacement, within the new text. A cursor beyond the end finds what a cursor at the end finds, and
an exchange of characters that keeps the marks moves nothing, whatever the sizes of the characters.
-/
theorem token_replaced_at_cursor (text : List Char) (cursor : Nat) (replacement : List Char) :
    let c := min cursor text.length
    let b := text.take c
    let replaced := replace text cursor replacement
    ((∃ s query, start? text cursor = some s ∧ query? text cursor = some query ∧
        s < c ∧ b = text.take s ++ '/' :: query ∧ '/' ∉ query ∧
        replaced = (text.take s ++ replacement ++ text.drop c, s + replacement.length)) ∨
      ('/' ∉ b ∧ start? text cursor = none ∧ query? text cursor = none ∧
        replaced = (b ++ replacement ++ text.drop c, c + replacement.length))) ∧
    replaced.2 ≤ replaced.1.length ∧
    (before text cursor = b ∧ before text c = b ∧ isTrigger text c = isTrigger text cursor ∧
      start? text c = start? text cursor ∧ query? text c = query? text cursor) ∧
    ∀ f, KeepsMarks f →
      isTrigger (text.map f) cursor = isTrigger text cursor ∧
      start? (text.map f) cursor = start? text cursor ∧
      query? (text.map f) cursor = (query? text cursor).map (List.map f) ∧
      replace (text.map f) cursor (replacement.map f) = (replaced.1.map f, replaced.2) := by
  intro c b replaced
  have hb : before text cursor = b := (before_min text cursor).symm
  refine ⟨?_, replace_cursor_le text cursor replacement, ?_, ?_⟩
  · rcases token_cases text cursor with
      ⟨start, query, hstart, hquery, hinside, hbefore, habsent⟩ | ⟨hslash, hstart, hquery⟩
    · refine .inl ⟨start, query, hstart, hquery, hinside, ?_, habsent, ?_⟩
      · rw [← hb, hbefore]
      · exact replace_of_start hstart replacement
    · refine .inr ⟨hb ▸ hslash, hstart, hquery, ?_⟩
      rw [← hb]
      exact replace_of_no_start hstart replacement
  · have hc : before text c = b := by rw [before_min, hb]
    exact ⟨hb, hc, isTrigger_min text cursor, start?_min text cursor, query?_min text cursor⟩
  · intro f hf
    exact ⟨isTrigger_map hf text cursor, start?_map hf text cursor, query?_map hf text cursor,
      replace_map hf text cursor replacement⟩

/-- Characters of three bytes and of one stand at the same places. -/
theorem token_of_wide_characters :
    let narrow (c : Char) : Char := if c = '日' then 'a' else c
    let text := "日本 /pr".toList
    KeepsMarks narrow ∧ Utf8.size text = 10 ∧ Utf8.size (text.map narrow) = 8 ∧
      start? text 6 = some 3 ∧ start? (text.map narrow) 6 = some 3 ∧
      replace (text.map narrow) 6 ("プロ".toList.map narrow) = ("a本 プロ".toList, 5) := by
  intro narrow text
  have hkeeps : KeepsMarks narrow := by
    constructor
    all_goals
      intro c
      by_cases hc : c = '日'
      · subst hc
        decide
      · simp [narrow, hc]
  obtain ⟨-, -, -, hexchange⟩ := token_replaced_at_cursor text 6 "プロ".toList
  obtain ⟨-, hstart, -, hreplace⟩ := hexchange narrow hkeeps
  have hplace : start? text 6 = some 3 := by decide
  refine ⟨hkeeps, by decide, by decide, hplace, hstart.trans hplace, ?_⟩
  rw [hreplace]
  decide

end SlashToken
end Composer
