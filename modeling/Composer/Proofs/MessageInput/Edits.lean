import Composer.Proofs.MessageInput.Exclusive
import Mathlib.Data.List.Induction
set_option autoImplicit false

/-!
# Edits and the list of prompts

While a text is edited, the list of prompts opens at a slash that starts a word and closes once no
slash is left before the cursor. So after any number of edits it is open exactly if one of them
ended in such a slash and there has been a slash before the cursor ever since. An open form or
dialog stays as it is.
-/

namespace Composer

/-- An edit as the host reports it: the new text and cursor, with what the input sees of its session
at that moment. -/
structure Edit where
  text : String
  cursor : Nat
  session : Session

namespace Edit

/-- The edit as an operation of the input. -/
def operation (e : Edit) : Operation × Session := (.changeText e.text e.cursor, e.session)

/-- The characters before the cursor; a cursor beyond the end stands at the end. -/
def before (e : Edit) : List Char := e.text.toList.take (min e.cursor e.text.length)

/-- Whether there is a slash before the cursor. -/
def HasSlash (e : Edit) : Prop := '/' ∈ e.before

/-- Whether a slash is just before the cursor, at the start of the text or behind a space or a
newline. -/
def EndsInToken (e : Edit) : Prop :=
  ∃ front, e.before = front ++ ['/'] ∧ ∀ c ∈ front.getLast?, c = ' ' ∨ c = '\n'

theorem EndsInToken.hasSlash {e : Edit} (h : e.EndsInToken) : e.HasSlash := by
  obtain ⟨front, hbefore, -⟩ := h
  simp [HasSlash, hbefore]

/-- Whether one of the edits ended in a slash that starts a word, and every later one had a slash
before its cursor. -/
def SlashSince (edits : List Edit) : Prop :=
  ∃ earlier e later, edits = earlier ++ e :: later ∧ e.EndsInToken ∧ ∀ e' ∈ later, e'.HasSlash

theorem not_slashSince_nil : ¬SlashSince [] := by
  rintro ⟨earlier, e, later, h, -⟩
  simp at h

/-- One more edit starts a word with a slash itself, or a slash has to be there still. -/
theorem slashSince_concat {edits : List Edit} {last : Edit} :
    SlashSince (edits ++ [last]) ↔ last.EndsInToken ∨ (SlashSince edits ∧ last.HasSlash) := by
  constructor
  · rintro ⟨earlier, e, later, hedits, htoken, hlater⟩
    rcases cut_concat hedits with ⟨-, rfl, -⟩ | ⟨between, rfl, rfl⟩
    · exact .inl htoken
    · obtain ⟨hbetween, hslash⟩ := List.forall_mem_append.mp hlater
      exact .inr ⟨⟨earlier, e, between, rfl, htoken, hbetween⟩, hslash last (by simp)⟩
  · rintro (htoken | ⟨⟨earlier, e, later, rfl, htoken, hlater⟩, hslash⟩)
    · exact ⟨edits, last, [], rfl, htoken, by simp⟩
    · refine ⟨earlier, e, later ++ [last], by simp, htoken, ?_⟩
      exact List.forall_mem_append.mpr ⟨hlater, List.forall_mem_singleton.mpr hslash⟩

end Edit

theorem Overlay.eq_of_givesWay {o : Overlay} (h : o.givesWay = true) :
    o = .none ∨ o = .slashMenu := by
  cases o with
  | none => exact .inl rfl
  | slashMenu => exact .inr rfl
  | variableDialog dialog => exact absurd h Bool.false_ne_true
  | artifactForm text => exact absurd h Bool.false_ne_true

namespace MessageInput

variable {m : MessageInput} {o : Overlay}

/-! ## One edit -/

theorem givesWay_overlayAfterEdit (o : Overlay) (d : Draft) :
    (overlayAfterEdit o d).givesWay = o.givesWay := by
  unfold overlayAfterEdit
  cases o with
  | none => split <;> rfl
  | slashMenu =>
    dsimp only
    split
    · rfl
    · split <;> rfl
  | variableDialog dialog => split <;> rfl
  | artifactForm text => split <;> rfl

/-- The step lemma: the list is open behind an edit that ended in a slash that starts a word, and
behind any slash if it was open before. -/
theorem overlayAfterEdit_eq_slashMenu_iff (hway : o.givesWay = true) (d : Draft) (e : Edit) :
    overlayAfterEdit o (d.set e.text e.cursor) = .slashMenu ↔
      e.EndsInToken ∨ (o = .slashMenu ∧ e.HasSlash) := by
  have hbefore : SlashToken.before (d.set e.text e.cursor).text.toList
      (d.set e.text e.cursor).cursor = e.before := rfl
  have htoken : SlashToken.isTrigger (d.set e.text e.cursor).text.toList
      (d.set e.text e.cursor).cursor = true ↔ e.EndsInToken := by
    rw [SlashToken.isTrigger_iff, hbefore, Edit.EndsInToken]
  unfold overlayAfterEdit
  rw [hbefore]
  split
  next htrigger =>
    have hends : e.EndsInToken := htoken.mp htrigger
    rcases Overlay.eq_of_givesWay hway with rfl | rfl
    · simp [hends]
    · simp [hends]
  next hplain =>
    have hends : ¬e.EndsInToken := fun h => hplain (htoken.mpr h)
    rcases Overlay.eq_of_givesWay hway with rfl | rfl
    · simp [hends]
    · simp [hends, Edit.HasSlash]

/-! ## Many edits -/

theorem after_concat_edit (m : MessageInput) (edits : List Edit) (last : Edit) :
    m.after ((edits ++ [last]).map Edit.operation) =
      (m.after (edits.map Edit.operation)).changeText last.text last.cursor := by
  rw [List.map_append, after_append]
  rfl

theorem givesWay_after_edits (m : MessageInput) (edits : List Edit) :
    (m.after (edits.map Edit.operation)).overlay.givesWay = m.overlay.givesWay := by
  induction edits using List.reverseRecOn with
  | nil => rfl
  | append_singleton edits last ih =>
    rw [after_concat_edit, ← ih]
    exact givesWay_overlayAfterEdit _ _

/-- The run lemma: with nothing open at first, the list is open at the end if a word was started
with a slash and there has been a slash ever since. -/
theorem overlay_after_edits_eq_slashMenu_iff (hnone : m.overlay = .none) (edits : List Edit) :
    (m.after (edits.map Edit.operation)).overlay = .slashMenu ↔ Edit.SlashSince edits := by
  induction edits using List.reverseRecOn with
  | nil => simp [hnone, Edit.not_slashSince_nil]
  | append_singleton edits last ih =>
    have hway : (m.after (edits.map Edit.operation)).overlay.givesWay = true := by
      rw [givesWay_after_edits, hnone]
      rfl
    rw [after_concat_edit, Edit.slashSince_concat, ← ih]
    exact overlayAfterEdit_eq_slashMenu_iff hway _ last

theorem overlay_after_edits_of_not_givesWay (h : m.overlay.givesWay = false) (edits : List Edit) :
    (m.after (edits.map Edit.operation)).overlay = m.overlay := by
  induction edits using List.reverseRecOn with
  | nil => rfl
  | append_singleton edits last ih =>
    have hstill : (m.after (edits.map Edit.operation)).overlay.givesWay = false := by rw [ih, h]
    rw [after_concat_edit, ← ih]
    exact overlayAfterEdit_of_not_givesWay hstill _

/-- Only the last edit is left in the draft, and nothing else changes but what is open. -/
theorem after_edits (m : MessageInput) (edits : List Edit) (last : Edit) :
    m.after ((edits ++ [last]).map Edit.operation) =
      { m with draft := m.draft.set last.text last.cursor,
               overlay := (m.after ((edits ++ [last]).map Edit.operation)).overlay } := by
  induction edits generalizing m with
  | nil => rfl
  | cons e edits ih => exact ih (m.changeText e.text e.cursor)

/-- With nothing open, edits leave the list of prompts open exactly if one of them ended in a slash
that starts a word and none after it was without a slash before its cursor; otherwise nothing is
open. What does not give way stays open. The draft is what the last edit made it, and all else is as
it was. -/
theorem menu_open_after_edits_iff (m : MessageInput) (edits : List Edit) (last : Edit) :
    let after := m.after ((edits ++ [last]).map Edit.operation)
    (m.overlay = .none →
      (after.overlay = .slashMenu ↔ Edit.SlashSince (edits ++ [last])) ∧
      (after.overlay = .none ↔ ¬Edit.SlashSince (edits ++ [last]))) ∧
    (m.overlay.givesWay = false → after.overlay = m.overlay) ∧
    after =
      { m with
        draft :=
          { text := last.text, cursor := min last.cursor last.text.length,
            context := m.draft.context },
        overlay := after.overlay } := by
  intro after
  refine ⟨fun hnone => ?_, fun hstays => ?_, after_edits m edits last⟩
  · have hiff : after.overlay = .slashMenu ↔ Edit.SlashSince (edits ++ [last]) :=
      overlay_after_edits_eq_slashMenu_iff hnone _
    have hway : after.overlay.givesWay = true := by
      rw [givesWay_after_edits, hnone]
      rfl
    refine ⟨hiff, ?_⟩
    rw [← hiff]
    rcases Overlay.eq_of_givesWay hway with hover | hover
    · simp [hover]
    · simp [hover]
  · exact overlay_after_edits_of_not_givesWay hstays _

/-- The list opens behind a word, stays open while the cursor moves and closes without a slash. A
form stays open. -/
theorem menu_closed_without_slash :
    let opened : Edit := { text := "go /", cursor := 4, session := .idle }
    let moved : Edit := { text := "a/b /x", cursor := 2, session := .idle }
    let cleared : Edit := { text := "a/b", cursor := 1, session := .idle }
    let m := start {} .idle
    let held : MessageInput := { m with overlay := .artifactForm "t" }
    m.overlay = .none ∧ held.overlay.givesWay = false ∧
      (m.after ([opened, moved].map Edit.operation)).overlay = .slashMenu ∧
      (m.after ([opened, moved, cleared].map Edit.operation)).overlay = .none ∧
      (held.after ([opened, cleared].map Edit.operation)).overlay = .artifactForm "t" := by
  intro opened moved cleared m held
  have hopens : opened.EndsInToken := ⟨['g', 'o', ' '], by decide, by simp⟩
  have hkept : '/' ∈ moved.before := by decide
  have hlost : '/' ∉ cleared.before := by decide
  have hsince : Edit.SlashSince ([opened] ++ [moved]) :=
    ⟨[], opened, [moved], rfl, hopens, List.forall_mem_singleton.mpr hkept⟩
  have hover : ¬Edit.SlashSince ([opened, moved] ++ [cleared]) := by
    rw [Edit.slashSince_concat]
    exact not_or_intro (fun hends => hlost hends.hasSlash) fun hboth => hlost hboth.2
  obtain ⟨hwhile, -⟩ := (menu_open_after_edits_iff m [opened] moved).1 rfl
  obtain ⟨-, hclosed⟩ := (menu_open_after_edits_iff m [opened, moved] cleared).1 rfl
  obtain ⟨-, hform, -⟩ := menu_open_after_edits_iff held [opened] cleared
  exact ⟨rfl, rfl, hwhile.mpr hsince, hclosed.mpr hover, hform rfl⟩

end MessageInput
end Composer
