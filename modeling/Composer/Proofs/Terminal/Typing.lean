import Composer.Proofs.MessageInput.Frame
import Composer.Terminal.Program
import Mathlib.Data.List.Basic
set_option autoImplicit false

/-!
# What a line that is no command does

A line is typed into the draft, its last word's slash first. If the list of prompts is open then,
what stands behind the last slash is looked up; otherwise, and if nothing goes by that name, the
message is sent.
-/

namespace Composer

/-- A text set with the cursor behind its last character. -/
theorem Draft.set_toList_length (d : Draft) (text : String) :
    d.set (String.ofList text.toList) text.toList.length = d.setText text := by
  simp [set, setText, String.length_toList]

/-- An open list is filtered for what stands behind the last slash of a text with the cursor at its
end. -/
theorem MessageInput.slashQuery?_of_setText {m : MessageInput} {d : Draft} {text : String}
    (hmenu : m.overlay = .slashMenu) (hdraft : m.draft = d.setText text) {front query : List Char}
    (htext : text.toList = front ++ '/' :: query) (hquery : '/' ∉ query) :
    m.slashQuery? = some (String.ofList query) := by
  have hfound : SlashToken.query? m.draft.text.toList m.draft.cursor = some query := by
    refine SlashToken.query?_eq_some_iff.mpr ⟨front, ?_, hquery⟩
    rw [hdraft, Draft.before_setText, htext]
  simp only [slashQuery?, hmenu, hfound, Option.map_some]

namespace Terminal.Repl

variable (r : Repl)

/-- The state before the first line of a session that is not there yet, with some prompts. -/
def fresh (prompts : List PromptGroup) : Repl :=
  start { prompts } none { authority := "localhost:8080" } {} ⟨0, 0⟩

theorem perform_closeMenu :
    (r.perform .closeMenu).repl =
      { r with input := r.input.closeMenu, log := r.log ++ [{ op := .closeMenu, calls := [] }] } :=
  rfl

/-! ## Typing -/

section Typed

variable {r : Repl} {line : String}

/-- The state after a text was typed as the whole draft. -/
def typed (r : Repl) (line : String) : Repl :=
  (r.perform (.changeText (String.ofList line.toList) line.toList.length)).repl

@[simp] theorem draft_typed : (r.typed line).input.draft = r.input.draft.setText line :=
  r.input.draft.set_toList_length line

/-- Typing changes the text, and what is open over it. -/
theorem input_typed : (r.typed line).input =
    { r.input with draft := r.input.draft.setText line,
                   overlay := (r.typed line).input.overlay } := by
  rw [← draft_typed]
  rfl

/-- What the log says about a text that was typed: an edit makes no calls. -/
def edited (line : String) : LogEntry :=
  { op := .changeText (String.ofList line.toList) line.toList.length, calls := [] }

theorem log_typed : (r.typed line).log = r.log ++ [edited line] := rfl

theorem overlay_typed_eq : (r.typed line).input.overlay =
    MessageInput.overlayAfterEdit r.input.overlay (r.input.draft.setText line) := by
  rw [← draft_typed]
  rfl

/-- Behind a text that triggers the list is open. -/
theorem overlay_typed_of_isTrigger (hway : r.input.overlay.givesWay = true)
    (h : SlashToken.isTrigger line.toList line.toList.length = true) :
    (r.typed line).input.overlay = .slashMenu := by
  have htrigger : SlashToken.isTrigger (r.input.draft.setText line).text.toList
      (r.input.draft.setText line).cursor = true := by
    simpa [Draft.setText, ← String.length_toList] using h
  rw [overlay_typed_eq]
  simp only [MessageInput.overlayAfterEdit, htrigger]
  cases hopen : r.input.overlay with
  | none => rfl
  | slashMenu => rfl
  | variableDialog d => exact absurd hway (by simp [hopen, Overlay.givesWay])
  | artifactForm text => exact absurd hway (by simp [hopen, Overlay.givesWay])

/-- Behind any other text only an open list stays open, and only over a slash. -/
theorem overlay_typed (hway : r.input.overlay.givesWay = true)
    (h : SlashToken.isTrigger line.toList line.toList.length = false) :
    (r.typed line).input.overlay =
      if r.input.overlay = .slashMenu ∧ '/' ∈ line.toList then .slashMenu else .none := by
  have htrigger : SlashToken.isTrigger (r.input.draft.setText line).text.toList
      (r.input.draft.setText line).cursor = false := by
    simpa [Draft.setText, ← String.length_toList] using h
  rw [overlay_typed_eq]
  simp only [MessageInput.overlayAfterEdit, htrigger, Draft.before_setText]
  cases hopen : r.input.overlay with
  | none => simp
  | slashMenu => simp
  | variableDialog d => exact absurd hway (by simp [hopen, Overlay.givesWay])
  | artifactForm text => exact absurd hway (by simp [hopen, Overlay.givesWay])

end Typed

/-! ## Commands and messages -/

/-- A line is a message if neither what follows the text that it was filled with nor the line itself
starts with a colon, white space apart. -/
def IsMessage (initial line : List Char) : Prop :=
  (∀ rest, line = initial ++ rest → (Chars.trimStart rest).head? ≠ some ':') ∧
    (Chars.trim line).head? ≠ some ':'

theorem commandIn?_eq_none_iff {initial line : List Char} :
    commandIn? initial line = none ↔ IsMessage initial line := by
  have hbehind : ((initial.isPrefixOf? line).map Chars.trimStart).filter
        (fun cs => cs.head? == some ':') = none ↔
      ∀ rest, line = initial ++ rest → (Chars.trimStart rest).head? ≠ some ':' := by
    rw [Option.filter_eq_none_iff]
    constructor
    · intro hnone rest hrest
      have hcut := List.isPrefixOf?_eq_some_iff_append_eq.mpr hrest.symm
      simpa using hnone (Chars.trimStart rest) (by rw [hcut]; rfl)
    · intro hall cs hcs
      obtain ⟨rest, hrest, rfl⟩ := Option.map_eq_some_iff.mp hcs
      have heq := List.isPrefixOf?_eq_some_iff_append_eq.mp hrest
      simpa using hall rest heq.symm
  rw [IsMessage, ← hbehind]
  cases hcommand : ((initial.isPrefixOf? line).map Chars.trimStart).filter
      (fun cs => cs.head? == some ':') with
  | some command => simp [commandIn?, hcommand]
  | none => simp [commandIn?, hcommand, Option.filter_some]

theorem handleLine_of_isMessage {initial line : String}
    (h : IsMessage initial.toList line.toList) :
    r.handleLine initial line = r.handleMessage line.toList := by
  rw [handleLine, commandIn?_eq_none_iff.mpr h]

/-! ## Looking up a query -/

/-- Whether the open list of prompts knows what to do with a query: the empty one asks for the list,
any other has to name a reserved command or a prompt. -/
def IsKnown (prompts : List PromptGroup) (query : String) : Prop :=
  query = "" ∨ (ReservedCommand.ofName? query).isSome = true ∨
    ∃ g ∈ prompts, g.name = query ∨ g.id = query

instance (prompts : List PromptGroup) (query : String) : Decidable (IsKnown prompts query) :=
  inferInstanceAs (Decidable (_ ∨ _ ∨ _))

/-- What a query leads to while an overlay is open that gives way. -/
theorem selectPrompt_cases (hway : r.input.overlay.givesWay = true) (query : String) :
    (query = "" ∧ r.selectPrompt query = some (r.tell [.prompts r.prompts])) ∨
    (query ≠ "" ∧ ∃ command, ReservedCommand.ofName? query = some command ∧
      r.selectPrompt query = some (r.act (.runReserved command r.conversation?))) ∨
    (query ≠ "" ∧ ReservedCommand.ofName? query = none ∧
      ∃ g, r.prompts.find? (fun g => g.name == query || g.id == query) = some g ∧
        r.selectPrompt query = some (r.act (.selectPrompt g))) ∨
    (¬IsKnown r.prompts query ∧ r.selectPrompt query = none) := by
  by_cases hempty : query = ""
  · exact .inl ⟨hempty, by simp [selectPrompt, hempty]⟩
  · refine .inr ?_
    have hquery : query.isEmpty = false := by simp [hempty]
    cases hcommand : ReservedCommand.ofName? query with
    | some command =>
      exact .inl ⟨hempty, command, rfl, by simp [selectPrompt, hquery, hcommand]⟩
    | none =>
      refine .inr ?_
      cases hfind : r.prompts.find? fun g => g.name == query || g.id == query with
      | some g =>
        have hselected : (r.input.selectPrompt g).1 = true := by
          rcases r.input.selectPrompt_cases g with ⟨hno, -⟩ | ⟨-, ⟨-, heq⟩ | ⟨-, heq⟩⟩
          · rw [hway] at hno
            exact absurd hno (by decide)
          · rw [heq]
          · rw [heq]
        exact .inl ⟨hempty, rfl, g, rfl, by simp [selectPrompt, hquery, hcommand, hfind, hselected]⟩
      | none =>
        refine .inr ⟨?_, by simp [selectPrompt, hquery, hcommand, hfind]⟩
        rintro (hno | hsome | ⟨g, hg, hnamed⟩)
        · exact hempty hno
        · rw [hcommand] at hsome
          exact absurd hsome (by simp)
        · have hnone := List.find?_eq_none.mp hfind g hg
          simp only [Bool.or_eq_true, beq_iff_eq] at hnone
          exact hnone hnamed

/-! ## Sending -/

/-- The messages that were sent, whether they arrived or not. -/
def messagesIn (log : List LogEntry) : List (String × List Attachment) :=
  (log.flatMap LogEntry.calls).filterMap Call.message?

/-- Sending is one submit at most. It leaves the input as a submit does and lists no prompts. -/
theorem send_spec :
    r.send.result = .ok true ∧
    r.send.repl.input = (r.input.submit r.session).input ∧
    (∃ done, r.send.repl.log = r.log ++ done ∧ (∀ e ∈ done, e.op = .submit) ∧
      messagesIn done =
        if r.input.canSubmit r.session then [(r.input.draft.message, r.input.files.files)]
        else []) ∧
    ∀ groups, .prompts groups ∉ r.send.notices := by
  cases hnothing : r.input.draft.isBlank && r.input.files.isEmpty with
  | true =>
    have hcan : r.input.canSubmit r.session = false := by
      rw [Bool.and_eq_true] at hnothing
      simp [MessageInput.canSubmit, hnothing.1, hnothing.2]
    have hsend : r.send = r.tell [] := by simp [send, hnothing]
    have hsubmit : (r.input.submit r.session).input = r.input := by
      rcases r.input.submit_cases r.session with ⟨-, heq⟩ | ⟨hno, -⟩ | ⟨hno, -⟩
      · rw [heq]
      · rw [hcan] at hno
        exact absurd hno (by decide)
      · rw [hcan] at hno
        exact absurd hno (by decide)
    rw [hsend, hsubmit, hcan]
    exact ⟨rfl, rfl, ⟨[], by simp [tell], by simp, rfl⟩, by simp [tell]⟩
  | false =>
    have hdone : messagesIn [{ op := .submit, calls := (r.input.submit r.session).calls }] =
        if r.input.canSubmit r.session then [(r.input.draft.message, r.input.files.files)]
        else [] := by
      simpa [messagesIn] using r.input.messages_submit r.session
    cases hsent : (r.input.submit r.session).result with
    | true =>
      have hsend : r.send =
          { result := .ok true,
            repl := { (r.perform .submit).repl with
              transcript := r.transcript ++ ["user: " ++ r.input.draft.message] } } := by
        simp only [send, hnothing, hsent]
        rfl
      rw [hsend]
      exact ⟨rfl, rfl, ⟨_, rfl, by simp, hdone⟩, by simp⟩
    | false =>
      have hsend : r.send = (r.perform .submit).repl.tell
          (if (r.perform .submit).repl.backend.isResponding then [.stillResponding] else []) := by
        simp only [send, hnothing, hsent]
        rfl
      rw [hsend]
      refine ⟨rfl, rfl, ⟨_, rfl, by simp, hdone⟩, ?_⟩
      intro groups
      simp only [tell]
      split <;> simp

end Terminal.Repl
end Composer
