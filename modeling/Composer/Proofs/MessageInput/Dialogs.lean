import Composer.Proofs.MessageInput.Exclusive
import Composer.Proofs.Prompt.Substitution
set_option autoImplicit false

/-!
# A prompt that asks for its variables

A prompt gets into the draft in one step, or in two with a dialog between them. The dialog keeps
the prompt and nothing of the draft, so its text goes where it would have gone at once, whatever
else was done meanwhile, as long as text and cursor were left alone.
-/

namespace Composer

/-- Where the slash token stands depends on the text and the cursor alone. -/
theorem Draft.replaceSlashToken_congr {d d' : Draft} (htext : d'.text = d.text)
    (hcursor : d'.cursor = d.cursor) (replacement : String) :
    (d'.replaceSlashToken replacement).text = (d.replaceSlashToken replacement).text ∧
      (d'.replaceSlashToken replacement).cursor = (d.replaceSlashToken replacement).cursor := by
  simp only [replaceSlashToken, htext, hcursor]
  exact ⟨rfl, rfl⟩

namespace MessageInput

variable {m : MessageInput}

/-! ## Meanwhile -/

/-- No operation of the run changes the text of the draft or moves the cursor, and none closes what
is open. -/
def LeavesAlone (m : MessageInput) : List (Operation × Session) → Prop
  | [] => True
  | (op, session) :: ops =>
    let r := m.perform session op
    r.input.draft.text = m.draft.text ∧ r.input.draft.cursor = m.draft.cursor ∧
      op.closes r.result m.overlay = false ∧ r.input.LeavesAlone ops

/-- The run lemma: text, cursor and an overlay that does not give way are there at the end. -/
theorem LeavesAlone.after {ops : List (Operation × Session)} (h : m.LeavesAlone ops)
    (hway : m.overlay.givesWay = false) :
    (m.after ops).draft.text = m.draft.text ∧ (m.after ops).draft.cursor = m.draft.cursor ∧
      (m.after ops).overlay = m.overlay := by
  induction ops generalizing m with
  | nil => exact ⟨rfl, rfl, rfl⟩
  | cons step ops ih =>
    obtain ⟨op, session⟩ := step
    obtain ⟨htext, hcursor, hcloses, hrest⟩ := h
    have hover : (m.perform session op).input.overlay = m.overlay := by
      rw [overlay_perform_of_not_givesWay hway session op, hcloses]
      rfl
    obtain ⟨htext', hcursor', hover'⟩ := ih hrest (by rw [hover]; exact hway)
    rw [after_cons]
    exact ⟨htext'.trans htext, hcursor'.trans hcursor, hover'.trans hover⟩

/-! ## The dialog -/

/-- A dialog with a value for each variable puts its text where it wants it. -/
theorem submitVariables_of_filled {dialog : VariableDialog} {values : VariableValues}
    (hover : m.overlay = .variableDialog dialog)
    (hfilled : Template.missing dialog.group.text values = []) :
    let text := Template.substitute dialog.group.text values
    m.submitVariables values =
      (.ok text,
        { m with
          overlay := .none,
          draft := m.inserted dialog.target text }.request .focusInput) := by
  rcases m.submitVariables_cases values with ⟨hnone, -⟩ | ⟨dialog', hover', hcases⟩
  · rw [hover] at hnone
    exact absurd hnone (by simp [Overlay.dialog?])
  · obtain rfl := Overlay.variableDialog.inj (hover.symm.trans hover')
    rcases hcases with ⟨hmissing, -⟩ | ⟨-, heq⟩
    · exact absurd hfilled hmissing
    · exact heq

theorem cancelVariables_of_dialog {dialog : VariableDialog}
    (hover : m.overlay = .variableDialog dialog) :
    m.cancelVariables = { m with overlay := .none }.request .focusInput := by
  simp only [cancelVariables, hover]

theorem insertPrompt_of_givesWay (hway : m.overlay.givesWay = true) (text : String) :
    m.insertPrompt text =
      { m with overlay := .none, draft := m.draft.replaceSlashToken text }.request .focusInput := by
  rw [insertPrompt, closeMenu, Overlay.closeMenu_of_givesWay hway]

/-- A prompt whose variables all have values ends up in the draft in the same way with its dialog
and without. The dialog, if there is one, completes to the very state that inserting the filled
text at once leads to; and if text and cursor were left alone while it was open, to the same text,
cursor and overlay. Cancelling it leaves the draft as it is. -/
theorem dialog_agrees_with_insertion {group : PromptGroup} {values : VariableValues}
    (hway : m.overlay.givesWay = true) (hfilled : Template.missing group.text values = []) :
    let text := Template.substitute group.text values
    let direct := m.insertPrompt text
    let opened := (m.selectPrompt group).2
    (m.selectPrompt group).1 = true ∧ direct.overlay = .none ∧
    (group.variableNames = [] → opened = direct) ∧
    (group.variableNames ≠ [] →
      (∃ dialog, opened.overlay = .variableDialog dialog ∧ dialog.group = group) ∧
      opened.submitVariables values = (.ok text, direct) ∧
      opened.cancelVariables.draft = m.draft ∧ opened.cancelVariables.overlay = .none ∧
      ∀ meanwhile, opened.LeavesAlone meanwhile →
        let later := opened.after meanwhile
        let completed := later.submitVariables values
        completed.1 = .ok text ∧ completed.2.draft.text = direct.draft.text ∧
          completed.2.draft.cursor = direct.draft.cursor ∧ completed.2.overlay = direct.overlay ∧
          later.cancelVariables.draft = later.draft ∧ later.draft.text = m.draft.text ∧
          later.draft.cursor = m.draft.cursor) := by
  intro text direct opened
  have hdirect : direct =
      { m with overlay := .none, draft := m.draft.replaceSlashToken text }.request .focusInput :=
    insertPrompt_of_givesWay hway text
  have hnone : direct.overlay = .none := by
    rw [hdirect]
    rfl
  rcases m.selectPrompt_cases group with ⟨hnot, -⟩ | ⟨-, ⟨hnames, heq⟩ | ⟨hnames, heq⟩⟩
  · exact absurd (hnot.symm.trans hway) (by decide)
  · have hplain : text = group.text := Template.substitute_of_no_names hnames values
    refine ⟨by rw [heq], hnone, ?_, fun hsome => absurd hnames hsome⟩
    intro _
    change (m.selectPrompt group).2 = m.insertPrompt text
    rw [heq, hplain]
  · have hopened : opened = m.opening group .slashToken := congrArg Prod.snd heq
    have hover : opened.overlay =
        .variableDialog { group, names := group.variableNames, target := .slashToken } := by
      rw [hopened]
      rfl
    refine ⟨by rw [heq], hnone, fun hempty => absurd hempty hnames, fun _ => ⟨⟨_, hover, rfl⟩, ?_⟩⟩
    refine ⟨?_, ?_, ?_, ?_⟩
    · rw [submitVariables_of_filled hover hfilled, hdirect, hopened]
      rfl
    · rw [cancelVariables_of_dialog hover, hopened]
      rfl
    · rw [cancelVariables_of_dialog hover]
      rfl
    · intro meanwhile halone later completed
      obtain ⟨htext, hcursor, hlater⟩ := halone.after (by rw [hover]; rfl)
      have htext' : later.draft.text = m.draft.text := htext.trans (by rw [hopened]; rfl)
      have hcursor' : later.draft.cursor = m.draft.cursor := hcursor.trans (by rw [hopened]; rfl)
      have hcompleted : completed = _ := submitVariables_of_filled (hlater.trans hover) hfilled
      obtain ⟨hsame, hsame'⟩ := Draft.replaceSlashToken_congr htext' hcursor' text
      rw [hcompleted, hdirect, cancelVariables_of_dialog (hlater.trans hover)]
      exact ⟨rfl, hsame, hsame', rfl, rfl, htext', hcursor'⟩

/-- A context is set and a file is taken in while the dialog of a letter waits for its name. -/
theorem letter_completed_meanwhile :
    let m := (start {} .idle).after [(.changeText "Hi /" 4, .idle)]
    let letter : PromptGroup :=
      { id := "1", name := "letter", text := "Dear \x7b\x7b name \x7d\x7d" }
    let values : VariableValues := [("name", "Ann")]
    let meanwhile : List (Operation × Session) :=
      [(.setContext (some "c"), .idle), (.takeFiles [.ofBytes "a" "text/plain" 0 [1]], .idle)]
    m.overlay.givesWay = true ∧ Template.missing letter.text values = [] ∧
      letter.variableNames ≠ [] ∧ (m.selectPrompt letter).2.LeavesAlone meanwhile ∧
      (((m.selectPrompt letter).2.after meanwhile).submitVariables values).2.draft.text =
        (m.insertPrompt (Template.substitute letter.text values)).draft.text ∧
      (m.insertPrompt (Template.substitute letter.text values)).draft.text = "Hi Dear Ann" := by
  intro m letter values meanwhile
  have hway : m.overlay.givesWay = true := by decide
  have hfilled : Template.missing letter.text values = [] := by decide
  have hnames : letter.variableNames ≠ [] := by decide
  have halone : (m.selectPrompt letter).2.LeavesAlone meanwhile :=
    ⟨rfl, rfl, rfl, rfl, rfl, rfl, trivial⟩
  obtain ⟨-, -, -, hopened⟩ := dialog_agrees_with_insertion hway hfilled
  obtain ⟨-, -, -, -, hmeanwhile⟩ := hopened hnames
  obtain ⟨-, htext, -⟩ := hmeanwhile meanwhile halone
  exact ⟨hway, hfilled, hnames, halone, htext, by decide⟩

end MessageInput
end Composer
