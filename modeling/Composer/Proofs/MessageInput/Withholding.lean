import Composer.Proofs.MessageInput.Exclusive
import Composer.Proofs.MessageInput.Sending
set_option autoImplicit false

/-!
# A paste that is held back

What an input does with its draft, its files and what is open does not depend on the text that waits
in the artifact form, nor on the badges that such texts were stored as. So two runs that differ in
that text alone have the same draft at every point, and no part of the text gets into it.
-/

namespace Composer

/-- The overlay with the text in the artifact form made unreadable. -/
def Overlay.masked : Overlay → Overlay
  | artifactForm _ => artifactForm ""
  | o => o

namespace Overlay

variable (o : Overlay)

@[simp] theorem givesWay_masked : o.masked.givesWay = o.givesWay := by
  cases o <;> rfl

@[simp] theorem masked_masked : o.masked.masked = o.masked := by
  cases o <;> rfl

@[simp] theorem masked_closeMenu : o.masked.closeMenu.masked = o.closeMenu.masked := by
  cases o <;> rfl

@[simp] theorem masked_afterEdit (d : Draft) :
    (MessageInput.overlayAfterEdit o.masked d).masked =
      (MessageInput.overlayAfterEdit o d).masked := by
  cases o with
  | artifactForm text =>
    rw [MessageInput.overlayAfterEdit_of_not_givesWay rfl,
      MessageInput.overlayAfterEdit_of_not_givesWay rfl, masked_masked]
  | _ => rfl

end Overlay

namespace MessageInput

/-- The input with the text that waits made unreadable, and without the badges. -/
def masked (m : MessageInput) : MessageInput :=
  { m with overlay := m.overlay.masked, badges := [] }

variable (m : MessageInput) (session : Session)

@[simp] theorem draft_masked : m.masked.draft = m.draft := rfl

@[simp] theorem masked_masked : m.masked.masked = m.masked := by
  simp [masked]

theorem masked_request (e : ViewEffect) : (m.masked.request e).masked = (m.request e).masked := by
  simp [masked, request]

/-! ## One operation -/

theorem masked_submit :
    (m.masked.submit session).input.masked = (m.submit session).input.masked := by
  rcases m.submit_cases session with ⟨hcan, heq⟩ | ⟨hcan, hok, heq⟩ | ⟨hcan, e, herror, heq⟩
  · have hmasked : m.masked.submit session = { result := false, input := m.masked } :=
      submit_of_not_canSubmit hcan
    rw [heq, hmasked, masked_masked]
  · rw [heq, submit_of_ok (m := m.masked) hcan hok]
    simp [masked, emptied, closeMenu, request]
  · rw [heq, submit_of_error (m := m.masked) hcan herror]
    exact m.masked_request .focusInput

theorem masked_paste (clipboard : Clipboard) :
    (m.masked.paste session clipboard).2.masked = (m.paste session clipboard).2.masked := by
  have hclassifier : m.masked.classifier = m.classifier := rfl
  have hway : m.masked.overlay.givesWay = m.overlay.givesWay := m.overlay.givesWay_masked
  simp only [paste, hclassifier, hway]
  split
  · exact m.masked_masked
  · cases clipboard with
    | files incoming => simp [mergeFiles, masked]
    | text text =>
      dsimp only
      split
      · exact m.masked_masked
      · split
        · rfl
        · exact m.masked_masked

/-- Whatever comes of storing the paste, the form is closed. -/
theorem masked_savePaste_of_form {content : String} (hopen : m.overlay = .artifactForm content)
    (title : String) (choice : MimeChoice) (description : Option String) :
    (m.savePaste session title choice description).input.masked =
      ({ m with overlay := .none }.request .focusInput).masked := by
  rcases m.savePaste_cases session title choice description with
    ⟨hnone, -⟩ | ⟨content', -, ⟨artifact, -, heq⟩ | ⟨e, -, heq⟩⟩
  · rw [hopen] at hnone
    exact absurd hnone (by simp [Overlay.pending?])
  · rw [heq]
    rfl
  · rw [heq]

theorem masked_savePaste (title : String) (choice : MimeChoice) (description : Option String) :
    (m.masked.savePaste session title choice description).input.masked =
      (m.savePaste session title choice description).input.masked := by
  cases hopen : m.overlay with
  | artifactForm content =>
    have hmasked : m.masked.overlay = .artifactForm "" := congrArg Overlay.masked hopen
    rw [m.masked_savePaste_of_form session hopen, m.masked.masked_savePaste_of_form session hmasked]
    rfl
  | _ => simp [savePaste, discardPaste, masked, hopen, Overlay.masked]

theorem masked_selectPrompt (group : PromptGroup) :
    (m.masked.selectPrompt group).2.masked = (m.selectPrompt group).2.masked := by
  have hway : m.masked.overlay.givesWay = m.overlay.givesWay := m.overlay.givesWay_masked
  simp only [selectPrompt, hway]
  split
  · exact m.masked_masked
  · split
    · simp [insertPrompt, closeMenu, request, masked]
    · simp [masked]

theorem masked_applyPending (pending : Option PendingPrompt) :
    (m.masked.applyPending pending).2.2.masked = (m.applyPending pending).2.2.masked := by
  have hway : m.masked.overlay.givesWay = m.overlay.givesWay := m.overlay.givesWay_masked
  simp only [applyPending, hway]
  split
  · exact m.masked_masked
  · split
    · exact m.masked_masked
    · dsimp only
      split
      · simp [request, masked]
      · simp [request, masked]

theorem masked_submitVariables (values : VariableValues) :
    (m.masked.submitVariables values).2.masked = (m.submitVariables values).2.masked := by
  cases hopen : m.overlay with
  | variableDialog dialog =>
    simp only [submitVariables, masked, hopen, Overlay.masked]
    split
    · rfl
    · simp [hopen]
  | _ => simp [submitVariables, masked, hopen, Overlay.masked]

theorem masked_handleSignal (signal : Signal) :
    (m.masked.handleSignal session signal).input.masked =
      (m.handleSignal session signal).input.masked := by
  cases signal with
  | focusInput => exact m.masked_request .focusInput
  | followUp selected question autoSubmit =>
    have hasking : m.masked.asking selected question = (m.asking selected question).masked := rfl
    simp only [handleSignal_followUp, hasking]
    split
    · exact (m.asking selected question).masked_submit session
    · exact (m.asking selected question).masked_request .focusInput

/-- The step lemma: an operation does the same with the text made unreadable. -/
theorem masked_perform (op : Operation) :
    (m.masked.perform session op).input.masked = (m.perform session op).input.masked := by
  cases op with
  | changeText text cursor => simp [perform, changeText, masked]
  | closeMenu => simp [perform, closeMenu, masked]
  | transcribe speech => simp [perform, transcribe, request, masked]
  | setContext context => simp [perform, setContext, masked]
  | paste clipboard => exact m.masked_paste session clipboard
  | takeFiles incoming =>
    simp only [perform, takeFiles]
    split
    · exact m.masked_masked
    · simp [mergeFiles, masked]
  | removeFile index => simp [perform, removeFile, masked]
  | removeBadge id => simp [perform, removeBadge, masked]
  | discardPaste =>
    cases hopen : m.overlay with
    | _ => simp [perform, discardPaste, masked, hopen, Overlay.masked]
  | savePaste title choice description =>
    exact m.masked_savePaste session title choice description
  | submit => exact m.masked_submit session
  | cancelResponse =>
    simp only [perform, cancelResponse]
    split
    · exact m.masked_masked
    · split <;> exact m.masked_masked
  | observeResponding responding =>
    have hwas : m.masked.wasResponding = m.wasResponding := rfl
    simp only [perform, observeResponding, hwas]
    split <;> simp [request, masked]
  | insertPrompt text => simp [perform, insertPrompt, closeMenu, request, masked]
  | selectPrompt group => exact m.masked_selectPrompt group
  | submitVariables values => exact m.masked_submitVariables values
  | cancelVariables =>
    cases hopen : m.overlay with
    | _ => simp [perform, cancelVariables, request, masked, hopen, Overlay.masked]
  | applyPending pending => exact m.masked_applyPending pending
  | runReserved command transcript =>
    cases command with
    | createTemplate => simp [perform, runReserved, closeMenu, masked]
  | observeSession id =>
    have htracker : m.masked.tracker = m.tracker := rfl
    simp only [perform, observeSession, htracker]
    split <;> simp [masked]
  | handleSignal signal => exact m.masked_handleSignal session signal
  | drainEffects => simp [perform, drainEffects, masked]

/-! ## Runs -/

/-- The run lemma. -/
theorem masked_after (ops : List (Operation × Session)) :
    (m.masked.after ops).masked = (m.after ops).masked := by
  induction ops generalizing m with
  | nil => exact m.masked_masked
  | cons step ops ih =>
    obtain ⟨op, session⟩ := step
    calc ((m.masked.perform session op).input.after ops).masked
        = ((m.masked.perform session op).input.masked.after ops).masked := (ih _).symm
      _ = ((m.perform session op).input.masked.after ops).masked := by rw [masked_perform]
      _ = ((m.perform session op).input.after ops).masked := ih _

/-- Inputs that differ in the text that waits, and in badges, have the same draft ever after. -/
theorem draft_after_of_masked {m m' : MessageInput} (h : m'.masked = m.masked)
    (ops : List (Operation × Session)) : (m'.after ops).draft = (m.after ops).draft := by
  calc (m'.after ops).draft
      = (m'.masked.after ops).masked.draft := by rw [masked_after, draft_masked]
    _ = (m.masked.after ops).masked.draft := by rw [h]
    _ = (m.after ops).draft := by rw [masked_after, draft_masked]

end MessageInput
end Composer
