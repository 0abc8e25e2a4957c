import Composer.Proofs.MessageInput.Frame
set_option autoImplicit false

/-!
# Overlays that do not give way

A paste that waits in the artifact form, and a dialog that waits for values, are closed by the
operations that are meant to close them and by nothing else. What one operation does is the step
lemma `overlay_perform_of_not_givesWay`; along a run, an overlay is kept up to the first operation
that closes it.
-/

namespace Composer

/-- Whether an operation with this reply is meant to close an overlay that does not give way. -/
def Operation.closes : Operation → Reply → Overlay → Bool
  | .savePaste _ _ _, _, .artifactForm _ => true
  | .discardPaste, _, .artifactForm _ => true
  | .submitVariables _, .filled (.ok _), .variableDialog _ => true
  | .cancelVariables, _, .variableDialog _ => true
  | .observeSession _, .session t, _ => t.requiresReset
  | _, _, _ => false

namespace MessageInput

variable {m : MessageInput}

/-! ## One operation -/

theorem overlayAfterEdit_of_not_givesWay {o : Overlay} (h : o.givesWay = false) (d : Draft) :
    overlayAfterEdit o d = o := by
  cases o with
  | none => exact absurd h (by decide)
  | slashMenu => exact absurd h (by decide)
  | variableDialog dialog => simp [overlayAfterEdit]
  | artifactForm text => simp [overlayAfterEdit]

theorem overlay_submit_of_not_givesWay (h : m.overlay.givesWay = false) (session : Session) :
    (m.submit session).input.overlay = m.overlay := by
  rcases m.submit_cases session with ⟨-, heq⟩ | ⟨-, -, heq⟩ | ⟨-, e, -, heq⟩
  · rw [heq]
  · rw [heq]
    exact Overlay.closeMenu_of_not_givesWay h
  · rw [heq]
    rfl

theorem overlay_handleSignal_of_not_givesWay (h : m.overlay.givesWay = false)
    (session : Session) (signal : Signal) :
    (m.handleSignal session signal).input.overlay = m.overlay := by
  cases signal with
  | focusInput => rfl
  | followUp selected question autoSubmit =>
    have hasking : (m.asking selected question).overlay = m.overlay := rfl
    rw [handleSignal_followUp]
    split
    · rw [← hasking]
      exact overlay_submit_of_not_givesWay (by rw [hasking]; exact h) session
    · rfl

/-- The step lemma: an overlay that does not give way is closed by an operation that is meant to
close it, and kept by every other. -/
theorem overlay_perform_of_not_givesWay (h : m.overlay.givesWay = false) (session : Session)
    (op : Operation) :
    (m.perform session op).input.overlay =
      if op.closes (m.perform session op).result m.overlay then .none else m.overlay := by
  cases op with
  | changeText text cursor => exact overlayAfterEdit_of_not_givesWay h _
  | closeMenu => exact Overlay.closeMenu_of_not_givesWay h
  | transcribe speech => rfl
  | setContext context => rfl
  | paste clipboard =>
    rcases m.paste_cases session clipboard with ⟨-, heq⟩ | ⟨-, ⟨_, -, heq⟩ | ⟨text, -, hsize⟩⟩
    · simp [perform, heq, Operation.closes]
    · simp [perform, heq, Operation.closes]
    · rcases hsize with ⟨-, heq⟩ | ⟨-, -, heq⟩ | ⟨-, hway, heq⟩
      · simp [perform, heq, Operation.closes]
      · simp [perform, heq, Operation.closes]
      · rw [h] at hway
        exact absurd hway (by decide)
  | takeFiles files =>
    rcases m.takeFiles_cases session files with ⟨-, heq⟩ | ⟨-, heq⟩
    · simp [perform, heq, Operation.closes]
    · simp [perform, heq, Operation.closes]
  | removeFile index => rfl
  | removeBadge id => rfl
  | discardPaste =>
    cases hover : m.overlay with
    | artifactForm text => simp [perform, discardPaste, hover, Operation.closes]
    | variableDialog d => simp [perform, discardPaste, hover, Operation.closes]
    | none => simp [perform, discardPaste, hover, Operation.closes]
    | slashMenu => simp [perform, discardPaste, hover, Operation.closes]
  | savePaste title choice description =>
    rcases m.savePaste_cases session title choice description with
      ⟨hpending, heq⟩ | ⟨content, hover, ⟨artifact, -, heq⟩ | ⟨e, -, heq⟩⟩
    · cases hover : m.overlay with
      | artifactForm text =>
        rw [hover] at hpending
        exact absurd hpending (by simp [Overlay.pending?])
      | variableDialog d => simp [perform, heq, hover, Operation.closes]
      | none => simp [perform, heq, hover, Operation.closes]
      | slashMenu => simp [perform, heq, hover, Operation.closes]
    · simp [perform, heq, hover, Operation.closes]
    · simp [perform, heq, hover, Operation.closes]
  | submit => exact overlay_submit_of_not_givesWay h session
  | cancelResponse =>
    rcases m.cancelResponse_cases session with ⟨-, heq⟩ | ⟨-, -, heq⟩ | ⟨-, e, -, heq⟩
    · simp [perform, heq, Operation.closes]
    · simp [perform, heq, Operation.closes]
    · simp [perform, heq, Operation.closes]
  | observeResponding responding =>
    simp only [perform, observeResponding, Operation.closes]
    split <;> rfl
  | insertPrompt text => exact Overlay.closeMenu_of_not_givesWay h
  | selectPrompt group =>
    rcases m.selectPrompt_cases group with ⟨-, heq⟩ | ⟨hway, -⟩
    · simp [perform, heq, Operation.closes]
    · rw [h] at hway
      exact absurd hway (by decide)
  | submitVariables values =>
    rcases m.submitVariables_cases values with
      ⟨-, heq⟩ | ⟨dialog, hover, ⟨-, heq⟩ | ⟨-, heq⟩⟩
    · simp [perform, heq, Operation.closes]
    · simp [perform, heq, Operation.closes]
    · simp [perform, heq, hover, Operation.closes]
  | cancelVariables =>
    cases hover : m.overlay with
    | variableDialog d => simp [perform, cancelVariables, hover, Operation.closes]
    | artifactForm text => simp [perform, cancelVariables, hover, Operation.closes]
    | none => simp [perform, cancelVariables, hover, Operation.closes]
    | slashMenu => simp [perform, cancelVariables, hover, Operation.closes]
  | applyPending pending =>
    rcases m.applyPending_cases pending with ⟨-, heq⟩ | ⟨p, -, ⟨-, heq⟩ | ⟨hway, -⟩ | ⟨hway, -⟩⟩
    · simp [perform, heq, Operation.closes]
    · simp [perform, heq, Operation.closes]
    · rw [h] at hway
      exact absurd hway (by decide)
    · rw [h] at hway
      exact absurd hway (by decide)
  | runReserved command transcript =>
    cases command with
    | createTemplate => exact Overlay.closeMenu_of_not_givesWay h
  | observeSession id =>
    rcases m.observeSession_cases id with ⟨hreset, heq⟩ | ⟨hreset, heq⟩
    · simp [perform, heq, hreset, Operation.closes]
    · simp [perform, heq, hreset, Operation.closes]
  | handleSignal signal => exact overlay_handleSignal_of_not_givesWay h session signal
  | drainEffects => rfl

/-! ## Runs -/

/-- The run lemma: an overlay that does not give way is there at the end of a run, or it was kept
up to an operation that is meant to close it. -/
theorem overlay_after_of_not_givesWay (h : m.overlay.givesWay = false)
    (ops : List (Operation × Session)) :
    (m.after ops).overlay = m.overlay ∨
      ∃ earlier op session later, ops = earlier ++ (op, session) :: later ∧
        (m.after earlier).overlay = m.overlay ∧
        op.closes ((m.after earlier).perform session op).result m.overlay = true := by
  induction ops generalizing m with
  | nil => exact .inl rfl
  | cons step ops ih =>
    obtain ⟨op, session⟩ := step
    have hstep := overlay_perform_of_not_givesWay h session op
    cases hcloses : op.closes (m.perform session op).result m.overlay with
    | true => exact .inr ⟨[], op, session, ops, rfl, rfl, hcloses⟩
    | false =>
      have hkept : (m.perform session op).input.overlay = m.overlay := by
        rw [hstep, hcloses]
        rfl
      rcases ih (m := (m.perform session op).input) (by rw [hkept]; exact h) with
        hend | ⟨earlier, next, view, later, hops, hsame, hnext⟩
      · exact .inl (by rw [after_cons, hend, hkept])
      · refine .inr ⟨(op, session) :: earlier, next, view, later, ?_, ?_, ?_⟩
        · rw [hops, List.cons_append]
        · rw [after_cons, hsame, hkept]
        · rw [after_cons, ← hkept]
          exact hnext

/-- No operation closes an open form or dialog unless it is meant to, and then nothing is open; so
none puts one of them in the other's place. Along every run such an overlay stays, with all that is
in it, up to the first operation that is meant to close it. -/
theorem overlay_kept_until_closed (h : m.overlay.givesWay = false) :
    (∀ session op,
      (op.closes (m.perform session op).result m.overlay = true ∧
        (m.perform session op).input.overlay = .none) ∨
      (op.closes (m.perform session op).result m.overlay = false ∧
        (m.perform session op).input.overlay = m.overlay)) ∧
    ∀ ops : List (Operation × Session),
      (m.after ops).overlay = m.overlay ∨
        ∃ earlier op session later, ops = earlier ++ (op, session) :: later ∧
          (m.after earlier).overlay = m.overlay ∧
          op.closes ((m.after earlier).perform session op).result m.overlay = true ∧
          ((m.after earlier).perform session op).input.overlay = .none := by
  constructor
  · intro session op
    have hstep := overlay_perform_of_not_givesWay h session op
    cases hcloses : op.closes (m.perform session op).result m.overlay with
    | true => exact .inl ⟨rfl, by rw [hstep, hcloses]; rfl⟩
    | false => exact .inr ⟨rfl, by rw [hstep, hcloses]; rfl⟩
  · intro ops
    rcases overlay_after_of_not_givesWay h ops with
      hend | ⟨earlier, op, session, later, hops, hsame, hcloses⟩
    · exact .inl hend
    · have hopen : (m.after earlier).overlay.givesWay = false := by
        rw [hsame]
        exact h
      have hstep := overlay_perform_of_not_givesWay hopen session op
      refine .inr ⟨earlier, op, session, later, hops, hsame, hcloses, ?_⟩
      rw [hstep, hsame, hcloses]
      rfl

/-- A follow-up question that is sent at once leaves a pending paste in its form. -/
theorem form_kept_by_followUp :
    let m := (start { charThreshold := 2 } .idle).after [(.paste (.text "ab"), .idle)]
    let op := Operation.handleSignal (.followUp "x" (some "hi") true)
    m.overlay = .artifactForm "ab" ∧ m.overlay.givesWay = false ∧
      ((op.closes (m.perform .idle op).result m.overlay = true ∧
        (m.perform .idle op).input.overlay = .none) ∨
      (op.closes (m.perform .idle op).result m.overlay = false ∧
        (m.perform .idle op).input.overlay = m.overlay)) := by
  have hover : ((start { charThreshold := 2 } .idle).after
      [(.paste (.text "ab"), .idle)]).overlay = .artifactForm "ab" := by decide
  have hway : ((start { charThreshold := 2 } .idle).after
      [(.paste (.text "ab"), .idle)]).overlay.givesWay = false := by rw [hover]; rfl
  exact ⟨hover, hway, (overlay_kept_until_closed hway).1 .idle _⟩

end MessageInput
end Composer
