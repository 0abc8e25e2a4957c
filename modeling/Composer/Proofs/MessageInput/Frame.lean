import Composer.MessageInput.Operation
set_option autoImplicit false

/-!
# What the operations can do

One lemma for each operation that has several outcomes lists them all, with the condition of each.
Whatever else is proved about an operation is read off this list.
-/

namespace Composer

namespace Overlay

theorem closeMenu_ne_slashMenu (o : Overlay) : o.closeMenu ≠ .slashMenu := by
  cases o <;> simp [closeMenu]

theorem closeMenu_of_not_givesWay {o : Overlay} (h : o.givesWay = false) : o.closeMenu = o := by
  cases o with
  | none => rfl
  | slashMenu => exact absurd h (by decide)
  | variableDialog d => rfl
  | artifactForm text => rfl

theorem closeMenu_of_givesWay {o : Overlay} (h : o.givesWay = true) : o.closeMenu = .none := by
  cases o with
  | none => rfl
  | slashMenu => rfl
  | variableDialog d => exact absurd h (by simp [givesWay])
  | artifactForm text => exact absurd h (by simp [givesWay])

end Overlay

/-- A cut of a list that has one more element is behind all the others, or one of the list
before. -/
theorem cut_concat {α : Type} {xs before later : List α} {x last : α}
    (h : xs ++ [last] = before ++ x :: later) :
    (xs = before ∧ last = x ∧ later = []) ∨
      ∃ rest, xs = before ++ x :: rest ∧ later = rest ++ [last] := by
  rcases List.eq_nil_or_concat later with rfl | ⟨rest, newest, rfl⟩
  · obtain ⟨hfront, hlast⟩ := List.append_inj' h rfl
    exact .inl ⟨hfront, List.head_eq_of_cons_eq hlast, rfl⟩
  · rw [List.concat_eq_append] at h ⊢
    have hsplit : xs ++ [last] = (before ++ x :: rest) ++ [newest] := by simpa using h
    obtain ⟨hfront, hlast⟩ := List.append_inj' hsplit rfl
    exact .inr ⟨rest, hfront, by rw [hlast]⟩

/-- The message that a call sends, with its files. -/
def Call.message? : Call → Option (String × List Attachment)
  | .submit message files => some (message, files)
  | _ => none

/-- A session that is idle and grants every call. -/
def Session.idle : Session where
  responding := false
  id := none
  submit := fun _ _ => .ok ()
  cancel := .ok ()
  upload := fun file _ => .ok { uri := file.name }
  freshId := ""
  now := ⟨0, 0⟩

namespace MessageInput

variable (m : MessageInput) (session : Session)

@[simp] theorem overlay_request (e : ViewEffect) : (m.request e).overlay = m.overlay := rfl

@[simp] theorem draft_request (e : ViewEffect) : (m.request e).draft = m.draft := rfl

@[simp] theorem overlay_closeMenu : m.closeMenu.overlay = m.overlay.closeMenu := rfl

@[simp] theorem draft_closeMenu : m.closeMenu.draft = m.draft := rfl

theorem draft_transcribe (speech : String) :
    (m.transcribe speech).draft = m.draft.appendTranscript speech := by
  simp only [transcribe, draft_request]

/-! ## Calls on the session -/

/-- The notification of a failed call. -/
def failure (title : String) (e : Fault) : Call :=
  .notify { level := .error, title, message := e.userMessage }

/-- The input after its message was sent. -/
def emptied : MessageInput :=
  { m with draft := {}, files := {}, badges := [] }.closeMenu.request .scrollToBottom

/-- A message is refused, sent, or tried in vain. -/
theorem submit_cases :
    (m.canSubmit session = false ∧ m.submit session = { result := false, input := m }) ∨
    (m.canSubmit session = true ∧ session.submit m.files.files m.draft.message = .ok () ∧
      m.submit session =
        { result := true, input := m.emptied, calls := [.submit m.draft.message m.files.files] }) ∨
    (m.canSubmit session = true ∧
      ∃ e, session.submit m.files.files m.draft.message = .error e ∧
        m.submit session =
          { result := false, input := m.request .focusInput,
            calls :=
              [.submit m.draft.message m.files.files, failure "Failed to send message" e] }) := by
  cases hcan : m.canSubmit session with
  | false => exact .inl ⟨rfl, by simp [submit, hcan]⟩
  | true =>
    cases hsubmit : session.submit m.files.files m.draft.message with
    | ok u => exact .inr (.inl ⟨rfl, rfl, by simp [submit, hcan, hsubmit, emptied]⟩)
    | error e => exact .inr (.inr ⟨rfl, e, rfl, by simp [submit, hcan, hsubmit, failure]⟩)

/-- A submit sends the draft's message once if it may, and no message otherwise. -/
theorem messages_submit :
    (m.submit session).calls.filterMap Call.message? =
      if m.canSubmit session then [(m.draft.message, m.files.files)] else [] := by
  rcases m.submit_cases session with ⟨hcan, heq⟩ | ⟨hcan, -, heq⟩ | ⟨hcan, e, -, heq⟩
  · simp [heq, hcan]
  · simp [heq, hcan, Call.message?]
  · simp [heq, hcan, Call.message?, failure]

/-- Stopping a response is left out, done, or tried in vain; the input stays as it is. -/
theorem cancelResponse_cases :
    (session.responding = false ∧ m.cancelResponse session = { result := (), input := m }) ∨
    (session.responding = true ∧ session.cancel = .ok () ∧
      m.cancelResponse session = { result := (), input := m, calls := [.cancel] }) ∨
    (session.responding = true ∧
      ∃ e, session.cancel = .error e ∧
        m.cancelResponse session =
          { result := (), input := m,
            calls := [.cancel, failure "Failed to cancel response" e] }) := by
  cases hbusy : session.responding with
  | false => exact .inl ⟨rfl, by simp [cancelResponse, hbusy]⟩
  | true =>
    cases hcancel : session.cancel with
    | ok u => exact .inr (.inl ⟨rfl, rfl, by simp [cancelResponse, hbusy, hcancel]⟩)
    | error e => exact .inr (.inr ⟨rfl, e, rfl, by simp [cancelResponse, hbusy, hcancel, failure]⟩)

/-- There is no paste to store, or it is stored as a badge, or the upload fails. -/
theorem savePaste_cases (title : String) (choice : MimeChoice) (description : Option String) :
    (m.overlay.pending? = none ∧
      m.savePaste session title choice description = { result := none, input := m }) ∨
    ∃ content, m.overlay = .artifactForm content ∧
      let file := ArtifactUpload.ofPaste title choice description content
      let closed : MessageInput := { m with overlay := .none }
      (∃ artifact, session.upload file session.id = .ok artifact ∧
        let badge : Badge :=
          { id := session.freshId, artifact, displayName := file.name, createdAt := session.now }
        m.savePaste session title choice description =
          { result := some badge,
            input := { closed with badges := m.badges ++ [badge] }.request .focusInput,
            calls := [.upload file session.id, .refresh] }) ∨
      ∃ e, session.upload file session.id = .error e ∧
        m.savePaste session title choice description =
          { result := none,
            input := closed.request .focusInput,
            calls :=
              [.upload file session.id, failure "Failed to save pasted content" e] } := by
  cases hover : m.overlay with
  | artifactForm content =>
    refine .inr ⟨content, rfl, ?_⟩
    dsimp only
    cases hupload : session.upload (.ofPaste title choice description content) session.id with
    | ok artifact =>
      exact .inl ⟨artifact, rfl, by simp [savePaste, discardPaste, hover, hupload]⟩
    | error e =>
      exact .inr ⟨e, rfl, by simp [savePaste, discardPaste, hover, hupload, failure]⟩
  | none => exact .inl ⟨rfl, by simp [savePaste, discardPaste, hover]⟩
  | slashMenu => exact .inl ⟨rfl, by simp [savePaste, discardPaste, hover]⟩
  | variableDialog d => exact .inl ⟨rfl, by simp [savePaste, discardPaste, hover]⟩

/-! ## Pastes and files -/

theorem takeFiles_cases (incoming : List Attachment) :
    (session.responding = true ∧ m.takeFiles session incoming = (0, m)) ∨
    (session.responding = false ∧
      m.takeFiles session incoming =
        (m.files.added incoming, { m with files := m.files.merge incoming })) := by
  cases hbusy : session.responding with
  | true => exact .inl ⟨rfl, by simp [takeFiles, hbusy]⟩
  | false => exact .inr ⟨rfl, by simp [takeFiles, hbusy, mergeFiles]⟩

/-- A paste is ignored, taken as files, left to the host, or held back in the artifact form. -/
theorem paste_cases (clipboard : Clipboard) :
    (session.responding = true ∧ m.paste session clipboard = (.ignored, m)) ∨
    (session.responding = false ∧
      ((∃ incoming, clipboard = .files incoming ∧
        m.paste session clipboard =
          (.filesAttached (m.files.added incoming),
            { m with files := m.files.merge incoming })) ∨
      ∃ text, clipboard = .text text ∧
        ((m.classifier.classify text = .small ∧
          m.paste session clipboard = (.insertDefault, m)) ∨
        (m.classifier.classify text = .large ∧ m.overlay.givesWay = false ∧
          m.paste session clipboard = (.ignored, m)) ∨
        (m.classifier.classify text = .large ∧ m.overlay.givesWay = true ∧
          m.paste session clipboard =
            (.artifactPending, { m with overlay := .artifactForm text }))))) := by
  cases hbusy : session.responding with
  | true => exact .inl ⟨rfl, by simp [paste, hbusy]⟩
  | false =>
    refine .inr ⟨rfl, ?_⟩
    cases clipboard with
    | files incoming => exact .inl ⟨incoming, rfl, by simp [paste, hbusy, mergeFiles]⟩
    | text text =>
      refine .inr ⟨text, rfl, ?_⟩
      cases hsize : m.classifier.classify text with
      | small => exact .inl ⟨rfl, by simp [paste, hbusy, hsize]⟩
      | large =>
        cases hway : m.overlay.givesWay with
        | false => exact .inr (.inl ⟨rfl, rfl, by simp [paste, hbusy, hsize, hway]⟩)
        | true => exact .inr (.inr ⟨rfl, rfl, by simp [paste, hbusy, hsize, hway]⟩)

/-! ## Prompts -/

/-- The input with the dialog of a prompt open. -/
def opening (group : PromptGroup) (target : InsertionTarget) : MessageInput :=
  { m with overlay := .variableDialog { group, names := group.variableNames, target } }

/-- A prompt is refused, inserted, or asks for its variables. -/
theorem selectPrompt_cases (group : PromptGroup) :
    (m.overlay.givesWay = false ∧ m.selectPrompt group = (false, m)) ∨
    (m.overlay.givesWay = true ∧
      ((group.variableNames = [] ∧ m.selectPrompt group = (true, m.insertPrompt group.text)) ∨
      (group.variableNames ≠ [] ∧
        m.selectPrompt group = (true, m.opening group .slashToken)))) := by
  cases hway : m.overlay.givesWay with
  | false => exact .inl ⟨rfl, by simp [selectPrompt, hway]⟩
  | true =>
    refine .inr ⟨rfl, ?_⟩
    cases hnames : group.variableNames with
    | nil => exact .inl ⟨rfl, by simp [selectPrompt, hway, hnames]⟩
    | cons name names => exact .inr ⟨by simp, by simp [selectPrompt, hway, hnames, opening]⟩

/-- The draft after a dialog's text was put where the dialog wants it. -/
def inserted (target : InsertionTarget) (text : String) : Draft :=
  match target with
  | .slashToken => m.draft.replaceSlashToken text
  | .draft => m.draft.setText text

/-- There is no dialog, or values are missing and it stays open, or its text is inserted. -/
theorem submitVariables_cases (values : VariableValues) :
    (m.overlay.dialog? = none ∧
      m.submitVariables values =
        (.error (.validation "No prompt is waiting for variables"), m)) ∨
    ∃ dialog, m.overlay = .variableDialog dialog ∧
      ((Template.missing dialog.group.text values ≠ [] ∧
        m.submitVariables values =
          (.error (.validation ("Missing values for: "
              ++ ", ".intercalate (Template.missing dialog.group.text values))), m)) ∨
      (Template.missing dialog.group.text values = [] ∧
        let text := Template.substitute dialog.group.text values
        m.submitVariables values =
          (.ok text,
            { m with overlay := .none, draft := m.inserted dialog.target text }.request
              .focusInput))) := by
  cases hover : m.overlay with
  | variableDialog dialog =>
    refine .inr ⟨dialog, rfl, ?_⟩
    cases hmissing : Template.missing dialog.group.text values with
    | nil =>
      refine .inr ⟨rfl, ?_⟩
      simp only [submitVariables, hover, hmissing]
      rfl
    | cons name names => exact .inl ⟨by simp, by simp [submitVariables, hover, hmissing]⟩
  | none => exact .inl ⟨rfl, by simp [submitVariables, hover]⟩
  | slashMenu => exact .inl ⟨rfl, by simp [submitVariables, hover]⟩
  | artifactForm text => exact .inl ⟨rfl, by simp [submitVariables, hover]⟩

/-- There is no pending prompt, or it has to wait, or it becomes the draft, or it asks for its
variables. -/
theorem applyPending_cases (pending : Option PendingPrompt) :
    (pending = none ∧ m.applyPending pending = (false, none, m)) ∨
    ∃ p, pending = some p ∧
      ((m.overlay.givesWay = false ∧ m.applyPending pending = (false, some p, m)) ∨
      (m.overlay.givesWay = true ∧ p.group.variableNames = [] ∧
        m.applyPending pending =
          (true, none, { m with draft := m.draft.setText p.text }.request .focusInput)) ∨
      (m.overlay.givesWay = true ∧ p.group.variableNames ≠ [] ∧
        m.applyPending pending =
          (true, none, (m.opening p.group .draft).request .focusInput))) := by
  cases pending with
  | none => exact .inl ⟨rfl, rfl⟩
  | some p =>
    refine .inr ⟨p, rfl, ?_⟩
    cases hway : m.overlay.givesWay with
    | false => exact .inl ⟨rfl, by simp [applyPending, hway]⟩
    | true =>
      cases hnames : p.group.variableNames with
      | nil =>
        refine .inr (.inl ⟨rfl, rfl, ?_⟩)
        simp only [applyPending, hway, hnames]
        rfl
      | cons name names =>
        exact .inr (.inr ⟨rfl, by simp, by simp [applyPending, hway, hnames, opening]⟩)

/-! ## Session and signals -/

/-- A change of session empties the input; any other observation only watches. -/
theorem observeSession_cases (id : Option String) :
    ((m.tracker.transition id).requiresReset = true ∧
      m.observeSession id =
        (m.tracker.transition id,
          { m with tracker := m.tracker.observe id, draft := {}, files := {}, badges := [],
                   overlay := .none })) ∨
    ((m.tracker.transition id).requiresReset = false ∧
      m.observeSession id =
        (m.tracker.transition id, { m with tracker := m.tracker.observe id })) := by
  cases hreset : (m.tracker.transition id).requiresReset with
  | true => exact .inl ⟨rfl, by simp [observeSession, hreset]⟩
  | false => exact .inr ⟨rfl, by simp [observeSession, hreset]⟩

/-- The input with a follow-up question in place of its text, and the selection as context. -/
def asking (selected : String) (question : Option String) : MessageInput :=
  let draft := match Text.nonBlank? question with
    | some q => m.draft.setText q
    | none => m.draft
  { m with draft := draft.setContext (some (quoteSelection selected)) }

/-- A follow-up question waits in the draft, or is sent at once. -/
theorem handleSignal_followUp (selected : String) (question : Option String) (autoSubmit : Bool) :
    m.handleSignal session (.followUp selected question autoSubmit) =
      if autoSubmit && (Text.nonBlank? question).isSome then
        { result := (),
          input := ((m.asking selected question).submit session).input,
          calls := ((m.asking selected question).submit session).calls }
      else { result := (), input := (m.asking selected question).request .focusInput } := rfl

end MessageInput
end Composer
