import Composer.Proofs.MessageInput.Frame
import Composer.Proofs.MessageInput.Merging
set_option autoImplicit false

/-!
# Well-formed inputs

What every part of the message input can be relied on for: the cursor stands in the draft, a
context says something, no file is selected twice, a dialog asks for exactly the variables of its
prompt, the artifact form holds a large paste, and no request to the view waits twice. Each part
keeps this under its own operations; an operation of the input is put together from these.
-/

namespace Composer

/-! ## The parts -/

namespace Draft

/-- A draft whose cursor stands in the text and whose context, if there is one, is not blank. -/
structure Valid (d : Draft) : Prop where
  cursor_le : d.cursor ≤ d.text.length
  context_not_blank : ∀ context, d.context = some context → Text.isBlank context = false

variable {d : Draft}

theorem valid_empty : Valid {} := ⟨Nat.le_refl 0, by simp⟩

theorem Valid.set (h : d.Valid) (text : String) (cursor : Nat) : (d.set text cursor).Valid :=
  ⟨Nat.min_le_right _ _, h.context_not_blank⟩

theorem Valid.setText (h : d.Valid) (text : String) : (d.setText text).Valid :=
  ⟨Nat.le_refl _, h.context_not_blank⟩

theorem Valid.setContext (h : d.Valid) (context : Option String) :
    (d.setContext context).Valid := by
  refine ⟨h.cursor_le, ?_⟩
  intro kept hkept
  have hfilter := (Option.filter_eq_some_iff.mp hkept).2
  simpa using hfilter

theorem Valid.clearText (h : d.Valid) : d.clearText.Valid :=
  ⟨Nat.le_refl 0, h.context_not_blank⟩

theorem Valid.appendTranscript (h : d.Valid) (speech : String) :
    (d.appendTranscript speech).Valid := by
  rcases d.appendTranscript_cases speech with heq | ⟨more, heq⟩
  · rw [heq]
    exact h
  · rw [heq]
    exact h.setText _

theorem Valid.replaceSlashToken (h : d.Valid) (replacement : String) :
    (d.replaceSlashToken replacement).Valid :=
  h.set _ _

end Draft

namespace ViewEffects

theorem mem_push_iff {q : ViewEffects} {e e' : ViewEffect} :
    e' ∈ (q.push e).queue ↔ e' ∈ q.queue ∨ e' = e := by
  unfold push
  split
  next hwaits =>
    refine ⟨.inl, fun h => ?_⟩
    rcases h with hmem | rfl
    · exact hmem
    · exact hwaits
  next => simp

/-- A request that waits already is not queued again. -/
theorem nodup_push {q : ViewEffects} (h : q.queue.Nodup) (e : ViewEffect) :
    (q.push e).queue.Nodup := by
  unfold push
  split
  · exact h
  · rename_i hnew
    rw [List.nodup_append]
    refine ⟨h, List.nodup_singleton e, ?_⟩
    intro e' he' e'' he''
    obtain rfl := List.mem_singleton.mp he''
    rintro rfl
    exact hnew he'

end ViewEffects

namespace Overlay

/-- An open dialog asks for the variables of its prompt, of which there is one at least; what waits
in the artifact form is a large paste. -/
def Valid (classifier : PasteClassifier) : Overlay → Prop
  | .variableDialog dialog =>
    dialog.names ≠ [] ∧ dialog.names = Template.variableNames dialog.group.text
  | .artifactForm text => classifier.classify text = .large
  | _ => True

variable {classifier : PasteClassifier} {o : Overlay}

theorem Valid.closeMenu (h : o.Valid classifier) : o.closeMenu.Valid classifier := by
  cases o with
  | slashMenu => trivial
  | none => exact h
  | variableDialog dialog => exact h
  | artifactForm text => exact h

/-- An edit opens and closes nothing but the list of prompts. -/
theorem Valid.afterEdit (h : o.Valid classifier) (d : Draft) :
    (MessageInput.overlayAfterEdit o d).Valid classifier := by
  unfold MessageInput.overlayAfterEdit
  split
  · split
    · trivial
    · exact h
  · split
    · split <;> trivial
    · exact h

end Overlay

/-! ## The whole -/

namespace MessageInput

variable {m : MessageInput} {classifier : PasteClassifier}

/-- An input that goes by a classifier, and all of whose parts are in order. -/
structure WellFormed (classifier : PasteClassifier) (m : MessageInput) : Prop where
  classifier_eq : m.classifier = classifier
  draft : m.draft.Valid
  files : (m.files.files.map Attachment.key).Nodup
  overlay : m.overlay.Valid classifier
  effects : m.effects.queue.Nodup

namespace WellFormed

theorem request (h : WellFormed classifier m) (e : ViewEffect) :
    WellFormed classifier (m.request e) :=
  ⟨h.classifier_eq, h.draft, h.files, h.overlay, ViewEffects.nodup_push h.effects e⟩

theorem closeMenu (h : WellFormed classifier m) : WellFormed classifier m.closeMenu :=
  ⟨h.classifier_eq, h.draft, h.files, h.overlay.closeMenu, h.effects⟩

theorem withDraft (h : WellFormed classifier m) {d : Draft} (hd : d.Valid) :
    WellFormed classifier { m with draft := d } :=
  ⟨h.classifier_eq, hd, h.files, h.overlay, h.effects⟩

theorem withBadges (h : WellFormed classifier m) (badges : List Badge) :
    WellFormed classifier { m with badges } :=
  ⟨h.classifier_eq, h.draft, h.files, h.overlay, h.effects⟩

theorem withOverlay (h : WellFormed classifier m) {o : Overlay} (ho : o.Valid classifier) :
    WellFormed classifier { m with overlay := o } :=
  ⟨h.classifier_eq, h.draft, h.files, ho, h.effects⟩

theorem withMerged (h : WellFormed classifier m) (incoming : List Attachment) :
    WellFormed classifier { m with files := m.files.merge incoming } :=
  ⟨h.classifier_eq, h.draft, Selection.nodup_keys_merge h.files incoming, h.overlay, h.effects⟩

theorem closed (h : WellFormed classifier m) : WellFormed classifier { m with overlay := .none } :=
  h.withOverlay trivial

/-- Nothing is wrong with empty parts. -/
theorem cleared (h : WellFormed classifier m) {o : Overlay} (ho : o.Valid classifier) :
    WellFormed classifier { m with draft := {}, files := {}, badges := [], overlay := o } :=
  ⟨h.classifier_eq, Draft.valid_empty, List.nodup_nil, ho, h.effects⟩

/-- A dialog is opened only for a prompt that has variables. -/
theorem opening (h :
    WellFormed classifier m) {group : PromptGroup} (hnames : group.variableNames ≠ [])
    (target : InsertionTarget) : WellFormed classifier (m.opening group target) :=
  h.withOverlay ⟨hnames, rfl⟩

/-! ### Operations with several outcomes -/

theorem submit (h : WellFormed classifier m) (session : Session) :
    WellFormed classifier (m.submit session).input := by
  rcases m.submit_cases session with ⟨-, heq⟩ | ⟨-, -, heq⟩ | ⟨-, e, -, heq⟩
  · rw [heq]
    exact h
  · rw [heq]
    exact ((h.cleared h.overlay).closeMenu).request .scrollToBottom
  · rw [heq]
    exact h.request .focusInput

theorem removeFile (h : WellFormed classifier m) (index : Nat) :
    WellFormed classifier (m.removeFile index).2 := by
  refine ⟨h.classifier_eq, h.draft, ?_, h.overlay, h.effects⟩
  have hsub : (m.files.files.eraseIdx index).Sublist m.files.files := List.eraseIdx_sublist _ _
  exact h.files.sublist (hsub.map Attachment.key)

theorem takeFiles (h : WellFormed classifier m) (session : Session) (incoming : List Attachment) :
    WellFormed classifier (m.takeFiles session incoming).2 := by
  rcases m.takeFiles_cases session incoming with ⟨-, heq⟩ | ⟨-, heq⟩
  · rw [heq]
    exact h
  · rw [heq]
    exact h.withMerged incoming

/-- Only a large paste is held back. -/
theorem paste (h : WellFormed classifier m) (session : Session) (clipboard : Clipboard) :
    WellFormed classifier (m.paste session clipboard).2 := by
  rcases m.paste_cases session clipboard with
    ⟨-, heq⟩ | ⟨-, ⟨incoming, -, heq⟩ | ⟨text, -, hsize⟩⟩
  · rw [heq]
    exact h
  · rw [heq]
    exact h.withMerged incoming
  · rcases hsize with ⟨-, heq⟩ | ⟨-, -, heq⟩ | ⟨hlarge, -, heq⟩
    · rw [heq]
      exact h
    · rw [heq]
      exact h
    · rw [h.classifier_eq] at hlarge
      rw [heq]
      exact h.withOverlay hlarge

theorem discardPaste (h : WellFormed classifier m) : WellFormed classifier m.discardPaste.2 := by
  unfold MessageInput.discardPaste
  split
  · exact h.closed
  · exact h

theorem savePaste (h :
    WellFormed classifier m) (session : Session) (title : String) (choice : MimeChoice)
    (description : Option String) :
    WellFormed classifier (m.savePaste session title choice description).input := by
  rcases m.savePaste_cases session title choice description with
    ⟨-, heq⟩ | ⟨content, -, ⟨artifact, -, heq⟩ | ⟨e, -, heq⟩⟩
  · rw [heq]
    exact h
  · rw [heq]
    exact (h.closed.withBadges _).request .focusInput
  · rw [heq]
    exact h.closed.request .focusInput

theorem cancelResponse (h : WellFormed classifier m) (session : Session) :
    WellFormed classifier (m.cancelResponse session).input := by
  rcases m.cancelResponse_cases session with ⟨-, heq⟩ | ⟨-, -, heq⟩ | ⟨-, e, -, heq⟩
  · rw [heq]
    exact h
  · rw [heq]
    exact h
  · rw [heq]
    exact h

theorem observeResponding (h : WellFormed classifier m) (responding : Bool) :
    WellFormed classifier (m.observeResponding responding) := by
  have hkept : ∀ m', WellFormed classifier m' →
      WellFormed classifier { m' with wasResponding := responding } :=
    fun _ h' => ⟨h'.classifier_eq, h'.draft, h'.files, h'.overlay, h'.effects⟩
  unfold MessageInput.observeResponding
  split
  · exact hkept _ (h.request .focusInput)
  · exact hkept _ h

theorem insertPrompt (h : WellFormed classifier m) (text : String) :
    WellFormed classifier (m.insertPrompt text) :=
  ((h.withDraft (h.draft.replaceSlashToken text)).closeMenu).request .focusInput

theorem selectPrompt (h : WellFormed classifier m) (group : PromptGroup) :
    WellFormed classifier (m.selectPrompt group).2 := by
  rcases m.selectPrompt_cases group with ⟨-, heq⟩ | ⟨-, ⟨-, heq⟩ | ⟨hnames, heq⟩⟩
  · rw [heq]
    exact h
  · rw [heq]
    exact h.insertPrompt group.text
  · rw [heq]
    exact h.opening hnames .slashToken

theorem submitVariables (h : WellFormed classifier m) (values : VariableValues) :
    WellFormed classifier (m.submitVariables values).2 := by
  rcases m.submitVariables_cases values with ⟨-, heq⟩ | ⟨dialog, -, ⟨-, heq⟩ | ⟨-, heq⟩⟩
  · rw [heq]
    exact h
  · rw [heq]
    exact h
  · have hinserted : ∀ text, (m.inserted dialog.target text).Valid := by
      intro text
      unfold MessageInput.inserted
      split
      · exact h.draft.replaceSlashToken text
      · exact h.draft.setText text
    rw [heq]
    exact (h.closed.withDraft (hinserted _)).request .focusInput

theorem cancelVariables (h : WellFormed classifier m) :
    WellFormed classifier m.cancelVariables := by
  unfold MessageInput.cancelVariables
  split
  · exact h.closed.request .focusInput
  · exact h

theorem applyPending (h : WellFormed classifier m) (pending : Option PendingPrompt) :
    WellFormed classifier (m.applyPending pending).2.2 := by
  rcases m.applyPending_cases pending with
    ⟨-, heq⟩ | ⟨p, -, ⟨-, heq⟩ | ⟨-, -, heq⟩ | ⟨-, hnames, heq⟩⟩
  · rw [heq]
    exact h
  · rw [heq]
    exact h
  · rw [heq]
    exact (h.withDraft (h.draft.setText p.text)).request .focusInput
  · rw [heq]
    exact (h.opening hnames .draft).request .focusInput

theorem observeSession (h : WellFormed classifier m) (id : Option String) :
    WellFormed classifier (m.observeSession id).2 := by
  have hwatching : WellFormed classifier { m with tracker := m.tracker.observe id } :=
    ⟨h.classifier_eq, h.draft, h.files, h.overlay, h.effects⟩
  rcases m.observeSession_cases id with ⟨-, heq⟩ | ⟨-, heq⟩
  · rw [heq]
    exact hwatching.cleared trivial
  · rw [heq]
    exact hwatching

theorem asking (h : WellFormed classifier m) (selected : String) (question : Option String) :
    WellFormed classifier (m.asking selected question) := by
  refine h.withDraft (Draft.Valid.setContext ?_ _)
  split
  · exact h.draft.setText _
  · exact h.draft

theorem handleSignal (h : WellFormed classifier m) (session : Session) (signal : Signal) :
    WellFormed classifier (m.handleSignal session signal).input := by
  cases signal with
  | focusInput => exact h.request .focusInput
  | followUp selected question autoSubmit =>
    rw [handleSignal_followUp]
    split
    · exact (h.asking selected question).submit session
    · exact (h.asking selected question).request .focusInput

/-! ### One operation, and runs -/

/-- The step lemma: an operation leaves a well-formed input well-formed. -/
theorem perform (h : WellFormed classifier m) (session : Session) (op : Operation) :
    WellFormed classifier (m.perform session op).input := by
  cases op with
  | changeText text cursor =>
    exact (h.withDraft (h.draft.set text cursor)).withOverlay (h.overlay.afterEdit _)
  | closeMenu => exact h.closeMenu
  | transcribe speech =>
    exact (h.withDraft (h.draft.appendTranscript speech)).request .focusInput
  | setContext context => exact h.withDraft (h.draft.setContext context)
  | paste clipboard => exact h.paste session clipboard
  | takeFiles files => exact h.takeFiles session files
  | removeFile index => exact h.removeFile index
  | removeBadge id => exact h.withBadges _
  | discardPaste => exact h.discardPaste
  | savePaste title choice description => exact h.savePaste session title choice description
  | submit => exact h.submit session
  | cancelResponse => exact h.cancelResponse session
  | observeResponding responding => exact h.observeResponding responding
  | insertPrompt text => exact h.insertPrompt text
  | selectPrompt group => exact h.selectPrompt group
  | submitVariables values => exact h.submitVariables values
  | cancelVariables => exact h.cancelVariables
  | applyPending pending => exact h.applyPending pending
  | runReserved command transcript =>
    cases command with
    | createTemplate => exact (h.withDraft h.draft.clearText).closeMenu
  | observeSession id => exact h.observeSession id
  | handleSignal signal => exact h.handleSignal session signal
  | drainEffects => exact ⟨h.classifier_eq, h.draft, h.files, h.overlay, List.nodup_nil⟩

/-- The run lemma. -/
theorem after (h : WellFormed classifier m) (ops : List (Operation × Session)) :
    WellFormed classifier (m.after ops) := by
  induction ops generalizing m with
  | nil => exact h
  | cons step ops ih =>
    obtain ⟨op, session⟩ := step
    exact ih (h.perform session op)

end WellFormed

theorem wellFormed_start (classifier : PasteClassifier) (session : Session) :
    WellFormed classifier (start classifier session) :=
  ⟨rfl, Draft.valid_empty, List.nodup_nil, trivial, List.nodup_nil⟩

/-- Whatever an input is put through and however its session answers, its parts stay in order. -/
theorem parts_valid_along_run (classifier : PasteClassifier) (first : Session)
    (ops : List (Operation × Session)) :
    let m := (start classifier first).after ops
    m.draft.cursor ≤ m.draft.text.length ∧
    (∀ context, m.draft.context = some context → Text.isBlank context = false) ∧
    (m.files.files.map Attachment.key).Nodup ∧
    (∀ dialog, m.overlay = .variableDialog dialog →
      dialog.names ≠ [] ∧ dialog.names = Template.variableNames dialog.group.text) ∧
    (∀ text, m.overlay = .artifactForm text → m.classifier.classify text = .large) ∧
    m.effects.queue.Nodup := by
  intro m
  have h : WellFormed classifier m := (wellFormed_start classifier first).after ops
  refine ⟨h.draft.cursor_le, h.draft.context_not_blank, h.files, ?_, ?_, h.effects⟩
  · intro dialog hopen
    have hdialog := h.overlay
    rw [hopen] at hdialog
    exact hdialog
  · intro text hopen
    have hpending := h.overlay
    rw [hopen] at hpending
    rw [h.classifier_eq]
    exact hpending

end MessageInput
end Composer
