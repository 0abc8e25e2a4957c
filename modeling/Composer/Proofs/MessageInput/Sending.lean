import Composer.Proofs.MessageInput.WellFormed
set_option autoImplicit false

/-!
# Sending

A message goes out in two ways: the draft is submitted, or a follow-up question is sent at once.
Both send what the input holds at that moment, under one guard, and with one of three outcomes:
nothing happens, or all that was composed has left the input, or all of it is still there and may
be sent again. No other operation sends anything.
-/

namespace Composer

/-- A message with a context that says something. -/
theorem Draft.Valid.message_eq {d : Draft} (h : d.Valid) :
    d.message =
      match d.context with
      | none => d.text
      | some context => if Text.isBlank d.text then context else d.text ++ "\n\n" ++ context := by
  cases hcontext : d.context with
  | none => simp [message, composeMessage, hcontext]
  | some context =>
    have hsays := Text.nonBlank?_of_not_isBlank (h.context_not_blank context hcontext)
    simp only [message, composeMessage, hcontext, hsays]

namespace ViewEffects

/-- A request that was made waits. -/
theorem mem_push (q : ViewEffects) (e : ViewEffect) : e ∈ (q.push e).queue :=
  mem_push_iff.mpr (.inr rfl)

end ViewEffects

namespace MessageInput

variable {m ready : MessageInput} {session : Session} {op : Operation}

/-! ## The moment of sending -/

/-- The input at the moment at which an operation sends its message, if the operation is one that
does; a follow-up question is in the draft by then. -/
def atSending? (m : MessageInput) : Operation → Option MessageInput
  | .submit => some m
  | .handleSignal (.followUp selected question true) =>
    if (Text.nonBlank? question).isSome then some (m.asking selected question) else none
  | _ => none

/-- A signal sends a question that it is told to send, or only changes the input. -/
theorem handleSignal_cases (m : MessageInput) (session : Session) (signal : Signal) :
    (m.atSending? (.handleSignal signal) = none ∧ (m.handleSignal session signal).calls = []) ∨
    ∃ selected question, signal = .followUp selected question true ∧
      m.atSending? (.handleSignal signal) = some (m.asking selected question) ∧
      (m.handleSignal session signal).input = ((m.asking selected question).submit session).input ∧
      (m.handleSignal session signal).calls =
        ((m.asking selected question).submit session).calls := by
  cases signal with
  | focusInput => exact .inl ⟨rfl, rfl⟩
  | followUp selected question autoSubmit =>
    rw [handleSignal_followUp]
    cases autoSubmit with
    | false => exact .inl ⟨rfl, rfl⟩
    | true =>
      cases hquestion : (Text.nonBlank? question).isSome with
      | false => exact .inl ⟨by simp [atSending?, hquestion], rfl⟩
      | true => exact .inr ⟨selected, question, rfl, by simp [atSending?, hquestion], rfl, rfl⟩

/-- An operation that sends ends in a submit of what the input holds by then. -/
theorem perform_of_atSending (h : m.atSending? op = some ready) (session : Session) :
    (m.perform session op).input = (ready.submit session).input ∧
    (m.perform session op).calls = (ready.submit session).calls := by
  cases op with
  | submit =>
    obtain rfl := Option.some.inj h
    exact ⟨rfl, rfl⟩
  | handleSignal signal =>
    rcases m.handleSignal_cases session signal with
      ⟨hnone, -⟩ | ⟨selected, question, -, hsome, hinput, hcalls⟩
    · rw [hnone] at h
      exact absurd h (by simp)
    · obtain rfl := Option.some.inj (hsome.symm.trans h)
      exact ⟨hinput, hcalls⟩
  | _ => exact absurd h (by simp [atSending?])

/-- Any other operation sends nothing. -/
theorem messages_perform_of_none (h : m.atSending? op = none) (session : Session) :
    (m.perform session op).calls.filterMap Call.message? = [] := by
  cases op with
  | submit => exact absurd h (by simp [atSending?])
  | handleSignal signal =>
    rcases m.handleSignal_cases session signal with ⟨-, hcalls⟩ | ⟨_, _, -, hsome, -⟩
    · simp only [perform, hcalls, List.filterMap_nil]
    · rw [hsome] at h
      exact absurd h (by simp)
  | savePaste title choice description =>
    rcases m.savePaste_cases session title choice description with
      ⟨-, heq⟩ | ⟨content, -, ⟨artifact, -, heq⟩ | ⟨e, -, heq⟩⟩
    · simp [perform, heq]
    · simp [perform, heq, Call.message?]
    · simp [perform, heq, Call.message?, failure]
  | cancelResponse =>
    rcases m.cancelResponse_cases session with ⟨-, heq⟩ | ⟨-, -, heq⟩ | ⟨-, e, -, heq⟩
    · simp [perform, heq]
    · simp [perform, heq, Call.message?]
    · simp [perform, heq, Call.message?, failure]
  | runReserved command transcript =>
    cases command with
    | createTemplate => rfl
  | _ => rfl

/-- What an operation sends: once, if the guard lets it, what the input holds at that moment. -/
theorem messages_perform (h : m.atSending? op = some ready) (session : Session) :
    (m.perform session op).calls.filterMap Call.message? =
      if ready.canSubmit session then [(ready.draft.message, ready.files.files)] else [] := by
  rw [(perform_of_atSending h session).2]
  exact ready.messages_submit session

theorem WellFormed.atSending {classifier : PasteClassifier} (h : WellFormed classifier m)
    (hready : m.atSending? op = some ready) : WellFormed classifier ready := by
  cases op with
  | submit =>
    obtain rfl := Option.some.inj hready
    exact h
  | handleSignal signal =>
    rcases m.handleSignal_cases .idle signal with ⟨hnone, -⟩ | ⟨selected, question, -, hsome, -⟩
    · rw [hnone] at hready
      exact absurd hready (by simp)
    · obtain rfl := Option.some.inj (hsome.symm.trans hready)
      exact h.asking selected question
  | _ => exact absurd hready (by simp [atSending?])

/-! ## The guard -/

theorem canSubmit_iff : m.canSubmit session = true ↔
    session.responding = false ∧ (Text.isBlank m.draft.text = false ∨ m.files.files ≠ []) := by
  simp [canSubmit, Draft.isBlank, Selection.isEmpty]

theorem submit_of_not_canSubmit (h : m.canSubmit session = false) :
    m.submit session = { result := false, input := m } := by
  rcases m.submit_cases session with ⟨-, heq⟩ | ⟨hcan, -⟩ | ⟨hcan, -⟩
  · exact heq
  · exact absurd (h.symm.trans hcan) (by decide)
  · exact absurd (h.symm.trans hcan) (by decide)

theorem submit_of_ok (h : m.canSubmit session = true)
    (hok : session.submit m.files.files m.draft.message = .ok ()) :
    m.submit session =
      { result := true, input := m.emptied, calls := [.submit m.draft.message m.files.files] } := by
  rcases m.submit_cases session with ⟨hcan, -⟩ | ⟨-, -, heq⟩ | ⟨-, e, herror, -⟩
  · exact absurd (hcan.symm.trans h) (by decide)
  · exact heq
  · exact absurd (hok.symm.trans herror) (by simp)

theorem submit_of_error (h : m.canSubmit session = true) {e : Fault}
    (herror : session.submit m.files.files m.draft.message = .error e) :
    m.submit session =
      { result := false, input := m.request .focusInput,
        calls := [.submit m.draft.message m.files.files, failure "Failed to send message" e] } := by
  rcases m.submit_cases session with ⟨hcan, -⟩ | ⟨-, hok, -⟩ | ⟨-, e', herror', heq⟩
  · exact absurd (hcan.symm.trans h) (by decide)
  · exact absurd (hok.symm.trans herror) (by simp)
  · rw [heq, Except.error.inj (herror'.symm.trans herror)]

/-! ## Trying again -/

/-- A question that is put into the draft a second time is there already. -/
theorem asking_asking (m : MessageInput) (selected : String) (question : Option String)
    (e : ViewEffect) :
    (((m.asking selected question).request e).asking selected question).draft =
      (m.asking selected question).draft := by
  simp only [asking, request]
  cases Text.nonBlank? question with
  | none => simp only [Draft.setContext]
  | some q => simp only [Draft.setContext, Draft.setText]

/-- After a failure the same message is ready to be sent, by a submit or by the operation that
failed. -/
theorem atSending_of_retry (h : m.atSending? op = some ready) {retry : Operation}
    (hretry : retry = .submit ∨ retry = op) (e : ViewEffect) :
    ∃ again, (ready.request e).atSending? retry = some again ∧
      again.draft = ready.draft ∧ again.files = ready.files := by
  rcases hretry with rfl | rfl
  · exact ⟨_, rfl, rfl, rfl⟩
  · cases retry with
    | submit => exact ⟨_, rfl, rfl, rfl⟩
    | handleSignal signal =>
      rcases m.handleSignal_cases .idle signal with
        ⟨hnone, -⟩ | ⟨selected, question, rfl, hsome, -⟩
      · rw [hnone] at h
        exact absurd h (by simp)
      · obtain rfl := Option.some.inj (hsome.symm.trans h)
        have hquestion : (Text.nonBlank? question).isSome = true := by
          cases hblank : (Text.nonBlank? question).isSome with
          | true => rfl
          | false => exact absurd h (by simp [atSending?, hblank])
        exact ⟨_, by simp only [atSending?, hquestion, if_true], m.asking_asking _ _ e, rfl⟩
    | _ => exact absurd h (by simp [atSending?])

/-! ## Outcomes -/

/-- All that was composed has left the input, and the list of prompts is closed. -/
theorem emptied_spec (m : MessageInput) :
    m.emptied.draft = {} ∧ m.emptied.files = {} ∧ m.emptied.badges = [] ∧
    m.emptied.overlay = (if m.overlay = .slashMenu then .none else m.overlay) ∧
    ViewEffect.scrollToBottom ∈ m.emptied.effects.queue := by
  refine ⟨rfl, rfl, rfl, ?_, ViewEffects.mem_push _ _⟩
  have hover : m.emptied.overlay = m.overlay.closeMenu := rfl
  rw [hover]
  cases m.overlay <;> simp [Overlay.closeMenu]

/-- In every run, an operation sends a message only if the session is idle and there is something to
send, and then exactly what the input holds at that moment. What was sent leaves the input as a
whole; what could not be sent stays as a whole, is reported once, and is sent in the same words when
it is tried again; and what must not be sent changes nothing. -/
theorem message_sent_whole_or_kept (classifier : PasteClassifier) (first : Session)
    (ops : List (Operation × Session)) (session : Session) (op : Operation) :
    let m := (start classifier first).after ops
    let after := (m.perform session op).input
    let calls := (m.perform session op).calls
    (m.atSending? op = none → calls.filterMap Call.message? = []) ∧
    ∀ ready, m.atSending? op = some ready →
      let files := ready.files.files
      let message := ready.draft.message
      let guard := session.responding = false ∧ (Text.isBlank ready.draft.text = false ∨ files ≠ [])
      (message = match ready.draft.context with
        | none => ready.draft.text
        | some context =>
          if Text.isBlank ready.draft.text then context
          else ready.draft.text ++ "\n\n" ++ context) ∧
      (¬guard → calls = [] ∧ after = ready) ∧
      (guard → session.submit files message = .ok () →
        calls = [.submit message files] ∧
        after.draft = {} ∧ after.files = {} ∧ after.badges = [] ∧
        after.overlay = (if ready.overlay = .slashMenu then .none else ready.overlay) ∧
        .scrollToBottom ∈ after.effects.queue) ∧
      ∀ e, guard → session.submit files message = .error e →
        (∃ title, calls = [.submit message files,
          .notify { level := .error, title, message := e.userMessage }]) ∧
        after.draft = ready.draft ∧ after.files = ready.files ∧ after.badges = ready.badges ∧
        after.overlay = ready.overlay ∧
        ∀ later retry, later.responding = false → (retry = .submit ∨ retry = op) →
          (after.perform later retry).calls.filterMap Call.message? = [(message, files)] := by
  intro m after calls
  refine ⟨fun hnone => messages_perform_of_none hnone session, ?_⟩
  intro ready hready files message guard
  obtain ⟨hafter, hcalls⟩ : after = (ready.submit session).input ∧
      calls = (ready.submit session).calls := perform_of_atSending hready session
  have hguard : ready.canSubmit session = true ↔ guard := canSubmit_iff
  have hvalid : ready.draft.Valid := by
    have hm : WellFormed classifier m := (wellFormed_start classifier first).after ops
    exact (hm.atSending hready).draft
  refine ⟨hvalid.message_eq, ?_, ?_, ?_⟩
  · intro hclosed
    have hcan : ready.canSubmit session = false :=
      Bool.eq_false_iff.mpr fun hcan => hclosed (hguard.mp hcan)
    rw [hafter, hcalls, submit_of_not_canSubmit hcan]
    exact ⟨rfl, rfl⟩
  · intro hopen hok
    rw [hafter, hcalls, submit_of_ok (hguard.mpr hopen) hok]
    exact ⟨rfl, ready.emptied_spec⟩
  · intro e hopen herror
    rw [hafter, hcalls, submit_of_error (hguard.mpr hopen) herror]
    refine ⟨⟨_, rfl⟩, rfl, rfl, rfl, rfl, ?_⟩
    intro later retry hidle hretry
    obtain ⟨again, hagain, hdraft, hfiles⟩ := atSending_of_retry hready hretry .focusInput
    have hcan : again.canSubmit later = true := by
      rw [canSubmit_iff, hdraft, hfiles]
      exact ⟨hidle, hopen.2⟩
    rw [messages_perform hagain later, hcan, if_pos rfl, hdraft, hfiles]

end MessageInput
end Composer
