import Composer.Proofs.MessageInput.Observing
import Composer.Proofs.MessageInput.Responding
import Mathlib.Data.List.Induction
set_option autoImplicit false

/-!
# Requests to the view

Every operation asks the view for at most one thing, which can be told from what became of it. What
is asked for waits until the view takes it, whatever the input is put through meanwhile; so the view
takes what was asked for since it last did, each once, in the order of the first requests. The end
of a response counts as such against what was observed before, however long ago.
-/

namespace Composer

/-- Whether a response is known to be in progress after an operation, if it was before. -/
def Operation.observed (flag : Bool) : Operation → Bool
  | .observeResponding responding => responding
  | _ => flag

theorem Operation.observed_of_not_isObservation {op : Operation} (h : op.isObservation = false)
    (flag : Bool) : op.observed flag = flag := by
  cases op with
  | observeResponding responding => cases h
  | _ => rfl

namespace MessageInput

/-! ## What an operation asks for -/

/-- An operation asks the view for something: told by the calls that it made and how they were
answered, by its result, or by what was there before. -/
inductive Asks (m : MessageInput) (session : Session) : Operation → ViewEffect → Prop where
  /-- A message was sent, be it the draft or a question. -/
  | sent {op : Operation} {message : String} {files : List Attachment}
      (hcall : .submit message files ∈ (m.perform session op).calls)
      (hanswer : session.submit files message = .ok ()) : Asks m session op .scrollToBottom
  /-- A message could not be sent. -/
  | notSent {op : Operation} {message : String} {files : List Attachment} {e : Fault}
      (hcall : .submit message files ∈ (m.perform session op).calls)
      (hanswer : session.submit files message = .error e) : Asks m session op .focusInput
  /-- A paste was uploaded, in vain or not. -/
  | saved {title : String} {choice : MimeChoice} {description : Option String}
      {file : ArtifactUpload} {id : Option String}
      (hcall : .upload file id ∈
        (m.perform session (.savePaste title choice description)).calls) :
      Asks m session (.savePaste title choice description) .focusInput
  | spoken (speech : String) : Asks m session (.transcribe speech) .focusInput
  | inserted (text : String) : Asks m session (.insertPrompt text) .focusInput
  /-- A prompt without variables was selected, and inserted at once. -/
  | selected {group : PromptGroup}
      (hresult : (m.perform session (.selectPrompt group)).result = .truth true)
      (hnames : group.variableNames = []) : Asks m session (.selectPrompt group) .focusInput
  /-- A dialog was completed and its prompt inserted. -/
  | filled {values : VariableValues} {text : String}
      (hresult : (m.perform session (.submitVariables values)).result = .filled (.ok text)) :
      Asks m session (.submitVariables values) .focusInput
  /-- A dialog was given up. -/
  | givenUp {dialog : VariableDialog} (hopen : m.overlay = .variableDialog dialog) :
      Asks m session .cancelVariables .focusInput
  /-- A pending prompt was used up, as the draft or in a dialog. -/
  | applied {pending left : Option PendingPrompt}
      (hresult : (m.perform session (.applyPending pending)).result = .applied true left) :
      Asks m session (.applyPending pending) .focusInput
  | focused : Asks m session (.handleSignal .focusInput) .focusInput
  /-- A question was left in the draft, as it was not to be sent at once or there was none. -/
  | asked {selected : String} {question : Option String} {autoSubmit : Bool}
      (hwaits : autoSubmit = false ∨ Text.nonBlank? question = none) :
      Asks m session (.handleSignal (.followUp selected question autoSubmit)) .focusInput
  /-- A response was observed to be over. -/
  | ended (hwas : m.wasResponding = true) : Asks m session (.observeResponding false) .focusInput

/-- What is asked for when the message of this input is to be sent. -/
def requestOfSending (ready : MessageInput) (session : Session) : Option ViewEffect :=
  if ready.canSubmit session then
    match session.submit ready.files.files ready.draft.message with
    | .ok _ => some .scrollToBottom
    | .error _ => some .focusInput
  else none

/-- What an operation that sends nothing asks for. -/
def requestOfEditing (m : MessageInput) : Operation → Option ViewEffect
  | .transcribe _ => some .focusInput
  | .insertPrompt _ => some .focusInput
  | .savePaste _ _ _ => m.overlay.pending?.map fun _ => .focusInput
  | .selectPrompt group =>
    if m.overlay.givesWay ∧ group.variableNames = [] then some .focusInput else none
  | .submitVariables values =>
    match m.overlay.dialog? with
    | some dialog =>
      if Template.missing dialog.group.text values = [] then some .focusInput else none
    | none => none
  | .cancelVariables => m.overlay.dialog?.map fun _ => .focusInput
  | .applyPending pending => if pending.isSome ∧ m.overlay.givesWay then some .focusInput else none
  | .observeResponding responding =>
    if m.wasResponding ∧ responding = false then some .focusInput else none
  | .handleSignal _ => some .focusInput
  | _ => none

/-- What an operation asks for, as a function of the state. -/
def request? (m : MessageInput) (session : Session) (op : Operation) : Option ViewEffect :=
  match m.atSending? op with
  | some ready => ready.requestOfSending session
  | none => m.requestOfEditing op

variable {m ready : MessageInput} {session : Session} {op : Operation} {e : ViewEffect}

/-- Requests after one more, if there is one. -/
def requested (q : ViewEffects) (request : Option ViewEffect) : ViewEffects :=
  request.elim q q.push

theorem effects_submit (ready : MessageInput) (session : Session) :
    (ready.submit session).input.effects =
      requested ready.effects (ready.requestOfSending session) := by
  rcases ready.submit_cases session with
    ⟨hcan, heq⟩ | ⟨hcan, hanswer, heq⟩ | ⟨hcan, e, hanswer, heq⟩
  · simp [heq, requestOfSending, hcan, requested]
  · simp only [heq, requestOfSending, hcan, if_true, hanswer]
    rfl
  · simp only [heq, requestOfSending, hcan, if_true, hanswer]
    rfl

theorem atSending?_followUp_eq_none_iff {selected : String} {question : Option String}
    {autoSubmit : Bool} :
    m.atSending? (.handleSignal (.followUp selected question autoSubmit)) = none ↔
      autoSubmit = false ∨ Text.nonBlank? question = none := by
  cases autoSubmit with
  | false => simp [atSending?]
  | true => cases hquestion : Text.nonBlank? question <;> simp [atSending?, hquestion]

/-- What is in the draft by the time of sending has not been asked for anything. -/
theorem effects_atSending (h : m.atSending? op = some ready) : ready.effects = m.effects := by
  unfold atSending? at h
  split at h
  · obtain rfl := Option.some.inj h
    rfl
  · split at h
    · obtain rfl := Option.some.inj h
      rfl
    · cases h
  · cases h

/-- The step lemma: an operation leaves waiting what waited, and what it asks for itself. -/
theorem effects_perform (m : MessageInput) (session : Session) (hop : op ≠ .drainEffects) :
    (m.perform session op).input.effects = requested m.effects (m.request? session op) := by
  cases hready : m.atSending? op with
  | some ready =>
    rw [request?, hready, (perform_of_atSending hready session).1, effects_submit,
      effects_atSending hready]
  | none =>
    rw [request?, hready]
    dsimp only
    cases op with
    | drainEffects => exact absurd rfl hop
    | submit => exact absurd hready (by simp [atSending?])
    | handleSignal signal =>
      cases signal with
      | focusInput => rfl
      | followUp selected question autoSubmit =>
        have hwaits : ¬(autoSubmit && (Text.nonBlank? question).isSome) = true := by
          rcases atSending?_followUp_eq_none_iff.mp hready with rfl | hquestion
          · simp
          · simp [hquestion]
        rw [perform, handleSignal_followUp, if_neg hwaits]
        rfl
    | savePaste title choice description =>
      rcases m.savePaste_cases session title choice description with
        ⟨hnone, heq⟩ | ⟨content, hform, ⟨artifact, -, heq⟩ | ⟨e, -, heq⟩⟩
      · simp [perform, heq, requestOfEditing, hnone, requested]
      · simp only [perform, heq, requestOfEditing, hform, Overlay.pending?]
        rfl
      · simp only [perform, heq, requestOfEditing, hform, Overlay.pending?]
        rfl
    | paste clipboard =>
      rcases m.paste_cases session clipboard with
        ⟨-, heq⟩ | ⟨-, ⟨incoming, -, heq⟩ | ⟨text, -, ⟨-, heq⟩ | ⟨-, -, heq⟩ | ⟨-, -, heq⟩⟩⟩
      all_goals exact congrArg (fun r => r.2.effects) heq
    | takeFiles files =>
      rcases m.takeFiles_cases session files with ⟨-, heq⟩ | ⟨-, heq⟩
      all_goals exact congrArg (fun r => r.2.effects) heq
    | discardPaste =>
      simp only [perform, discardPaste]
      split <;> rfl
    | cancelResponse =>
      rcases m.cancelResponse_cases session with ⟨-, heq⟩ | ⟨-, -, heq⟩ | ⟨-, e, -, heq⟩
      all_goals exact congrArg (fun r => r.input.effects) heq
    | observeResponding responding =>
      cases responding with
      | true => simp [perform, observeResponding, requestOfEditing, requested]
      | false =>
        cases hwas : m.wasResponding with
        | true => simp [perform, observeResponding, requestOfEditing, requested, hwas, request]
        | false => simp [perform, observeResponding, requestOfEditing, requested, hwas]
    | selectPrompt group =>
      rcases m.selectPrompt_cases group with ⟨hway, heq⟩ | ⟨hway, ⟨hnames, heq⟩ | ⟨hnames, heq⟩⟩
      · simp [perform, heq, requestOfEditing, hway, requested]
      · simp [perform, heq, requestOfEditing, hway, hnames, requested]
        rfl
      · simp [perform, heq, requestOfEditing, hway, hnames, requested]
        rfl
    | submitVariables values =>
      rcases m.submitVariables_cases values with
        ⟨hnone, heq⟩ | ⟨dialog, hopen, ⟨hmissing, heq⟩ | ⟨hmissing, heq⟩⟩
      · simp [perform, heq, requestOfEditing, hnone, requested]
      · simp [perform, heq, requestOfEditing, hopen, Overlay.dialog?, hmissing, requested]
      · simp [perform, heq, requestOfEditing, hopen, Overlay.dialog?, hmissing, requested]
        rfl
    | cancelVariables =>
      cases hover : m.overlay <;>
        simp [perform, cancelVariables, requestOfEditing, hover, Overlay.dialog?, requested,
          request]
    | applyPending pending =>
      rcases m.applyPending_cases pending with
        ⟨rfl, heq⟩ | ⟨p, rfl, ⟨hway, heq⟩ | ⟨hway, -, heq⟩ | ⟨hway, -, heq⟩⟩
      · simp [perform, heq, requestOfEditing, requested]
      · simp [perform, heq, requestOfEditing, hway, requested]
      · simp [perform, heq, requestOfEditing, hway, requested, request]
      · simp [perform, heq, requestOfEditing, hway, requested, request, opening]
    | runReserved command transcript =>
      cases command
      rfl
    | observeSession id =>
      rcases m.observeSession_cases id with ⟨-, heq⟩ | ⟨-, heq⟩
      all_goals exact congrArg (fun r => r.2.effects) heq
    | _ => rfl

/-! ## Told by what became of it -/

/-- A sending asks for what the answer to its message calls for. -/
theorem requestOfSending_eq_some_iff :
    ready.requestOfSending session = some e ↔
      (e = .scrollToBottom ∧ ∃ message files,
        .submit message files ∈ (ready.submit session).calls ∧
        session.submit files message = .ok ()) ∨
      (e = .focusInput ∧ ∃ message files fault,
        .submit message files ∈ (ready.submit session).calls ∧
        session.submit files message = .error fault) := by
  rcases ready.submit_cases session with
    ⟨hcan, heq⟩ | ⟨hcan, hanswer, heq⟩ | ⟨hcan, fault, hanswer, heq⟩
  · simp [heq, requestOfSending, hcan]
  · simp [heq, requestOfSending, hcan, hanswer, eq_comm]
  · simp [heq, requestOfSending, hcan, hanswer, failure, eq_comm]

/-- An operation that is not for sending makes no attempt at it. -/
theorem not_mem_calls_of_atSending_none (h : m.atSending? op = none) (session : Session)
    (message : String) (files : List Attachment) :
    .submit message files ∉ (m.perform session op).calls := by
  intro hcall
  have hsent : (message, files) ∈ (m.perform session op).calls.filterMap Call.message? :=
    List.mem_filterMap.mpr ⟨_, hcall, rfl⟩
  rw [messages_perform_of_none h session] at hsent
  cases hsent

theorem asks_iff_of_atSending (h : m.atSending? op = some ready) :
    m.Asks session op e ↔ ready.requestOfSending session = some e := by
  rw [requestOfSending_eq_some_iff, ← (perform_of_atSending h session).2]
  constructor
  · intro hasks
    cases hasks with
    | sent hcall hanswer => exact .inl ⟨rfl, _, _, hcall, hanswer⟩
    | notSent hcall hanswer => exact .inr ⟨rfl, _, _, _, hcall, hanswer⟩
    | asked hwaits =>
      rw [atSending?_followUp_eq_none_iff.mpr hwaits] at h
      cases h
    | _ => cases h
  · rintro (⟨rfl, message, files, hcall, hanswer⟩ | ⟨rfl, message, files, fault, hcall, hanswer⟩)
    · exact .sent hcall hanswer
    · exact .notSent hcall hanswer

/-- An operation that sends nothing is told by its result, or by what was there before. -/
theorem asks_iff_of_atSending_none (h : m.atSending? op = none) :
    m.Asks session op e ↔ m.requestOfEditing op = some e := by
  constructor
  · intro hasks
    cases hasks with
    | sent hcall hanswer => exact absurd hcall (not_mem_calls_of_atSending_none h session _ _)
    | notSent hcall hanswer => exact absurd hcall (not_mem_calls_of_atSending_none h session _ _)
    | @saved title choice description file id hcall =>
      rcases m.savePaste_cases session title choice description with
        ⟨-, heq⟩ | ⟨content, hform, -⟩
      · simp [perform, heq] at hcall
      · simp [requestOfEditing, hform, Overlay.pending?]
    | @selected group hresult hnames =>
      rcases m.selectPrompt_cases group with ⟨-, heq⟩ | ⟨hway, -⟩
      · simp [perform, heq] at hresult
      · simp [requestOfEditing, hway, hnames]
    | @filled values text hresult =>
      rcases m.submitVariables_cases values with
        ⟨-, heq⟩ | ⟨dialog, hopen, ⟨-, heq⟩ | ⟨hmissing, -⟩⟩
      · simp [perform, heq] at hresult
      · simp [perform, heq] at hresult
      · simp [requestOfEditing, hopen, Overlay.dialog?, hmissing]
    | givenUp hopen => simp [requestOfEditing, hopen, Overlay.dialog?]
    | @applied pending left hresult =>
      rcases m.applyPending_cases pending with
        ⟨-, heq⟩ | ⟨p, rfl, ⟨-, heq⟩ | ⟨hway, -⟩ | ⟨hway, -⟩⟩
      · simp [perform, heq] at hresult
      · simp [perform, heq] at hresult
      · simp [requestOfEditing, hway]
      · simp [requestOfEditing, hway]
    | ended hwas => simp [requestOfEditing, hwas]
    | _ => rfl
  · intro hrequest
    cases op with
    | transcribe speech =>
      obtain rfl := Option.some.inj hrequest
      exact .spoken speech
    | insertPrompt text =>
      obtain rfl := Option.some.inj hrequest
      exact .inserted text
    | savePaste title choice description =>
      rcases m.savePaste_cases session title choice description with
        ⟨hnone, -⟩ | ⟨content, hform, hstored⟩
      · simp [requestOfEditing, hnone] at hrequest
      · obtain rfl : ViewEffect.focusInput = e := by
          simpa [requestOfEditing, hform, Overlay.pending?] using hrequest
        rcases hstored with ⟨artifact, -, heq⟩ | ⟨fault, -, heq⟩
        all_goals exact .saved (by simp only [perform, heq]; exact List.mem_cons_self)
    | selectPrompt group =>
      obtain ⟨⟨hway, hnames⟩, hfocus⟩ := Option.ite_none_right_eq_some.mp hrequest
      obtain rfl := Option.some.inj hfocus
      rcases m.selectPrompt_cases group with ⟨hstays, -⟩ | ⟨-, ⟨-, heq⟩ | ⟨hvariables, -⟩⟩
      · exact absurd (hway.symm.trans hstays) (by decide)
      · exact .selected (by simp only [perform, heq]) hnames
      · exact absurd hnames hvariables
    | submitVariables values =>
      rcases m.submitVariables_cases values with
        ⟨hnone, -⟩ | ⟨dialog, hopen, ⟨hmissing, -⟩ | ⟨hmissing, heq⟩⟩
      · simp [requestOfEditing, hnone] at hrequest
      · simp [requestOfEditing, hopen, Overlay.dialog?, hmissing] at hrequest
      · obtain rfl : ViewEffect.focusInput = e := by
          simpa [requestOfEditing, hopen, Overlay.dialog?, hmissing] using hrequest
        exact .filled (by rw [perform, heq])
    | cancelVariables =>
      cases hopen : m.overlay with
      | variableDialog dialog =>
        obtain rfl : ViewEffect.focusInput = e := by
          simpa [requestOfEditing, hopen, Overlay.dialog?] using hrequest
        exact .givenUp hopen
      | _ => simp [requestOfEditing, hopen, Overlay.dialog?] at hrequest
    | applyPending pending =>
      obtain ⟨⟨hsome, hway⟩, hfocus⟩ := Option.ite_none_right_eq_some.mp hrequest
      obtain rfl := Option.some.inj hfocus
      rcases m.applyPending_cases pending with
        ⟨rfl, -⟩ | ⟨p, rfl, ⟨hstays, -⟩ | ⟨-, -, heq⟩ | ⟨-, -, heq⟩⟩
      · exact absurd hsome (by decide)
      · exact absurd (hway.symm.trans hstays) (by decide)
      · exact .applied (by rw [perform, heq])
      · exact .applied (by rw [perform, heq])
    | observeResponding responding =>
      obtain ⟨⟨hwas, rfl⟩, hfocus⟩ := Option.ite_none_right_eq_some.mp hrequest
      obtain rfl := Option.some.inj hfocus
      exact .ended hwas
    | handleSignal signal =>
      obtain rfl := Option.some.inj hrequest
      cases signal with
      | focusInput => exact .focused
      | followUp selected question autoSubmit =>
        exact .asked (atSending?_followUp_eq_none_iff.mp h)
    | _ => cases hrequest

/-- What an operation asks for can be told from what became of it. -/
theorem asks_iff : m.Asks session op e ↔ m.request? session op = some e := by
  unfold request?
  cases hready : m.atSending? op with
  | some ready => exact asks_iff_of_atSending hready
  | none => exact asks_iff_of_atSending_none hready

/-- An operation leaves waiting what waited, and behind it what it asks for
itself, if that is new. -/
theorem effects_perform_cases (m : MessageInput) (session : Session) (hop : op ≠ .drainEffects) :
    ((∀ e, ¬m.Asks session op e) ∧ (m.perform session op).input.effects = m.effects) ∨
    ∃ e, (∀ e', m.Asks session op e' ↔ e' = e) ∧
      (m.perform session op).input.effects = m.effects.push e := by
  have heffects := m.effects_perform session hop
  cases hrequest : m.request? session op with
  | none =>
    rw [hrequest] at heffects
    exact .inl ⟨fun e => by simp [asks_iff, hrequest], heffects⟩
  | some e =>
    rw [hrequest] at heffects
    exact .inr ⟨e, fun e' => by simp [asks_iff, hrequest, eq_comm], heffects⟩

/-! ## What a run asks for -/

/-- One of the operations of a run asks the view for something. -/
def AsksDuring (m : MessageInput) (ops : List (Operation × Session)) (e : ViewEffect) : Prop :=
  ∃ before op session later, ops = before ++ (op, session) :: later ∧
    (m.after before).Asks session op e

/-- What a run asks for: each thing once, in the order of the first requests. -/
structure Collects (m : MessageInput) (ops : List (Operation × Session))
    (requests : List ViewEffect) : Prop where
  mem_iff : ∀ e, e ∈ requests ↔ m.AsksDuring ops e
  nodup : requests.Nodup
  /-- By the time at which the second of two things is asked for, the first was. -/
  in_order : requests.Pairwise fun e e' => ∀ before op session later,
    ops = before ++ (op, session) :: later → (m.after before).Asks session op e' →
      m.AsksDuring before e

variable {ops : List (Operation × Session)} {q : ViewEffects}

theorem asksDuring_of_asks (h : (m.after ops).Asks session op e) :
    m.AsksDuring (ops ++ [(op, session)]) e :=
  ⟨ops, op, session, [], rfl, h⟩

theorem AsksDuring.concat (h : m.AsksDuring ops e) (last : Operation × Session) :
    m.AsksDuring (ops ++ [last]) e := by
  obtain ⟨before, op, session, later, rfl, hasks⟩ := h
  exact ⟨before, op, session, later ++ [last], by simp, hasks⟩

theorem asksDuring_concat_iff :
    m.AsksDuring (ops ++ [(op, session)]) e ↔
      m.AsksDuring ops e ∨ (m.after ops).Asks session op e := by
  constructor
  · rintro ⟨before, op', session', later, hcut, hasks⟩
    rcases cut_concat hcut with ⟨rfl, hlast, -⟩ | ⟨rest, rfl, -⟩
    · obtain ⟨rfl, rfl⟩ := Prod.mk.inj hlast
      exact .inr hasks
    · exact .inl ⟨before, op', session', rest, rfl, hasks⟩
  · rintro (hbefore | hasks)
    · exact hbefore.concat _
    · exact asksDuring_of_asks hasks

theorem collects_nil (m : MessageInput) : m.Collects [] [] where
  mem_iff := by
    intro e
    refine iff_of_false List.not_mem_nil ?_
    rintro ⟨before, op, session, later, hcut, -⟩
    simp at hcut
  nodup := List.nodup_nil
  in_order := List.Pairwise.nil

namespace Collects

/-- Nothing is out of order for what waits already. -/
theorem in_order_concat {requests : List ViewEffect} (h : m.Collects ops requests)
    (last : Operation × Session) :
    requests.Pairwise fun e e' => ∀ before op session later,
      ops ++ [last] = before ++ (op, session) :: later → (m.after before).Asks session op e' →
        m.AsksDuring before e := by
  refine h.in_order.imp_of_mem ?_
  intro e e' he he' hordered before op session later hcut hasks
  rcases cut_concat hcut with ⟨rfl, -⟩ | ⟨rest, hrest, -⟩
  · exact (h.mem_iff e).mp he
  · exact hordered before op session rest hrest hasks

theorem silent {requests : List ViewEffect} (h : m.Collects ops requests)
    (hsilent : ∀ e, ¬(m.after ops).Asks session op e) :
    m.Collects (ops ++ [(op, session)]) requests where
  mem_iff := by
    intro e
    rw [h.mem_iff, asksDuring_concat_iff]
    exact (or_iff_left (hsilent e)).symm
  nodup := h.nodup
  in_order := h.in_order_concat _

theorem push (h : m.Collects ops q.queue)
    (hasks : ∀ e', (m.after ops).Asks session op e' ↔ e' = e) :
    m.Collects (ops ++ [(op, session)]) (q.push e).queue where
  mem_iff := by
    intro e'
    rw [ViewEffects.mem_push_iff, h.mem_iff, asksDuring_concat_iff, hasks]
  nodup := ViewEffects.nodup_push h.nodup e
  in_order := by
    unfold ViewEffects.push
    split
    next => exact h.in_order_concat _
    next hnew =>
      rw [List.pairwise_append]
      refine ⟨h.in_order_concat _, List.pairwise_singleton _ _, ?_⟩
      rintro e₁ he₁ e₂ he₂ before op' session' later hcut hrequest
      obtain rfl := List.mem_singleton.mp he₂
      rcases cut_concat hcut with ⟨rfl, -⟩ | ⟨rest, hrest, -⟩
      · exact (h.mem_iff e₁).mp he₁
      · exact absurd ((h.mem_iff e₂).mpr ⟨before, op', session', rest, hrest, hrequest⟩) hnew

end Collects

/-- The run lemma: what waits after a run without a drain is what the run asked for. -/
theorem collects_after (hnone : m.effects = {}) (ops : List (Operation × Session))
    (hops : ∀ step ∈ ops, step.1 ≠ .drainEffects) :
    m.Collects ops (m.after ops).effects.queue := by
  induction ops using List.reverseRecOn with
  | nil =>
    rw [after_nil, hnone]
    exact m.collects_nil
  | append_singleton ops last ih =>
    obtain ⟨op, session⟩ := last
    obtain ⟨hbefore, hlast⟩ := List.forall_mem_append.mp hops
    have hcollects := ih hbefore
    have hop : op ≠ .drainEffects := hlast (op, session) List.mem_cons_self
    rw [after_append, after_cons, after_nil]
    rcases (m.after ops).effects_perform_cases session hop with
      ⟨hsilent, heffects⟩ | ⟨e, hasks, heffects⟩
    · rw [heffects]
      exact hcollects.silent hsilent
    · rw [heffects]
      exact hcollects.push hasks

/-! ## The end of a response -/

/-- Whether a response was in progress when a run last observed it, or at first if it never did. -/
def lastObserved (first : Bool) (ops : List (Operation × Session)) : Bool :=
  ops.foldl (fun flag step => step.1.observed flag) first

theorem wasResponding_perform (m : MessageInput) (session : Session) (op : Operation) :
    (m.perform session op).input.wasResponding = op.observed m.wasResponding := by
  cases hobserves : op.isObservation with
  | false =>
    have hkept := congrArg Situation.isResponding (m.situation_perform session hobserves)
    rw [Operation.observed_of_not_isObservation hobserves]
    exact hkept
  | true =>
    cases op with
    | observeSession id =>
      exact congrArg Situation.isResponding (m.situation_observeSession id)
    | observeResponding responding =>
      exact congrArg Situation.isResponding (m.situation_observeResponding responding)
    | _ => cases hobserves

theorem wasResponding_after (m : MessageInput) (ops : List (Operation × Session)) :
    (m.after ops).wasResponding = lastObserved m.wasResponding ops := by
  induction ops generalizing m with
  | nil => rfl
  | cons step ops ih =>
    obtain ⟨op, session⟩ := step
    rw [after_cons, ih, wasResponding_perform]
    rfl

theorem effects_observeResponding (m : MessageInput) (session : Session) (responding : Bool) :
    (m.perform session (.observeResponding responding)).input.effects =
      if m.wasResponding = true ∧ responding = false then m.effects.push .focusInput
      else m.effects := by
  have hop : Operation.observeResponding responding ≠ .drainEffects := by simp
  rw [m.effects_perform session hop]
  simp only [request?, atSending?, requestOfEditing]
  split <;> rfl

/-! ## Steps and drains -/

/-- The answer to a submit tells what it asks for: to scroll if it sent the message, the focus if it
tried in vain, and nothing if there was nothing to be sent. -/
theorem asks_submit_iff (m : MessageInput) (session : Session) :
    (m.Asks session .submit .scrollToBottom ↔
      (m.perform session .submit).result = .truth true) ∧
    (m.Asks session .submit .focusInput ↔
      m.canSubmit session = true ∧ (m.perform session .submit).result = .truth false) := by
  rw [asks_iff_of_atSending rfl, asks_iff_of_atSending rfl]
  rcases m.submit_cases session with ⟨hcan, heq⟩ | ⟨hcan, hanswer, heq⟩ | ⟨hcan, e, hanswer, heq⟩
  · simp [perform, heq, requestOfSending, hcan]
  · simp [perform, heq, requestOfSending, hcan, hanswer]
  · simp [perform, heq, requestOfSending, hcan, hanswer]

/-- A subscription that is drained of its signals is no drain of the view's requests. -/
theorem ne_drainEffects_of_mem_operations {s : InputStep}
    (h : ∀ session, s ≠ .perform .drainEffects session) :
    ∀ step ∈ s.operations, step.1 ≠ .drainEffects := by
  intro step hstep
  cases s with
  | perform op session =>
    obtain rfl := List.mem_singleton.mp hstep
    rintro rfl
    exact h session rfl
  | drain view bus number =>
    obtain ⟨⟨signal, handled⟩, -, rfl⟩ := List.mem_map.mp hstep
    simp

/-- A drain takes all that waits. -/
theorem effects_steps_drained (m : MessageInput) (front : List InputStep) (session : Session) :
    (m.steps (front ++ [.perform .drainEffects session])).input.effects = {} := by
  rw [steps_eq_inTurn, List.flatMap_append]
  simp only [inTurn, after_append]
  rfl

/-- The view takes, whenever it does, what the run asked for since it last did or since the start:
each thing once, in the order of the first requests, and nothing is left. So whatever the input is
put through meanwhile, a message that is sent scrolls next time, and the focus follows one that
could not be sent, a paste that was uploaded in vain or not, an inserted prompt, spoken text, a
signal for it, and the end of a response. Such an end is told against what was last observed, and
nothing else that is observed of responses asks for the focus. -/
theorem requests_taken_once (classifier : PasteClassifier) (first : Session)
    (earlier between : List InputStep) (session : Session)
    (hearlier : earlier = [] ∨ ∃ front drained, earlier = front ++ [.perform .drainEffects drained])
    (hbetween : ∀ drained, .perform .drainEffects drained ∉ between) :
    let m := ((start classifier first).steps earlier).input
    let m' := (m.steps between).input
    let observed :=
      lastObserved first.responding ((earlier ++ between).flatMap InputStep.operations)
    (∃ requests, m.Collects (between.flatMap InputStep.operations) requests ∧
      m'.perform session .drainEffects =
        { result := .effects requests, input := { m' with effects := {} } }) ∧
    (m'.Asks session .submit .scrollToBottom ↔
      (m'.perform session .submit).result = .truth true) ∧
    (m'.Asks session .submit .focusInput ↔
      m'.canSubmit session = true ∧ (m'.perform session .submit).result = .truth false) ∧
    m'.wasResponding = observed ∧
    ∀ responding, (m'.perform session (.observeResponding responding)).input.effects =
      if observed = true ∧ responding = false then m'.effects.push .focusInput
      else m'.effects := by
  intro m m' observed
  have hnone : m.effects = {} := by
    rcases hearlier with rfl | ⟨front, drained, rfl⟩
    · rfl
    · exact (start classifier first).effects_steps_drained front drained
  have hops : ∀ step ∈ between.flatMap InputStep.operations, step.1 ≠ .drainEffects := by
    intro step hstep
    obtain ⟨s, hs, hstep⟩ := List.mem_flatMap.mp hstep
    refine ne_drainEffects_of_mem_operations ?_ step hstep
    rintro drained rfl
    exact hbetween drained hs
  have hm' : m' = m.after (between.flatMap InputStep.operations) :=
    congrArg Reaction.input (m.steps_eq_inTurn between)
  have hobserved : m'.wasResponding = observed := by
    have hm : m = (start classifier first).after (earlier.flatMap InputStep.operations) :=
      congrArg Reaction.input ((start classifier first).steps_eq_inTurn earlier)
    rw [hm', hm, ← after_append, ← List.flatMap_append, wasResponding_after]
    rfl
  obtain ⟨hsent, hfailed⟩ := m'.asks_submit_iff session
  refine ⟨⟨m'.effects.queue, ?_, rfl⟩, hsent, hfailed, hobserved, ?_⟩
  · rw [hm']
    exact collects_after hnone _ hops
  · intro responding
    rw [effects_observeResponding, hobserved]

/-- A message is sent, the session changes and a response is over, before the
view takes anything. -/
theorem scrolled_after_change_of_session :
    let first : Session := { Session.idle with responding := true, id := some "a" }
    let m := start {} first
    let between : List InputStep :=
      [.perform (.transcribe "hi") .idle, .perform .submit .idle,
        .perform (.observeSession (some "b")) .idle]
    let m' := (m.steps between).input
    (∀ drained, .perform .drainEffects drained ∉ between) ∧
    m.AsksDuring (between.flatMap InputStep.operations) .scrollToBottom ∧
    (m'.perform .idle .drainEffects).result = .effects [.focusInput, .scrollToBottom] ∧
    (m'.perform .idle (.observeResponding false)).input.effects = m'.effects.push .focusInput := by
  intro first m between m'
  have hbetween : ∀ drained, .perform .drainEffects drained ∉ between := by simp [between]
  obtain ⟨⟨requests, hcollects, htaken⟩, -, -, -, hended⟩ :=
    requests_taken_once {} first [] between .idle (.inl rfl) hbetween
  have hqueue : m'.effects.queue = [.focusInput, .scrollToBottom] := by decide +kernel
  have hrequests : requests = [.focusInput, .scrollToBottom] := by
    have hresult := congrArg Reaction.result htaken
    exact (Reply.effects.inj hresult).symm.trans hqueue
  refine ⟨hbetween, (hcollects.mem_iff _).mp (by simp [hrequests]), ?_, hended false⟩
  rw [← hrequests]
  exact congrArg Reaction.result htaken

end MessageInput
end Composer
