import Composer.Proofs.MessageInput.Sending
import Mathlib.Data.List.Forall2
set_option autoImplicit false

/-!
# Reporting failures

A call on the session may fail, and the user is told so by a notification right behind it. The calls
of every operation are of this form, so failures and notifications correspond one to one, in one
operation and along a run; where nothing fails, nothing is notified.
-/

namespace Composer

/-- The notification that a call makes. -/
def Call.notification? : Call → Option Notification
  | .notify n => some n
  | _ => none

/-- Whether a notification tells the user of a fault. -/
def Notification.Reports (n : Notification) (e : Fault) : Prop :=
  n.level = .error ∧ n.message = e.userMessage

/-! ## Calls with their reports -/

/-- Calls of which each that fails, and no other, has a report right behind it. -/
inductive Reported (session : Session) : List Call → Prop where
  | nil : Reported session []
  | granted {c : Call} {calls : List Call} (hgranted : session.fault? c = none)
      (hsilent : c.notification? = none) (rest : Reported session calls) :
      Reported session (c :: calls)
  | failed {c : Call} {calls : List Call} {e : Fault} {n : Notification}
      (hfault : session.fault? c = some e) (hreports : n.Reports e)
      (rest : Reported session calls) : Reported session (c :: .notify n :: calls)

namespace Reported

variable {session : Session} {calls : List Call}

theorem single {c : Call} (hgranted : session.fault? c = none)
    (hsilent : c.notification? = none) : Reported session [c] :=
  .granted hgranted hsilent .nil

/-- A failed call with its notification. -/
theorem failure {c : Call} {e : Fault} (hfault : session.fault? c = some e) (title : String) :
    Reported session [c, MessageInput.failure title e] :=
  .failed hfault ⟨rfl, rfl⟩ .nil

theorem notification?_of_fault {c : Call} {e : Fault} (h : session.fault? c = some e) :
    c.notification? = none := by
  cases c with
  | notify n => exact absurd h (by simp [Session.fault?])
  | _ => rfl

/-- The notifications report the faults, one by one and in order. -/
theorem forall₂ (h : Reported session calls) :
    List.Forall₂ Notification.Reports (calls.filterMap Call.notification?)
      (calls.filterMap session.fault?) := by
  induction h with
  | nil => exact .nil
  | granted hgranted hsilent rest ih =>
    rw [List.filterMap_cons_none hsilent, List.filterMap_cons_none hgranted]
    exact ih
  | @failed c calls e n hfault hreports rest ih =>
    have hsilent : c.notification? = none := notification?_of_fault hfault
    rw [List.filterMap_cons_none hsilent, List.filterMap_cons_some hfault]
    exact .cons hreports ih

/-- Right before a notification stands the call whose failure it reports. -/
theorem behind_failed (h : Reported session calls) {before after : List Call} {n : Notification}
    (hcalls : calls = before ++ .notify n :: after) :
    ∃ earlier c e, before = earlier ++ [c] ∧ session.fault? c = some e ∧ n.Reports e := by
  induction h generalizing before with
  | nil => exact absurd hcalls (by simp)
  | @granted c calls hgranted hsilent rest ih =>
    cases before with
    | nil =>
      obtain rfl := (List.cons.inj hcalls).1
      exact absurd hsilent (by simp [Call.notification?])
    | cons first before =>
      obtain ⟨rfl, hrest⟩ := List.cons.inj hcalls
      obtain ⟨earlier, c', e, rfl, hc'⟩ := ih hrest
      exact ⟨_ :: earlier, c', e, rfl, hc'⟩
  | @failed c calls e n' hfault hreports rest ih =>
    cases before with
    | nil =>
      obtain rfl := (List.cons.inj hcalls).1
      exact absurd hfault (by simp [Session.fault?])
    | cons first before =>
      obtain ⟨rfl, hrest⟩ := List.cons.inj hcalls
      cases before with
      | nil =>
        obtain rfl := Call.notify.inj (List.cons.inj hrest).1
        exact ⟨[], c, e, rfl, hfault, hreports⟩
      | cons second before =>
        obtain ⟨rfl, hlater⟩ := List.cons.inj hrest
        obtain ⟨earlier, c', e', rfl, hc'⟩ := ih hlater
        exact ⟨c :: _ :: earlier, c', e', rfl, hc'⟩

end Reported

namespace MessageInput

variable {m : MessageInput} {session : Session}

/-! ## One operation -/

theorem fault?_submit_of_ok {files : List Attachment} {message : String}
    (h : session.submit files message = .ok ()) :
    session.fault? (.submit message files) = none := by
  simp only [Session.fault?, h]

theorem fault?_submit_of_error {files : List Attachment} {message : String} {e : Fault}
    (h : session.submit files message = .error e) :
    session.fault? (.submit message files) = some e := by
  simp only [Session.fault?, h]

theorem reported_submit (m : MessageInput) (session : Session) :
    Reported session (m.submit session).calls := by
  rcases m.submit_cases session with ⟨-, heq⟩ | ⟨-, hok, heq⟩ | ⟨-, e, herror, heq⟩
  · rw [heq]
    exact .nil
  · rw [heq]
    exact .single (fault?_submit_of_ok hok) rfl
  · rw [heq]
    exact .failure (fault?_submit_of_error herror) _

theorem reported_cancelResponse (m : MessageInput) (session : Session) :
    Reported session (m.cancelResponse session).calls := by
  rcases m.cancelResponse_cases session with ⟨-, heq⟩ | ⟨-, hok, heq⟩ | ⟨-, e, herror, heq⟩
  · rw [heq]
    exact .nil
  · rw [heq]
    exact .single (by simp only [Session.fault?, hok]) rfl
  · rw [heq]
    exact .failure (by simp only [Session.fault?, herror]) _

theorem reported_savePaste (m : MessageInput) (session : Session) (title : String)
    (choice : MimeChoice) (description : Option String) :
    Reported session (m.savePaste session title choice description).calls := by
  rcases m.savePaste_cases session title choice description with
    ⟨-, heq⟩ | ⟨content, -, ⟨artifact, hok, heq⟩ | ⟨e, herror, heq⟩⟩
  · rw [heq]
    exact .nil
  · rw [heq]
    exact .granted (by simp only [Session.fault?, hok]) rfl (.single rfl rfl)
  · rw [heq]
    exact .failure (by simp only [Session.fault?, herror]) _

theorem reported_handleSignal (m : MessageInput) (session : Session) (signal : Signal) :
    Reported session (m.handleSignal session signal).calls := by
  rcases m.handleSignal_cases session signal with
    ⟨-, hcalls⟩ | ⟨selected, question, -, -, -, hcalls⟩
  · rw [hcalls]
    exact .nil
  · rw [hcalls]
    exact reported_submit _ session

/-- The step lemma: every operation reports what fails. -/
theorem reported_perform (m : MessageInput) (session : Session) (op : Operation) :
    Reported session (m.perform session op).calls := by
  cases op with
  | submit => exact m.reported_submit session
  | cancelResponse => exact m.reported_cancelResponse session
  | savePaste title choice description =>
    exact m.reported_savePaste session title choice description
  | handleSignal signal => exact m.reported_handleSignal session signal
  | runReserved command transcript =>
    cases command with
    | createTemplate => exact .single rfl rfl
  | _ => exact .nil

/-- Values that are refused lead to no call at all. -/
theorem calls_of_refused {op : Operation} {e : Fault}
    (h : (m.perform session op).result = .filled (.error e)) :
    (m.perform session op).calls = [] := by
  cases op with
  | submitVariables values => rfl
  | _ => exact absurd h (by simp [perform])

/-! ## Runs -/

/-- The notifications of a run, in order. -/
def notifications (m : MessageInput) (ops : List (Operation × Session)) : List Notification :=
  (m.run ops).flatMap fun r => r.calls.filterMap Call.notification?

/-- The faults with which the calls of a run were answered, in order. -/
def faults (m : MessageInput) : List (Operation × Session) → List Fault
  | [] => []
  | (op, session) :: ops =>
    (m.perform session op).calls.filterMap session.fault? ++ (m.perform session op).input.faults ops

/-- The run lemma: the notifications of a run report its faults, one by one and in order. -/
theorem forall₂_notifications (m : MessageInput) (ops : List (Operation × Session)) :
    List.Forall₂ Notification.Reports (m.notifications ops) (m.faults ops) := by
  induction ops generalizing m with
  | nil => exact .nil
  | cons step ops ih =>
    obtain ⟨op, session⟩ := step
    have hfirst := (m.reported_perform session op).forall₂
    have hrest := ih (m.perform session op).input
    exact List.rel_append hfirst hrest

/-! ## Questions that are sent at once -/

/-- Whether an operation tries to send a message that the session does not take. -/
def failsToSend (m : MessageInput) (session : Session) (op : Operation) : Bool :=
  match m.atSending? op with
  | none => false
  | some ready =>
    ready.canSubmit session &&
      (session.fault? (.submit ready.draft.message ready.files.files)).isSome

/-- How many operations of a run try in vain to send a message. -/
def failedSends (m : MessageInput) : List (Operation × Session) → Nat
  | [] => 0
  | (op, session) :: ops =>
    (m.failsToSend session op).toNat + (m.perform session op).input.failedSends ops

theorem length_faults_submit (m : MessageInput) (session : Session) :
    ((m.submit session).calls.filterMap session.fault?).length =
      (m.failsToSend session .submit).toNat := by
  simp only [failsToSend, atSending?]
  rcases m.submit_cases session with ⟨hcan, heq⟩ | ⟨hcan, hok, heq⟩ | ⟨hcan, e, herror, heq⟩
  · simp [heq, hcan]
  · simp [heq, hcan, fault?_submit_of_ok hok]
  · have hfault := fault?_submit_of_error herror
    have hreport : session.fault? (failure "Failed to send message" e) = none := rfl
    simp [heq, hcan, hfault, hreport]

/-- Of a signal nothing can fail but the sending of its question. -/
theorem length_faults_handleSignal (m : MessageInput) (session : Session) (signal : Signal) :
    ((m.handleSignal session signal).calls.filterMap session.fault?).length =
      (m.failsToSend session (.handleSignal signal)).toNat := by
  rcases m.handleSignal_cases session signal with
    ⟨hnone, hcalls⟩ | ⟨selected, question, -, hsome, -, hcalls⟩
  · rw [hcalls]
    simp only [failsToSend, hnone]
    rfl
  · have hsubmit : (m.asking selected question).atSending? .submit =
        some (m.asking selected question) := rfl
    rw [hcalls, length_faults_submit]
    simp only [failsToSend, hsome, hsubmit]

theorem length_faults_of_signals {ops : List (Operation × Session)}
    (h : ∀ step ∈ ops, ∃ signal, step.1 = .handleSignal signal) :
    (m.faults ops).length = m.failedSends ops := by
  induction ops generalizing m with
  | nil => rfl
  | cons step ops ih =>
    obtain ⟨op, session⟩ := step
    obtain ⟨⟨signal, rfl⟩, hops⟩ := List.forall_mem_cons.mp h
    have hfirst := m.length_faults_handleSignal session signal
    rw [faults, List.length_append, ih hops]
    exact congrArg (· + _) hfirst

end MessageInput
end Composer
