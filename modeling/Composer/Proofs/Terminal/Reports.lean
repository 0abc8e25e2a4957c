import Composer.Proofs.MessageInput.Reporting
import Composer.Terminal.Repl
set_option autoImplicit false

/-!
# Reports at the terminal

What the terminal makes its input do is a run of the input, with the session as it is at each
operation. So what holds of the runs of an input holds at the terminal; in particular, the signals
that wait lead to as many notifications as questions that could not be sent.
-/

namespace Composer.Terminal.Repl

/-! ## Operations as a run of the input -/

/-- The operations, each with what the input sees of the session when it is performed. -/
def seen (r : Repl) : List Operation → List (Operation × Session)
  | [] => []
  | op :: ops => (op, r.session) :: (r.perform op).repl.seen ops

theorem map_fst_seen (r : Repl) (ops : List Operation) : (r.seen ops).map Prod.fst = ops := by
  induction ops generalizing r with
  | nil => rfl
  | cons op ops ih => exact congrArg (op :: ·) (ih _)

/-- The bus takes no part in what is seen. -/
theorem seen_withBus (r : Repl) (bus : SignalBus) (ops : List Operation) :
    ({ r with bus } : Repl).seen ops = r.seen ops := by
  induction ops generalizing r with
  | nil => rfl
  | cons op ops ih => exact congrArg ((op, r.session) :: ·) (ih (r.perform op).repl)

/-- The log holds the calls of the run. -/
theorem log_performAll (r : Repl) (ops : List Operation) :
    ∃ done, (r.performAll ops).repl.log = r.log ++ done ∧ done.map LogEntry.op = ops ∧
      done.map LogEntry.calls = (r.input.run (r.seen ops)).map Reaction.calls := by
  induction ops generalizing r with
  | nil => exact ⟨[], (List.append_nil _).symm, rfl, rfl⟩
  | cons op ops ih =>
    obtain ⟨done, hlog, hops, hcalls⟩ := ih (r.perform op).repl
    let first : LogEntry := { op, calls := (r.input.perform r.session op).calls }
    have hfirst : (r.perform op).repl.log = r.log ++ [first] := rfl
    refine ⟨first :: done, ?_, congrArg (op :: ·) hops, congrArg (first.calls :: ·) hcalls⟩
    calc ((r.perform op).repl.performAll ops).repl.log
        = (r.log ++ [first]) ++ done := by rw [hlog, hfirst]
      _ = r.log ++ first :: done := List.append_assoc _ _ _

/-! ## Signals -/

/-- The signals that wait for the input. -/
def waitingSignals (r : Repl) : List Signal :=
  (r.bus.receiveAll r.subscription r.bus.capacity).1

/-- What is done about the signals that wait is a run of the input. -/
theorem log_drainSignals (r : Repl) :
    ∃ done, r.drainSignals.repl.log = r.log ++ done ∧
      done.map LogEntry.op = r.waitingSignals.map .handleSignal ∧
      done.map LogEntry.calls =
        (r.input.run (r.seen (r.waitingSignals.map .handleSignal))).map Reaction.calls := by
  let bus := (r.bus.receiveAll r.subscription r.bus.capacity).2
  have hdrain := ({ r with bus } : Repl).log_performAll (r.waitingSignals.map .handleSignal)
  rw [seen_withBus] at hdrain
  exact hdrain

/-- Every operation notifies the user once of each call that fails, right behind it, and of nothing
else; so a run has as many notifications as faults, and the handling of all signals that wait has as
many as there are questions among them that could not be sent. -/
theorem failures_notified_once :
    (∀ (m : MessageInput) (session : Session) (op : Operation),
      let calls := (m.perform session op).calls
      (calls.filterMap Call.notification?).length = (calls.filterMap session.fault?).length ∧
      (∀ before n after, calls = before ++ .notify n :: after →
        ∃ earlier c e, before = earlier ++ [c] ∧ session.fault? c = some e ∧
          n.level = .error ∧ n.message = e.userMessage) ∧
      ∀ e, (m.perform session op).result = .filled (.error e) → calls = []) ∧
    (∀ (m : MessageInput) (ops : List (Operation × Session)),
      List.Forall₂ Notification.Reports (m.notifications ops) (m.faults ops)) ∧
    ∀ r : Repl, ∃ done, r.drainSignals.repl.log = r.log ++ done ∧
      done.map LogEntry.op = r.waitingSignals.map .handleSignal ∧
      ((done.flatMap LogEntry.calls).filterMap Call.notification?).length =
        r.input.failedSends (r.seen (r.waitingSignals.map .handleSignal)) := by
  refine ⟨?_, MessageInput.forall₂_notifications, ?_⟩
  · intro m session op calls
    have hreported : Reported session calls := m.reported_perform session op
    refine ⟨hreported.forall₂.length_eq, ?_, fun e => MessageInput.calls_of_refused⟩
    intro before n after hcalls
    exact hreported.behind_failed hcalls
  · intro r
    obtain ⟨done, hlog, hops, hcalls⟩ := r.log_drainSignals
    refine ⟨done, hlog, hops, ?_⟩
    let steps := r.seen (r.waitingSignals.map .handleSignal)
    have hsignals : ∀ step ∈ steps, ∃ signal, step.1 = .handleSignal signal := by
      intro step hstep
      have hmem : step.1 ∈ steps.map Prod.fst := List.mem_map_of_mem hstep
      rw [map_fst_seen] at hmem
      obtain ⟨signal, -, heq⟩ := List.mem_map.mp hmem
      exact ⟨signal, heq.symm⟩
    have hdone : (done.flatMap LogEntry.calls).filterMap Call.notification? =
        r.input.notifications steps := by
      rw [List.flatMap_def, hcalls, ← List.flatMap_def, MessageInput.notifications,
        List.filterMap_flatMap]
    rw [hdone, (r.input.forall₂_notifications steps).length_eq,
      MessageInput.length_faults_of_signals hsignals]

end Composer.Terminal.Repl
