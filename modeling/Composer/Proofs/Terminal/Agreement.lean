import Composer.Proofs.MessageInput.Observing
import Composer.Proofs.SignalBus.Delivery
import Composer.Proofs.Terminal.Arrivals
import Composer.Proofs.Terminal.Transcript
set_option autoImplicit false

/-!
# Agreement with the backend

The backend knows which session is active and whether a response is in progress; the input knows
what it has observed. The two differ by the events that wait, and by nothing else: whoever hears
these after what the input has observed knows the backend's situation. Between two lines no event
waits, so there they agree.
-/

namespace Composer

/-! ## Operations -/

theorem Operation.isObservation_of_isPlain {op : Operation} (h : op.isPlain = true) :
    op.isObservation = false := by
  cases op with
  | observeSession id => exact absurd h (by simp [isPlain])
  | observeResponding isResponding => exact absurd h (by simp [isPlain])
  | _ => rfl

/-- The calls of an operation that observes no session are made in the session that is active. -/
theorem Operation.connected_of_not_isObservation {op : Operation} (h : op.isObservation = false)
    (b : Backend) : op.connected b = b := by
  cases op with
  | observeSession id => exact absurd h (by simp [isObservation])
  | _ => rfl

namespace Terminal

namespace Repl

variable {b : Backend} {server : Server} {r : Repl}

/-! ## The invariant -/

/-- The events that are still to be handled: those in `pending` were taken already, and those that
wait come behind them. -/
def toHandle (r : Repl) (pending : List BackendEvent) : List BackendEvent :=
  pending ++ r.backend.events

/-- Input and backend differ by the events to be handled alone, no response is in progress, and what
was handled and is to be handled together is all that the calls of the log told of: in the log for
the input, in `seen` for the user. -/
structure Agrees (b : Backend) (server : Server) (r : Repl) (pending seen : List BackendEvent) :
    Prop extends Tracked b server r where
  assigned : ∀ id, .sessionAssigned id ∈ r.toHandle pending → r.backend.sessionId = some id
  situation : r.input.situation.hearAll (r.toHandle pending) = r.backend.situation
  idle : r.backend.isResponding = false
  observed :
    r.log.filterMap LogEntry.observed? ++ (r.toHandle pending).filterMap BackendEvent.flag? =
      (toldEvents b server r.log).filterMap BackendEvent.flag?
  shown : seen ++ (r.toHandle pending).filter BackendEvent.isShown =
    (toldEvents b server r.log).filter BackendEvent.isShown
  fits : r.bus.Fits

variable {pending seen : List BackendEvent}

/-- What is told by the calls of an operation is told in the replay as well. -/
theorem toldEvents_perform {op : Operation}
    (hconnection : (op.connected (replay b server r.log).1).calm = r.backend.calm)
    (hserved : (replay b server r.log).2 = r.server) :
    toldEvents b server (r.perform op).repl.log =
      toldEvents b server r.log ++
        r.backend.told r.server (r.input.perform r.session op).calls := by
  have hlog : (r.perform op).repl.log =
      r.log ++ [{ op, calls := (r.input.perform r.session op).calls }] := rfl
  rw [hlog, toldEvents_snoc, hserved, Backend.told_congr hconnection]

namespace Agrees

/-- Of the whole state only the input's observations, the connection, the server, the log and the
bus take part. -/
theorem of_eq {r' : Repl} (h : Agrees b server r pending seen)
    (hinput : r'.input.situation = r.input.situation) (hbackend : r'.backend = r.backend)
    (hserver : r'.server = r.server) (hlog : r'.log = r.log) (hbus : r'.bus.Fits) :
    Agrees b server r' pending seen := by
  have hhandle : r'.toHandle pending = r.toHandle pending := by rw [toHandle, toHandle, hbackend]
  refine ⟨⟨?_, ?_, ?_⟩, ?_, ?_, ?_, ?_, ?_, hbus⟩
  · rw [hbackend]
    exact h.listening
  · rw [hbackend, hlog]
    exact h.connection
  · rw [hserver, hlog]
    exact h.served
  · rw [hhandle, hbackend]
    exact h.assigned
  · rw [hhandle, hinput, hbackend]
    exact h.situation
  · rw [hbackend]
    exact h.idle
  · rw [hhandle, hlog]
    exact h.observed
  · rw [hhandle, hlog]
    exact h.shown

/-! ### Operations -/

/-- What the calls of an operation tell of is to be handled last. -/
theorem toHandle_perform (op : Operation) :
    (r.perform op).repl.toHandle pending =
      r.toHandle pending ++ r.backend.told r.server (r.input.perform r.session op).calls := by
  have hbackend : (r.perform op).repl.backend =
      (r.backend.callAll r.server (r.input.perform r.session op).calls).1 := rfl
  rw [toHandle, toHandle, hbackend, Backend.events_callAll, List.append_assoc]

/-- An operation that observes nothing leaves what it tells of to be handled. -/
theorem perform (h : Agrees b server r pending seen) {op : Operation}
    (hop : op.isObservation = false) : Agrees b server (r.perform op).repl pending seen := by
  have hconnection : (op.connected (replay b server r.log).1).calm = r.backend.calm := by
    rw [Operation.connected_of_not_isObservation hop]
    exact h.connection
  obtain ⟨htracked, -⟩ := tracked_perform h.listening hconnection h.served
  have htold := toldEvents_perform hconnection h.served
  let calls := (r.input.perform r.session op).calls
  have hhandle : (r.perform op).repl.toHandle pending =
      r.toHandle pending ++ r.backend.told r.server calls := toHandle_perform op
  have hobserved : (r.perform op).repl.log.filterMap LogEntry.observed? =
      r.log.filterMap LogEntry.observed? := by
    have hlog : (r.perform op).repl.log = r.log ++ [{ op, calls := calls }] := rfl
    have hnone : LogEntry.observed? { op, calls := calls } = none := by
      cases op with
      | observeResponding isResponding => exact absurd hop (by simp [Operation.isObservation])
      | _ => rfl
    rw [hlog, List.filterMap_append, List.filterMap_cons_none hnone]
    exact List.append_nil _
  refine ⟨htracked, assigned_callAll h.assigned calls, ?_, ?_, ?_, ?_, h.fits⟩
  · have hinput : (r.perform op).repl.input.situation = r.input.situation :=
      r.input.situation_perform r.session hop
    rw [hinput, hhandle, Situation.hearAll_append, h.situation]
    exact (Backend.situation_callAll h.listening calls).symm
  · exact Backend.isResponding_callAll h.idle calls
  · rw [hobserved, hhandle, htold, List.filterMap_append, List.filterMap_append, ← h.observed,
      List.append_assoc]
  · rw [hhandle, htold, List.filter_append, List.filter_append, ← h.shown, List.append_assoc]

theorem performAll (h : Agrees b server r pending seen) {ops : List Operation}
    (hops : ∀ op ∈ ops, op.isObservation = false) :
    Agrees b server (r.performAll ops).repl pending seen := by
  induction ops generalizing r with
  | nil => exact h
  | cons op ops ih =>
    obtain ⟨hop, hops⟩ := List.forall_mem_cons.mp hops
    exact ih (h.perform hop) hops

/-! ### What has arrived -/

/-- The first event is handled without the input if it tells nothing of the situation. -/
theorem show_event {e : BackendEvent} (h : Agrees b server r (e :: pending) seen)
    (hheard : r.input.situation.hear e = r.input.situation) (hflag : e.flag? = none) :
    Agrees b server r pending (seen ++ [e]) := by
  have hshown : e.isShown = true := by simp [BackendEvent.isShown, hflag]
  have hsituation := h.situation
  have hobserved := h.observed
  have hseen := h.shown
  simp only [toHandle, List.cons_append] at hsituation hobserved hseen
  rw [Situation.hearAll_cons, hheard] at hsituation
  rw [List.filterMap_cons_none hflag] at hobserved
  rw [List.filter_cons_of_pos hshown] at hseen
  refine ⟨h.toTracked, ?_, hsituation, h.idle, hobserved, ?_, h.fits⟩
  · exact fun id hmem => h.assigned id (List.mem_cons_of_mem _ hmem)
  · rw [List.append_assoc]
    exact hseen

/-- The input observes the first event. -/
theorem observe {e : BackendEvent} (h : Agrees b server r (e :: pending) seen) {op : Operation}
    (hcalls : (r.input.perform r.session op).calls = [])
    (hconnection : (op.connected (replay b server r.log).1).calm = r.backend.calm)
    (hheard : (r.input.perform r.session op).input.situation = r.input.situation.hear e)
    (hflag : LogEntry.observed? { op, calls := [] } = e.flag?) :
    Agrees b server (r.perform op).repl pending (seen ++ [e].filter BackendEvent.isShown) := by
  obtain ⟨htracked, -⟩ := tracked_perform h.listening hconnection h.served
  have htold := toldEvents_perform hconnection h.served
  have hbackend : (r.perform op).repl.backend = r.backend := by
    simp only [Repl.perform, hcalls, Backend.callAll_nil]
  have hhandle : (r.perform op).repl.toHandle pending = r.toHandle pending := by
    rw [toHandle, toHandle, hbackend]
  have hlog : (r.perform op).repl.log = r.log ++ [{ op, calls := [] }] := by
    simp only [Repl.perform, hcalls]
  have hnothing : r.backend.told r.server [] = [] := rfl
  rw [hcalls, hnothing, List.append_nil] at htold
  refine ⟨htracked, ?_, ?_, ?_, ?_, ?_, h.fits⟩
  · rw [hhandle, hbackend]
    exact fun id hmem => h.assigned id (List.mem_cons_of_mem _ hmem)
  · rw [hhandle, hbackend]
    have hsituation : (r.input.situation.hear e).hearAll (r.toHandle pending) =
        r.backend.situation := h.situation
    rw [← hheard] at hsituation
    exact hsituation
  · rw [hbackend]
    exact h.idle
  · have hall : r.toHandle (e :: pending) = [e] ++ r.toHandle pending := rfl
    have hone : [{ op, calls := [] }].filterMap LogEntry.observed? =
        [e].filterMap BackendEvent.flag? := by
      simp only [List.filterMap_cons, hflag, List.filterMap_nil]
    rw [hhandle, htold, hlog, ← h.observed, hall, List.filterMap_append, List.filterMap_append,
      hone, List.append_assoc]
  · have hall : r.toHandle (e :: pending) = [e] ++ r.toHandle pending := rfl
    rw [hhandle, htold, ← h.shown, hall, List.filter_append, List.append_assoc]

/-- An event is told to the input, or shown to the user, or both. -/
theorem handleEvent {e : BackendEvent} (h : Agrees b server r (e :: pending) seen) :
    Agrees b server (r.handleEvent e).repl pending
      (seen ++ Terminal.shown (r.handleEvent e).notices) := by
  cases e with
  | notification n => exact h.show_event rfl rfl
  | artifactsChanged => exact h.show_event rfl rfl
  | responding isResponding =>
    exact h.observe rfl h.connection (r.input.situation_observeResponding isResponding) rfl
  | sessionAssigned id =>
    -- the session that is observed is active already
    have hactive : r.backend.sessionId = some id := h.assigned id List.mem_cons_self
    refine h.observe rfl ?_ (r.input.situation_observeSession (some id)) rfl
    rw [Operation.calm_connected, h.connection, ← Operation.calm_connected]
    simp only [Operation.connected, ← hactive]
  | reply text =>
    exact (h.show_event rfl rfl).of_eq rfl rfl rfl rfl h.fits

theorem handleEvents {events : List BackendEvent}
    (h : Agrees b server r (events ++ pending) seen) :
    Agrees b server (r.handleEvents events).repl pending
      (seen ++ Terminal.shown (r.handleEvents events).notices) := by
  induction events generalizing r seen with
  | nil =>
    have hnothing : seen ++ Terminal.shown (r.handleEvents []).notices = seen :=
      List.append_nil seen
    rw [hnothing]
    exact h
  | cons e events ih =>
    have hnotices : (r.handleEvents (e :: events)).notices =
        (r.handleEvent e).notices ++ ((r.handleEvent e).repl.handleEvents events).notices := rfl
    rw [hnotices, shown_append, ← List.append_assoc]
    exact ih h.handleEvent

/-- Taking the events makes them those that are handled first. -/
theorem drainEvents (h : Agrees b server r [] seen) :
    Agrees b server r.drainEvents.repl [] (seen ++ Terminal.shown r.drainEvents.notices) := by
  let taken : Repl := { r with backend := r.backend.takeEvents.2 }
  have hhandle : taken.toHandle (r.backend.events ++ []) = r.toHandle [] := by
    simp [toHandle, taken, Backend.takeEvents]
  have htaken : Agrees b server taken (r.backend.events ++ []) seen := by
    refine ⟨⟨h.listening, h.connection, h.served⟩, ?_, ?_, h.idle, ?_, ?_, h.fits⟩
    · rw [hhandle]
      exact h.assigned
    · rw [hhandle]
      exact h.situation
    · rw [hhandle]
      exact h.observed
    · rw [hhandle]
      exact h.shown
  exact htaken.handleEvents

theorem drainSignals (h : Agrees b server r [] seen) :
    Agrees b server r.drainSignals.repl [] seen := by
  have hbus : Agrees b server
      { r with bus := (r.bus.receiveAll r.subscription r.bus.capacity).2 } [] seen :=
    h.of_eq rfl rfl rfl rfl (SignalBus.fits_receiveAll h.fits _ _)
  refine hbus.performAll ?_
  intro op hop
  obtain ⟨signal, -, rfl⟩ := List.mem_map.mp hop
  rfl

theorem drainEffects (h : Agrees b server r [] seen) :
    Agrees b server r.drainEffects.repl [] seen :=
  h.of_eq rfl rfl rfl rfl h.fits

theorem shown_drainSignals : Terminal.shown r.drainSignals.notices = [] := shown_performAll _

theorem shown_drainEffects : Terminal.shown r.drainEffects.notices = [] := by
  refine List.filterMap_eq_nil_iff.mpr ?_
  intro n hn
  obtain ⟨effect, -, hnotice⟩ := List.mem_filterMap.mp hn
  cases effect with
  | scrollToBottom =>
    obtain rfl := Option.some.inj hnotice
    rfl
  | focusInput => exact absurd hnotice (by simp [noticeOfEffect])

theorem pump (h : Agrees b server r [] seen) :
    Agrees b server r.pump.repl [] (seen ++ Terminal.shown r.pump.notices) := by
  simp only [Repl.pump, shown_append, shown_drainSignals, shown_drainEffects, List.append_nil,
    ← List.append_assoc]
  exact h.drainEvents.drainSignals.drainEvents.drainEffects

end Agrees

/-! ### Between two lines -/

@[simp] theorem bus_performAll (ops : List Operation) : (r.performAll ops).repl.bus = r.bus := by
  induction ops generalizing r with
  | nil => rfl
  | cons op ops ih => exact ih (r := (r.perform op).repl)

@[simp] theorem subscription_performAll (ops : List Operation) :
    (r.performAll ops).repl.subscription = r.subscription := by
  induction ops generalizing r with
  | nil => rfl
  | cons op ops ih => exact ih (r := (r.perform op).repl)

/-- Handling events leaves the signals alone. -/
theorem bus_handleEvents (events : List BackendEvent) :
    (r.handleEvents events).repl.bus = r.bus ∧
    (r.handleEvents events).repl.subscription = r.subscription := by
  induction events generalizing r with
  | nil => exact ⟨rfl, rfl⟩
  | cons e events ih =>
    have hfirst : (r.handleEvent e).repl.bus = r.bus ∧
        (r.handleEvent e).repl.subscription = r.subscription := by
      cases e <;> exact ⟨rfl, rfl⟩
    obtain ⟨hbus, hsubscription⟩ := ih (r := (r.handleEvent e).repl)
    exact ⟨hbus.trans hfirst.1, hsubscription.trans hfirst.2⟩

theorem bus_drainEvents (r : Repl) :
    r.drainEvents.repl.bus = r.bus ∧ r.drainEvents.repl.subscription = r.subscription :=
  bus_handleEvents (r := { r with backend := r.backend.takeEvents.2 }) r.backend.events

theorem bus_drainEffects (r : Repl) :
    r.drainEffects.repl.bus = r.bus ∧ r.drainEffects.repl.subscription = r.subscription :=
  ⟨rfl, rfl⟩

/-- What is handled before the next line, one after another. -/
theorem repl_pump (r : Repl) :
    r.pump.repl = r.drainEvents.repl.drainSignals.repl.drainEvents.repl.drainEffects.repl := by
  simp only [pump]

/-- No signal waits for the input. -/
def IsStill (r : Repl) : Prop := r.bus.waiting r.subscription = []

theorem isStill_pump (h : r.bus.Fits) : r.pump.repl.IsStill := by
  obtain ⟨hbus, hsubscription⟩ := bus_drainEvents r
  let signals := r.drainEvents.repl.drainSignals.repl
  obtain ⟨hlate, hlate'⟩ := bus_drainEvents signals
  have hreceived : signals.bus =
      (r.bus.receiveAll r.subscription r.bus.capacity).2 := by
    simp only [signals, drainSignals, bus_performAll, hbus, hsubscription]
  have hsame : signals.subscription = r.subscription := by
    simp only [signals, drainSignals, subscription_performAll, hsubscription]
  obtain ⟨hlast, hlast'⟩ := bus_drainEffects signals.drainEvents.repl
  rw [IsStill, repl_pump, hlast, hlast', hlate, hlate', hreceived, hsame]
  exact SignalBus.waiting_receiveAll h _

/-- A state between two lines: neither an event nor a signal waits. -/
structure Rests (b : Backend) (server : Server) (r : Repl) (seen : List BackendEvent) : Prop
    extends Agrees b server r [] seen where
  quiet : r.backend.events = []
  still : r.IsStill

theorem Agrees.rests (h : Agrees b server r [] seen) :
    Rests b server r.pump.repl (seen ++ Terminal.shown r.pump.notices) :=
  ⟨h.pump, events_pump, isStill_pump h.fits⟩

namespace Rests

/-- What the input has observed is the situation of the backend. -/
theorem situation_eq (h : Rests b server r seen) :
    r.input.situation = r.backend.situation := by
  have hsituation := h.situation
  rw [toHandle, h.quiet] at hsituation
  exact hsituation

theorem observed_eq (h : Rests b server r seen) :
    r.log.filterMap LogEntry.observed? =
      (toldEvents b server r.log).filterMap BackendEvent.flag? := by
  have hobserved := h.observed
  rw [toHandle, h.quiet] at hobserved
  simpa using hobserved

theorem shown_eq (h : Rests b server r seen) :
    seen = (toldEvents b server r.log).filter BackendEvent.isShown := by
  have hshown := h.shown
  rw [toHandle, h.quiet] at hshown
  simpa using hshown

end Rests

/-! ### Lines -/

theorem Agrees.edits (h : Agrees b server r [] seen) {ops : List Operation}
    (hops : ∀ op ∈ ops, op.isEdit = true) : Agrees b server (r.performAll ops).repl [] seen :=
  h.performAll fun op hop =>
    Operation.isObservation_of_isPlain (Operation.isPlain_of_isEdit (hops op hop))

theorem Agrees.send (h : Agrees b server r [] seen) : Agrees b server r.send.repl [] seen := by
  rcases r.send_cases with heq | ⟨-, heq⟩ | ⟨-, heq⟩
  · rw [heq]
    exact h
  · rw [heq]
    exact (h.perform rfl).of_eq rfl rfl rfl rfl h.fits
  · rw [heq]
    exact h.perform rfl

namespace Rests

/-- No event waits that would be overtaken by a switch. -/
theorem switchSession (h : Rests b server r seen) {id : Option String}
    (hid : ∀ given, id = some given → Text.isBlank given = false) :
    Agrees b server (r.switchSession id).repl [] seen := by
  let there := r.within id
  have hconnection := h.connection_within id
  have hserved : (replay b server there.log).2 = there.server := h.served
  obtain ⟨htracked, -⟩ := tracked_perform (r := there) h.listening hconnection hserved
  have htold := toldEvents_perform (r := there) hconnection hserved
  let switched := (there.perform (.observeSession id)).repl
  have hnothing : switched.toHandle [] = [] := h.quiet
  have hlog : switched.log = r.log ++ [{ op := .observeSession id, calls := [] }] := rfl
  have hsame : toldEvents b server switched.log = toldEvents b server r.log :=
    htold.trans (List.append_nil _)
  rw [repl_switchSession hid]
  refine ⟨htracked, ?_, ?_, h.idle, ?_, ?_, h.fits⟩
  · rw [hnothing]
    simp
  · have hinput : switched.input.situation = { r.input.situation with sessionId := id } :=
      r.input.situation_observeSession id
    rw [hnothing, Situation.hearAll_nil, hinput, h.situation_eq]
    rfl
  · rw [hnothing, hsame, ← h.observed_eq, hlog, List.filterMap_append]
    simp [LogEntry.observed?]
  · rw [hnothing, hsame, ← h.shown_eq]
    exact List.append_nil _

/-- Whatever a line does, only what it tells of is to be handled. -/
theorem move (h : Rests b server r seen) {r' : Repl} (hmove : Move r r') :
    Agrees b server r' [] seen := by
  cases hmove with
  | plain ops hops =>
    exact h.performAll fun op hop => Operation.isObservation_of_isPlain (hops op hop)
  | switch id hid => exact h.switchSession hid
  | publish signal => exact h.of_eq rfl rfl rfl rfl (SignalBus.fits_publish h.fits signal)
  | author ops hops command => exact (h.toAgrees.edits hops).perform rfl
  | send ops hops => exact (h.toAgrees.edits hops).send

theorem handleLine (h : Rests b server r seen) (initial line : String) :
    Agrees b server (r.handleLine initial line).repl [] seen := by
  rcases r.handled_handleLine initial line with ⟨-, heq⟩ | ⟨-, hmove⟩
  · rw [heq]
    exact h.toAgrees
  · exact h.move hmove

end Rests
end Repl

namespace Program

open Repl

variable {b : Backend} {server : Server} {r : Repl} {p : Program} {seen : List BackendEvent}

/-! ### The program -/

/-- Completing a dialog makes no calls and shows no event. -/
theorem rests_answer (h : Rests b server r seen) (answers : VariableValues) :
    Rests b server (answer r answers).repl (seen ++ shown (answer r answers).notices) := by
  have hnothing : shown (answer r answers).notices = [] := by
    simp only [answer]
    split <;> rfl
  rw [hnothing, List.append_nil]
  exact ⟨h.perform rfl, h.quiet, h.still⟩

theorem shown_ask (p : Program) (notices : List Notice) : shown (p.ask notices).2 = shown notices :=
  (shown_append notices [.prompt p.promptText]).trans (List.append_nil _)

theorem rests_await (h : Agrees b server r [] seen) :
    Rests b server (await r).1.repl (seen ++ shown (await r).2) := by
  have hpumped := h.rests
  unfold await
  dsimp only
  split
  · rw [shown_ask]
    exact hpumped
  · rename_i dialog _
    have hdialog : shown (r.pump.notices ++ [.dialog dialog.group.name]) =
        shown r.pump.notices := (shown_append _ _).trans (List.append_nil _)
    split
    · rw [shown_ask, shown_append, hdialog, ← List.append_assoc]
      exact rests_answer hpumped []
    · rw [shown_ask, hdialog]
      exact hpumped

theorem rests_takeAnswer (h : Rests b server p.repl seen) (q : Questions) (line : String) :
    Rests b server (p.takeAnswer q line).1.repl (seen ++ shown (p.takeAnswer q line).2) := by
  unfold takeAnswer
  split
  · exact rests_await h.toAgrees
  · dsimp only
    split
    · simp only [shown_append, ← List.append_assoc]
      exact rests_await (rests_answer h _).toAgrees
    · rw [shown_ask, shown_nil, List.append_nil]
      exact h

theorem rests_takeLine (h : Rests b server p.repl seen) (line : String) :
    Rests b server (p.takeLine line).1.repl (seen ++ shown (p.takeLine line).2) := by
  have hhandled := h.handleLine p.repl.input.draft.text line
  have hnothing := p.repl.shown_handleLine p.repl.input.draft.text line
  have hquit : (p.repl.handleLine p.repl.input.draft.text line).result = .ok false →
      (p.repl.handleLine p.repl.input.draft.text line).repl = p.repl := by
    intro hquit
    rcases p.repl.handled_handleLine p.repl.input.draft.text line with ⟨-, hsame⟩ | ⟨hgoes, -⟩
    · exact hsame
    · exact absurd hquit hgoes
  unfold takeLine
  generalize p.repl.handleLine p.repl.input.draft.text line = told at *
  obtain ⟨result, repl, notices⟩ := told
  cases result with
  | error e =>
    have hfailed : shown (.failed e :: (await repl).2) = shown (await repl).2 := shown_cons _ _
    simp only [shown_append, hfailed, hnothing, List.nil_append]
    exact rests_await hhandled
  | ok goes =>
    cases goes with
    | true =>
      simp only [shown_append, hnothing, List.nil_append]
      exact rests_await hhandled
    | false =>
      have hsame : repl = p.repl := hquit rfl
      have hgoodbye : shown [.goodbye] = [] := rfl
      simp only [shown_append, hnothing, hgoodbye, hsame, List.append_nil]
      exact h

/-- The step lemma for the program. -/
theorem rests_feed (h : Rests b server p.repl seen) (line : String) :
    Rests b server (p.feed line).1.repl (seen ++ shown (p.feed line).2) := by
  unfold feed
  split
  · simpa using h
  · split
    · exact rests_takeAnswer h _ line
    · exact rests_takeLine h line

/-- The run lemma for the program. -/
theorem rests_feedAll (h : Rests b server p.repl seen) (lines : List String) :
    Rests b server (p.feedAll lines).1.repl (seen ++ shown (p.feedAll lines).2) := by
  induction lines generalizing p seen with
  | nil =>
    have hnothing : shown (p.feedAll []).2 = [] := rfl
    rw [hnothing, List.append_nil]
    exact h
  | cons line lines ih =>
    have hnotices : (p.feedAll (line :: lines)).2 =
        (p.feed line).2 ++ ((p.feed line).1.feedAll lines).2 := rfl
    rw [hnotices, shown_append, ← List.append_assoc]
    exact ih (rests_feed h line)

theorem rests_start (c : Config) (a : Arguments) (server : Server) (disk : Disk)
    (clock : Instant) :
    Rests (Repl.start c a.session server disk clock).backend server
      (start c a server disk clock).1.repl (shown (start c a server disk clock).2) := by
  let first := Repl.start c a.session server disk clock
  have hfirst : Agrees first.backend server first [] [] := by
    refine ⟨⟨rfl, rfl, rfl⟩, ?_, rfl, rfl, rfl, rfl, Nat.zero_le _⟩
    simp [first, toHandle, Repl.start, Backend.setSession, Backend.connect]
  have happlied : Agrees first.backend server
      (first.perform (.applyPending (pendingPrompt? c.prompts a.prompt))).repl [] [] :=
    hfirst.perform rfl
  simp only [start, shown_cons]
  exact rests_await happlied

end Program
end Terminal
end Composer
