import Composer.Proofs.Terminal.Conversation
set_option autoImplicit false

/-!
# The transcript

The transcript that is kept along the way holds the messages of the lines that were typed and all
replies, in order. So it is the whole conversation unless a signal sent a question: such a question
is said but not recorded, although its reply is.
-/

namespace Composer.Terminal.Repl

variable {b : Backend} {server : Server} {r : Repl}

/-! ## The transcript along the way -/

/-- The lines that a transcript is to hold. -/
def keptLines (said : List Utterance) : List String :=
  (said.filter Utterance.isKept).map Utterance.line

theorem keptLines_append (first second : List Utterance) :
    keptLines (first ++ second) = keptLines first ++ keptLines second := by
  rw [keptLines, List.filter_append, List.map_append]
  rfl

/-- The lines for the replies among some events. -/
def replyLines (events : List BackendEvent) : List String :=
  (events.filterMap BackendEvent.reply?).map ("assistant: " ++ ·)

/-- The transcript together with the replies that wait, those in `pending` before the backend's own,
is what is to be kept of the conversation; and a session that is about to be announced is active. -/
structure Recorded (b : Backend) (server : Server) (r : Repl) (pending : List BackendEvent) : Prop
    extends Tracked b server r where
  transcript : r.transcript ++ replyLines (pending ++ r.backend.events) =
    keptLines (conversation b server r.log)
  assigned : ∀ id, .sessionAssigned id ∈ pending ++ r.backend.events →
    r.backend.sessionId = some id

variable {pending : List BackendEvent}

/-- The replies to calls wait behind those that waited before. -/
theorem replyLines_callAll (hlistening : r.backend.isListening = true) (calls : List Call) :
    replyLines (pending ++ (r.backend.callAll r.server calls).1.events) =
      replyLines (pending ++ r.backend.events) ++
        keptLines (r.backend.exchanges r.server .asker calls) := by
  have htells : Backend.Tells r.backend (r.backend.callAll r.server calls).1
      (r.backend.repliesTo r.server calls) := .callAll calls
  have hreplies := htells.replies hlistening
  rw [keptLines, Backend.kept_exchanges_asker, replyLines, replyLines, List.filterMap_append,
    List.filterMap_append, hreplies, List.map_append, List.map_append, List.map_append,
    List.append_assoc]

theorem assigned_callAll
    (h : ∀ id, .sessionAssigned id ∈ pending ++ r.backend.events → r.backend.sessionId = some id)
    (calls : List Call) :
    ∀ id, .sessionAssigned id ∈ pending ++ (r.backend.callAll r.server calls).1.events →
      (r.backend.callAll r.server calls).1.sessionId = some id := by
  have htells : Backend.Tells r.backend (r.backend.callAll r.server calls).1
      (r.backend.repliesTo r.server calls) := .callAll calls
  intro id hmem
  rcases List.mem_append.mp hmem with hmem | hmem
  · exact htells.keeps id (h id (List.mem_append_left _ hmem))
  · rcases htells.assigns id hmem with hbefore | ⟨-, hafter⟩
    · exact htells.keeps id (h id (List.mem_append_right _ hbefore))
    · exact hafter

namespace Recorded

/-- An operation that is no submit and switches to no other session. -/
theorem perform (h : Recorded b server r pending) {op : Operation} (hspeaker : op.speaker = .asker)
    (hconnected : op.connected r.backend = r.backend) :
    Recorded b server (r.perform op).repl pending := by
  have hconnection : (op.connected (replay b server r.log).1).calm = r.backend.calm := by
    rw [op.calm_connected, h.connection, ← op.calm_connected, hconnected]
  obtain ⟨htracked, hsaid⟩ := tracked_perform h.listening hconnection h.served
  refine ⟨htracked, ?_, assigned_callAll h.assigned _⟩
  rw [hsaid, hspeaker, keptLines_append, ← h.transcript, List.append_assoc]
  exact congrArg (r.transcript ++ ·) (replyLines_callAll h.listening _)

/-- Several such operations. -/
theorem performAll (h : Recorded b server r pending) {ops : List Operation}
    (hops : ∀ op ∈ ops, op.speaker = .asker ∧ ∀ b, op.connected b = b) :
    Recorded b server (r.performAll ops).repl pending := by
  induction ops generalizing r with
  | nil => exact h
  | cons op ops ih =>
    obtain ⟨hop, hops⟩ := List.forall_mem_cons.mp hops
    exact ih (h.perform hop.1 (hop.2 _)) hops

/-- The input and the bus take no part. -/
theorem of_eq {r' : Repl} (h : Recorded b server r pending) (hbackend : r'.backend = r.backend)
    (hserver : r'.server = r.server) (hlog : r'.log = r.log)
    (htranscript : r'.transcript = r.transcript) : Recorded b server r' pending := by
  refine ⟨⟨?_, ?_, ?_⟩, ?_, ?_⟩
  · rw [hbackend]
    exact h.listening
  · rw [hbackend, hlog]
    exact h.connection
  · rw [hserver, hlog]
    exact h.served
  · rw [hbackend, hlog, htranscript]
    exact h.transcript
  · rw [hbackend]
    exact h.assigned

/-! ### What has arrived -/

/-- A reply goes from the events into the transcript; any other event is no part of it. -/
theorem handleEvent {e : BackendEvent} (h : Recorded b server r (e :: pending)) :
    Recorded b server (r.handleEvent e).repl pending := by
  have hrest : ∀ id, .sessionAssigned id ∈ pending ++ r.backend.events →
      r.backend.sessionId = some id :=
    fun id hmem => h.assigned id (List.mem_cons_of_mem _ hmem)
  have hother : e.reply? = none → Recorded b server r pending := by
    intro hnone
    refine ⟨h.toTracked, ?_, hrest⟩
    rw [← h.transcript, replyLines, replyLines, List.cons_append, List.filterMap_cons_none hnone]
  cases e with
  | notification n => exact hother rfl
  | responding isResponding => exact (hother rfl).perform rfl rfl
  | artifactsChanged => exact hother rfl
  | sessionAssigned id =>
    -- the session that is observed is active already
    have hactive : r.backend.sessionId = some id := h.assigned id List.mem_cons_self
    refine (hother rfl).perform rfl ?_
    simp only [Operation.connected, ← hactive]
  | reply text =>
    refine ⟨⟨h.listening, h.connection, h.served⟩, ?_, hrest⟩
    have htranscript := h.transcript
    simp only [replyLines, List.cons_append, List.filterMap_cons, BackendEvent.reply?,
      List.map_cons] at htranscript
    simpa only [replyLines, Repl.handleEvent, List.append_assoc, List.singleton_append]
      using htranscript

theorem handleEvents {events : List BackendEvent} (h : Recorded b server r (events ++ pending)) :
    Recorded b server (r.handleEvents events).repl pending := by
  induction events generalizing r with
  | nil => exact h
  | cons e events ih => exact ih h.handleEvent

/-- Taking the events makes them those that are handled first. -/
theorem drainEvents (h : Recorded b server r []) : Recorded b server r.drainEvents.repl [] := by
  have htaken : Recorded b server { r with backend := r.backend.takeEvents.2 }
      (r.backend.events ++ []) := by
    refine ⟨⟨h.listening, h.connection, h.served⟩, ?_, ?_⟩
    · simpa [Backend.takeEvents] using h.transcript
    · simpa [Backend.takeEvents] using h.assigned
  exact htaken.handleEvents

theorem drainSignals (h : Recorded b server r []) : Recorded b server r.drainSignals.repl [] := by
  have hbus : ∀ bus, Recorded b server { r with bus } [] := fun _ => h.of_eq rfl rfl rfl rfl
  refine (hbus _).performAll ?_
  intro op hop
  obtain ⟨signal, -, rfl⟩ := List.mem_map.mp hop
  exact ⟨rfl, fun _ => rfl⟩

theorem drainEffects (h : Recorded b server r []) : Recorded b server r.drainEffects.repl [] := by
  simp only [Repl.drainEffects]
  exact h.of_eq rfl rfl rfl rfl

theorem pump (h : Recorded b server r []) : Recorded b server r.pump.repl [] := by
  simp only [Repl.pump]
  exact h.drainEvents.drainSignals.drainEvents.drainEffects

end Recorded

/-! ### Between two lines -/

/-- Handling events makes no calls. -/
@[simp] theorem backend_handleEvents (events : List BackendEvent) :
    (r.handleEvents events).repl.backend = r.backend := by
  induction events generalizing r with
  | nil => rfl
  | cons e events ih =>
    have hfirst : (r.handleEvent e).repl.backend = r.backend := by
      cases e <;> rfl
    rw [← hfirst]
    exact ih

theorem events_drainEvents (r : Repl) : r.drainEvents.repl.backend.events = [] := by
  have hbackend : r.drainEvents.repl.backend = r.backend.takeEvents.2 :=
    backend_handleEvents r.backend.events
  rw [hbackend]
  rfl

theorem events_pump : r.pump.repl.backend.events = [] := by
  simp only [pump, drainEffects, events_drainEvents]

/-- A state between two lines: no event waits. -/
structure Settled (b : Backend) (server : Server) (r : Repl) : Prop
    extends Recorded b server r [] where
  quiet : r.backend.events = []

theorem Recorded.settled (h : Recorded b server r []) : Settled b server r.pump.repl :=
  ⟨h.pump, events_pump⟩

/-- In a settled state the transcript is what is to be kept. -/
theorem Settled.transcript_eq (h : Settled b server r) :
    r.transcript = keptLines (conversation b server r.log) := by
  have htranscript := h.transcript
  rw [h.quiet] at htranscript
  simpa [replyLines] using htranscript

/-- An edit makes no calls. -/
theorem backend_performAll_of_edits {ops : List Operation} (h : ∀ op ∈ ops, op.isEdit = true) :
    (r.performAll ops).repl.backend = r.backend := by
  induction ops generalizing r with
  | nil => rfl
  | cons op ops ih =>
    obtain ⟨hop, hops⟩ := List.forall_mem_cons.mp h
    have hfirst : (r.perform op).repl.backend = r.backend := by
      cases op with
      | changeText text cursor => rfl
      | closeMenu => rfl
      | _ => exact absurd hop (by simp [Operation.isEdit])
    rw [← hfirst]
    exact ih hops

theorem neutral_of_isPlain {op : Operation} (h : op.isPlain = true) :
    op.speaker = .asker ∧ ∀ b, op.connected b = b := by
  cases op with
  | submit => exact absurd h (by simp [Operation.isPlain])
  | observeSession id => exact absurd h (by simp [Operation.isPlain])
  | _ => exact ⟨rfl, fun _ => rfl⟩

theorem Settled.edits (h : Settled b server r) {ops : List Operation}
    (hops : ∀ op ∈ ops, op.isEdit = true) : Settled b server (r.performAll ops).repl := by
  refine ⟨h.toRecorded.performAll ?_, ?_⟩
  · exact fun op hop => neutral_of_isPlain (Operation.isPlain_of_isEdit (hops op hop))
  · rw [backend_performAll_of_edits hops]
    exact h.quiet

/-! ### Sending -/

/-- Sending leaves everything as it is, or submits; the message of a successful submit is
recorded. -/
theorem send_cases (r : Repl) :
    r.send.repl = r ∨
    ((r.input.submit r.session).result = true ∧
      r.send.repl = { (r.perform .submit).repl with
        transcript := r.transcript ++ ["user: " ++ r.input.draft.message] }) ∨
    ((r.input.submit r.session).result = false ∧ r.send.repl = (r.perform .submit).repl) := by
  cases hnothing : r.input.draft.isBlank && r.input.files.isEmpty with
  | true => exact .inl (by simp [send, hnothing, tell])
  | false =>
    refine .inr ?_
    cases hsent : (r.input.submit r.session).result with
    | true =>
      refine .inl ⟨rfl, ?_⟩
      simp only [send, hnothing, hsent]
      rfl
    | false =>
      refine .inr ⟨rfl, ?_⟩
      simp only [send, hnothing, hsent]
      rfl

/-- A submit says its message if it is successful, and has its replies either way. -/
theorem keptLines_submit (r : Repl) :
    keptLines (r.backend.exchanges r.server .typist (r.input.submit r.session).calls) =
      (if (r.input.submit r.session).result then ["user: " ++ r.input.draft.message] else [])
        ++ keptLines (r.backend.exchanges r.server .asker (r.input.submit r.session).calls) := by
  rcases r.input.submit_cases r.session with ⟨-, heq⟩ | ⟨-, hok, heq⟩ | ⟨-, e, herror, heq⟩
  · rw [heq]
    rfl
  · obtain ⟨session, reply, hid, hanswer⟩ := r.backend.answer_of_submit_ok r.server hok
    rw [heq]
    simp only [Backend.exchanges, Backend.exchange_submit_of_ok hid hanswer]
    rfl
  · have hanswer := r.backend.answer_of_submit_error r.server herror
    rw [heq]
    simp only [Backend.exchanges, Backend.exchange_submit_of_error hanswer]
    rfl

/-- After a submit the transcript is kept if its message is added on success. -/
theorem Settled.submit (h : Settled b server r) (lines : List String) (hlines : lines =
      if (r.input.submit r.session).result then ["user: " ++ r.input.draft.message] else []) :
    Recorded b server
      { (r.perform .submit).repl with transcript := r.transcript ++ lines } [] := by
  have hconnection : (Operation.submit.connected (replay b server r.log).1).calm =
      r.backend.calm := h.connection
  obtain ⟨htracked, hsaid⟩ := tracked_perform h.listening hconnection h.served
  refine ⟨⟨htracked.listening, htracked.connection, htracked.served⟩, ?_,
    assigned_callAll h.assigned _⟩
  let calls := (r.input.submit r.session).calls
  let answered := (r.backend.callAll r.server calls).1.events
  -- no earlier reply waits, so the only ones behind the message are its own
  have hreplies : replyLines ([] ++ answered) =
      keptLines (r.backend.exchanges r.server .asker calls) := by
    have hbehind : replyLines ([] ++ answered) = replyLines ([] ++ r.backend.events) ++
        keptLines (r.backend.exchanges r.server .asker calls) :=
      replyLines_callAll h.listening calls
    rw [hbehind, h.quiet]
    rfl
  calc (r.transcript ++ lines) ++ replyLines ([] ++ answered)
      = keptLines (conversation b server r.log) ++
          (lines ++ keptLines (r.backend.exchanges r.server .asker calls)) := by
        rw [hreplies, h.transcript_eq, List.append_assoc]
    _ = keptLines (conversation b server r.log) ++
          keptLines (r.backend.exchanges r.server .typist calls) := by
        rw [hlines, keptLines_submit]
    _ = keptLines (conversation b server (r.perform .submit).repl.log) := by
        rw [hsaid, keptLines_append]
        rfl

/-- A typed message goes into the transcript before its reply, which is yet to be handled. -/
theorem Settled.send (h : Settled b server r) : Recorded b server r.send.repl [] := by
  rcases r.send_cases with heq | ⟨hsent, heq⟩ | ⟨hsent, heq⟩
  · rw [heq]
    exact h.toRecorded
  · have hmessage := h.submit ["user: " ++ r.input.draft.message] (by rw [hsent]; rfl)
    rw [heq]
    exact hmessage
  · have hnothing := h.submit [] (by rw [hsent]; rfl)
    rw [List.append_nil] at hnothing
    rw [heq]
    exact hnothing

/-! ### Lines -/

/-- The state in another session, before the input observes it. -/
def within (r : Repl) (id : Option String) : Repl :=
  { r with backend := { r.backend with sessionId := id } }

/-- The command's id is not blank, so the backend takes it as the input observes it. -/
theorem repl_switchSession {id : Option String}
    (hid : ∀ given, id = some given → Text.isBlank given = false) :
    (r.switchSession id).repl = ((r.within id).perform (.observeSession id)).repl := by
  have hset : r.backend.setSession id = (r.within id).backend := by
    cases id with
    | none => rfl
    | some given =>
      simp only [Backend.setSession, Text.nonBlank?_of_not_isBlank (hid given rfl), within]
  simp only [switchSession, hset]
  rfl

/-- A replay takes the session that is observed, too. -/
theorem Tracked.connection_within (h : Tracked b server r) (id : Option String) :
    ((Operation.observeSession id).connected (replay b server (r.within id).log).1).calm =
      (r.within id).backend.calm := by
  have hlog : (r.within id).log = r.log := rfl
  rw [hlog, Operation.calm_connected, h.connection]
  rfl

/-- A switch says nothing, and leaves the transcript as it is. -/
theorem Settled.switchSession (h : Settled b server r) {id : Option String}
    (hid : ∀ given, id = some given → Text.isBlank given = false) :
    Recorded b server (r.switchSession id).repl [] := by
  let there := r.within id
  have hswitch : (r.switchSession id).repl = (there.perform (.observeSession id)).repl :=
    repl_switchSession hid
  have hserved : (replay b server there.log).2 = there.server := h.served
  obtain ⟨htracked, hsaid⟩ :=
    tracked_perform (r := there) h.listening (h.connection_within id) hserved
  have hquiet : (there.perform (.observeSession id)).repl.backend.events = [] := h.quiet
  rw [hswitch]
  refine ⟨htracked, ?_, ?_⟩
  · calc r.transcript ++ replyLines ([] ++ (there.perform (.observeSession id)).repl.backend.events)
        = keptLines (conversation b server r.log) := by
          rw [hquiet, h.transcript_eq]
          exact List.append_nil _
      _ = keptLines (conversation b server (there.perform (.observeSession id)).repl.log) := by
          rw [hsaid, keptLines_append]
          exact (List.append_nil _).symm
  · rw [hquiet]
    simp

/-- Whatever a line does, the transcript is kept. -/
theorem Settled.move (h : Settled b server r) {r' : Repl} (hmove : Move r r') :
    Recorded b server r' [] := by
  cases hmove with
  | plain ops hops =>
    exact h.toRecorded.performAll fun op hop => neutral_of_isPlain (hops op hop)
  | switch id hid => exact h.switchSession hid
  | publish signal => exact h.toRecorded.of_eq rfl rfl rfl rfl
  | author ops hops command =>
    exact (h.edits hops).toRecorded.perform rfl rfl
  | send ops hops => exact (h.edits hops).send

theorem Settled.handleLine (h : Settled b server r) (initial line : String) :
    Recorded b server (r.handleLine initial line).repl [] := by
  rcases r.handled_handleLine initial line with ⟨-, heq⟩ | ⟨-, hmove⟩
  · rw [heq]
    exact h.toRecorded
  · exact h.move hmove

end Composer.Terminal.Repl

namespace Composer.Terminal.Program

open Repl

variable {b : Backend} {server : Server} {r : Repl} {p : Program}

/-! ### The program -/

/-- Completing a dialog makes no calls. -/
theorem settled_answer (h : Settled b server r) (answers : VariableValues) :
    Settled b server (answer r answers).repl :=
  ⟨h.toRecorded.perform rfl rfl, h.quiet⟩

/-- After what has arrived, a dialog that asks for nothing is completed at once. -/
theorem await_cases (r : Repl) :
    (await r).1.repl = r.pump.repl ∨
    ∃ answers, (await r).1.repl = (answer r.pump.repl answers).repl := by
  simp only [await]
  split
  · exact .inl rfl
  · split
    · exact .inr ⟨[], rfl⟩
    · exact .inl rfl

theorem settled_await (h : Recorded b server r []) : Settled b server (await r).1.repl := by
  rcases await_cases r with heq | ⟨answers, heq⟩
  · rw [heq]
    exact h.settled
  · rw [heq]
    exact settled_answer h.settled answers

/-- An answer is only noted, or it is the last one and completes the dialog. -/
theorem takeAnswer_cases (p : Program) (q : Questions) (line : String) :
    (p.takeAnswer q line).1.repl = p.repl ∨
    (p.takeAnswer q line).1.repl = (await p.repl).1.repl ∨
    ∃ answers, (p.takeAnswer q line).1.repl = (await (answer p.repl answers).repl).1.repl := by
  simp only [takeAnswer]
  split
  · exact .inr (.inl rfl)
  · rename_i name others hnext
    split
    · exact .inr (.inr ⟨q.answers ++ [(name, Text.trim line)], rfl⟩)
    · exact .inl rfl

theorem settled_takeAnswer (h : Settled b server p.repl) (q : Questions) (line : String) :
    Settled b server (p.takeAnswer q line).1.repl := by
  rcases p.takeAnswer_cases q line with heq | heq | ⟨answers, heq⟩
  · rw [heq]
    exact h
  · rw [heq]
    exact settled_await h.toRecorded
  · rw [heq]
    exact settled_await (settled_answer h answers).toRecorded

/-- A line is followed by what has arrived, unless it ends the program. -/
theorem takeLine_cases (p : Program) (line : String) :
    (p.takeLine line).1.repl =
      (await (p.repl.handleLine p.repl.input.draft.text line).repl).1.repl ∨
    ((p.repl.handleLine p.repl.input.draft.text line).result = .ok false ∧
      (p.takeLine line).1.repl = (p.repl.handleLine p.repl.input.draft.text line).repl) := by
  unfold takeLine
  generalize p.repl.handleLine p.repl.input.draft.text line = told
  obtain ⟨result, repl, notices⟩ := told
  cases result with
  | error e => exact .inl rfl
  | ok goes =>
    cases goes with
    | true => exact .inl rfl
    | false => exact .inr ⟨rfl, rfl⟩

theorem settled_takeLine (h : Settled b server p.repl) (line : String) :
    Settled b server (p.takeLine line).1.repl := by
  rcases p.takeLine_cases line with heq | ⟨hquit, heq⟩
  · rw [heq]
    exact settled_await (h.handleLine _ line)
  · rw [heq]
    rcases p.repl.handled_handleLine p.repl.input.draft.text line with ⟨-, hsame⟩ | ⟨hgoes, -⟩
    · rw [hsame]
      exact h
    · exact absurd hquit hgoes

/-- The step lemma for the program. -/
theorem settled_feed (h : Settled b server p.repl) (line : String) :
    Settled b server (p.feed line).1.repl := by
  unfold feed
  split
  · exact h
  · split
    · exact settled_takeAnswer h _ line
    · exact settled_takeLine h line

/-- The run lemma for the program. -/
theorem settled_feedAll (h : Settled b server p.repl) (lines : List String) :
    Settled b server (p.feedAll lines).1.repl := by
  induction lines generalizing p with
  | nil => exact h
  | cons line lines ih => exact ih (settled_feed h line)

theorem settled_start (c : Config) (a : Arguments) (server : Server) (disk : Disk)
    (clock : Instant) :
    Settled (Repl.start c a.session server disk clock).backend server
      (start c a server disk clock).1.repl := by
  let first := Repl.start c a.session server disk clock
  have hfirst : Recorded first.backend server first [] :=
    ⟨⟨rfl, rfl, rfl⟩, rfl, by simp [first, Repl.start, Backend.setSession, Backend.connect]⟩
  simp only [start]
  exact settled_await (hfirst.perform rfl rfl)

/-- What was said until the program waits for its next line. -/
def said (c : Config) (a : Arguments) (server : Server) (disk : Disk) (clock : Instant)
    (lines : List String) : List Utterance :=
  conversation (Repl.start c a.session server disk clock).backend server
    ((start c a server disk clock).1.feedAll lines).1.repl.log

theorem transcript_feedAll (c : Config) (a : Arguments) (server : Server) (disk : Disk)
    (clock : Instant) (lines : List String) :
    ((start c a server disk clock).1.feedAll lines).1.repl.transcript =
      ((said c a server disk clock lines).filter Utterance.isKept).map Utterance.line := by
  have hsettled := settled_feedAll (settled_start c a server disk clock) lines
  exact hsettled.transcript_eq

/-- Whatever lines are read and however the server answers, the transcript holds what was said apart
from the questions of signals; so it is the whole conversation only if no signal sent one. -/
theorem transcript_eq_said_iff (c : Config) (a : Arguments) (server : Server) (disk : Disk)
    (clock : Instant) (lines : List String) :
    let p := ((start c a server disk clock).1.feedAll lines).1
    let said := said c a server disk clock lines
    p.repl.transcript = (said.filter fun u => u.speaker != .asker).map Utterance.line ∧
    (p.repl.transcript = said.map Utterance.line ↔ ∀ u ∈ said, u.speaker ≠ .asker) := by
  intro p said
  have hkept : p.repl.transcript = (said.filter Utterance.isKept).map Utterance.line :=
    transcript_feedAll c a server disk clock lines
  refine ⟨hkept, ?_⟩
  rw [hkept]
  constructor
  · intro hall u hu
    have hlength : (said.filter Utterance.isKept).length = said.length := by
      simpa using congrArg List.length hall
    have hu' := List.length_filter_eq_length_iff.mp hlength u hu
    simpa [Utterance.isKept] using hu'
  · intro hall
    rw [List.filter_eq_self.mpr]
    intro u hu
    simpa [Utterance.isKept] using hall u hu

/-- A run in a session `s` of a server on this machine that answers every message, without a
reply. -/
def localRun (lines : List String) : Program :=
  let c : Config := { api := { baseUrl := "http://[::1]" } }
  let server : Server := { authority := "[::1]" }
  ((start c { session := some "s" } server {} ⟨0, 0⟩).1.feedAll lines).1

/-- What is said in such a run. -/
def localSaid (lines : List String) : List Utterance :=
  said { api := { baseUrl := "http://[::1]" } } { session := some "s" } { authority := "[::1]" } {}
    ⟨0, 0⟩ lines

/-- A question that a signal sends arrives, and the transcript knows nothing of it. -/
theorem question_sent_unrecorded :
    localSaid [":followup x -- hi"] =
      [{ speaker := .asker, session := "s", text := "hi\n\nRegarding this selection:\n> x" }] ∧
    (localRun [":followup x -- hi"]).repl.transcript = [] := by
  decide +kernel

end Composer.Terminal.Program
