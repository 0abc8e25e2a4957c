import Composer.Proofs.Terminal.Agreement
set_option autoImplicit false

/-!
# Sessions that are assigned

A paste that is stored while no session is active may get a session assigned. The input observes it
before the next line; as it observed none before, nothing of what was composed is lost.
-/

namespace Composer

/-! ## At the backend -/

/-- An upload without a session takes the one that was created for it. -/
theorem Backend.upload_of_assigned {b : Backend} {server : Server} {file : ArtifactUpload}
    {artifact : ArtifactRef} {id : String} (hlistening : b.isListening = true)
    (hnone : b.sessionId = none) (hupload : (b.upload server file none).1 = .ok artifact)
    (hassigned : artifact.sessionId = some id) :
    (b.upload server file none).2.1 =
      { b with sessionId := some id, events := b.events ++ [.sessionAssigned id] } := by
  cases hanswer : (server.post b.artifactsUrl (uploadJson file none)).1.bind artifactIn with
  | error e =>
    simp only [upload, hanswer] at hupload
    exact absurd hupload (by simp)
  | ok a =>
    simp only [upload, hanswer] at hupload ⊢
    obtain rfl := Except.ok.inj hupload
    simp only [adopt, hnone, hassigned, emit, hlistening, if_true]

namespace Terminal

namespace Repl

variable {b : Backend} {server : Server} {r : Repl} {seen : List BackendEvent}

/-! ## Between two lines -/

/-- Where no signal waits, the events alone are handled before the next line. -/
theorem pump_of_isStill (h : r.IsStill) :
    r.pump.repl.backend = { r.backend with events := [] } ∧
    r.pump.repl.input = { r.drainEvents.repl.input with effects := {} } := by
  let first := r.drainEvents.repl
  obtain ⟨hbus, hsubscription⟩ := bus_drainEvents r
  have hfirst : first.backend = { r.backend with events := [] } :=
    backend_handleEvents r.backend.events
  have hnothing : (first.bus.receiveAll first.subscription first.bus.capacity).1 = [] := by
    have hwaiting : first.bus.waiting first.subscription = [] := by
      rw [hbus, hsubscription]
      exact h
    rw [(first.bus.receiveAll_spec _ _).1, hwaiting]
    exact List.take_nil
  let bus := (first.bus.receiveAll first.subscription first.bus.capacity).2
  have hsignals : first.drainSignals.repl = { first with bus } := by
    simp only [drainSignals, hnothing, List.map_nil, performAll, bus]
  have hquiet : first.drainSignals.repl.backend.events = [] := by
    rw [hsignals, hfirst]
  have hlate : first.drainSignals.repl.drainEvents.repl =
      { first with bus, backend := { first.backend with events := [] } } := by
    simp only [drainEvents, Backend.takeEvents, hquiet, handleEvents]
    rw [hsignals]
  have hpump : r.pump.repl = first.drainSignals.repl.drainEvents.repl.drainEffects.repl :=
    repl_pump r
  rw [hpump, hlate, drainEffects, hfirst]
  exact ⟨rfl, rfl⟩

/-! ## Storing a paste -/

/-- The input after a paste was stored: the form is closed, and a badge stands for the artifact. -/
def storing (r : Repl) (file : ArtifactUpload) (artifact : ArtifactRef) : MessageInput :=
  let badge : Badge :=
    { id := r.session.freshId, artifact, displayName := file.name, createdAt := r.session.now }
  { r.input with overlay := .none, badges := r.input.badges ++ [badge] }.request .focusInput

/-- What a stored paste leaves to be handled before the next line: the session that was created for
it, and then that the list of artifacts is out of date. -/
theorem save_of_assigned {title content id : String} {mime : MimeChoice} {artifact : ArtifactRef}
    (hlistening : r.backend.isListening = true) (hover : r.input.overlay = .artifactForm content)
    (hnone : r.backend.sessionId = none)
    (hupload : (r.backend.upload r.server (.ofPaste title mime none content) none).1 = .ok artifact)
    (hassigned : artifact.sessionId = some id) :
    (r.save title mime).repl = (r.perform (.savePaste title mime none)).repl ∧
    (r.save title mime).repl.input = r.storing (.ofPaste title mime none content) artifact ∧
    (r.save title mime).repl.backend =
      { r.backend with
        sessionId := some id,
        events := r.backend.events ++ [.sessionAssigned id, .artifactsChanged] } := by
  let file := ArtifactUpload.ofPaste title mime none content
  have hsave : (r.save title mime).repl = (r.perform (.savePaste title mime none)).repl := by
    simp only [save, hover]
    rfl
  have hid : r.session.id = none := hnone
  have hgranted : r.session.upload file r.session.id = .ok artifact := by
    simp only [session, Backend.session, hnone]
    exact hupload
  have hstored : ∃ result, r.input.savePaste r.session title mime none =
      { result, input := r.storing file artifact, calls := [.upload file none, .refresh] } := by
    rcases r.input.savePaste_cases r.session title mime none with
      ⟨hnothing, -⟩ | ⟨content', hover', ⟨artifact', hok, heq⟩ | ⟨e, herror, -⟩⟩
    · rw [hover] at hnothing
      exact absurd hnothing (by simp [Overlay.pending?])
    · obtain rfl := Overlay.artifactForm.inj (hover.symm.trans hover')
      obtain rfl := Except.ok.inj (hgranted.symm.trans hok)
      rw [hid] at heq
      exact ⟨_, heq⟩
    · obtain rfl := Overlay.artifactForm.inj (hover.symm.trans hover')
      exact absurd (hgranted.symm.trans herror) (by simp)
  obtain ⟨result, hstored⟩ := hstored
  refine ⟨hsave, ?_, ?_⟩
  · rw [hsave]
    exact congrArg Reaction.input hstored
  · rw [hsave]
    simp only [perform, MessageInput.perform, hstored, Backend.callAll_cons, Backend.callAll_nil,
      Backend.call, Backend.upload_of_assigned hlistening hnone hupload hassigned, file,
      Backend.refresh, Backend.emit, hlistening, if_true, List.append_assoc, List.cons_append,
      List.nil_append]

/-- The input observes the session that was assigned, and keeps what was composed. -/
theorem Rests.pump_save (h : Rests b server r seen) {title content id : String} {mime : MimeChoice}
    {artifact : ArtifactRef} (hover : r.input.overlay = .artifactForm content)
    (hnone : r.backend.sessionId = none)
    (hupload : (r.backend.upload r.server (.ofPaste title mime none content) none).1 = .ok artifact)
    (hassigned : artifact.sessionId = some id) :
    let later := (r.save title mime).repl.pump.repl
    later.backend.sessionId = some id ∧
    later.input =
      { r.storing (.ofPaste title mime none content) artifact with
        tracker := { current := some id }, effects := {} } := by
  intro later
  let saved := (r.save title mime).repl
  obtain ⟨hsave, hinput, hbackend⟩ := save_of_assigned h.listening hover hnone hupload hassigned
  have hstill : saved.IsStill := by
    have hsaved : saved = (r.perform (.savePaste title mime none)).repl := hsave
    rw [IsStill, hsaved]
    exact h.still
  obtain ⟨hlater, hlater'⟩ := pump_of_isStill hstill
  have hevents : saved.backend.events = [.sessionAssigned id, .artifactsChanged] := by
    rw [hbackend, h.quiet]
    rfl
  have hobserved : saved.drainEvents.repl.input = (saved.input.observeSession (some id)).2 := by
    simp only [drainEvents, Backend.takeEvents, hevents]
    rfl
  have hunset : saved.input.tracker.current = none := by
    have hcurrent : r.input.tracker.current = r.backend.sessionId :=
      congrArg Situation.sessionId h.situation_eq
    rw [hinput]
    exact hcurrent.trans hnone
  refine ⟨?_, ?_⟩
  · rw [hlater, hbackend]
  · -- no session was observed before, so this is no change of session
    rw [hlater', hobserved, MessageInput.observeSession_of_unset hunset, hinput]

end Repl

namespace Program

open Repl

variable {b : Backend} {server : Server} {p : Program} {seen : List BackendEvent}

/-- A line stores the paste that waits while no session is active, and the answer is an artifact
in a session that was created for it. -/
structure StoresInto (p : Program) (line : String) (artifact : ArtifactRef) (id : String) :
    Prop where
  running : p.isRunning = true
  reading : p.questions = none
  unset : p.repl.backend.sessionId = none
  stored : ∃ text title mime content,
    commandIn? p.repl.input.draft.text.toList line.toList = some text ∧
    Command.ofChars text = .ok (.save title mime) ∧
    p.repl.input.overlay = .artifactForm content ∧
    (p.repl.backend.upload p.repl.server (.ofPaste title mime none content) none).1 = .ok artifact
  assigned : artifact.sessionId = some id

/-- Such a line is followed by what has arrived; no dialog is open then. -/
theorem feed_of_storesInto (h : Rests b server p.repl seen) {line id : String}
    {artifact : ArtifactRef} (hline : p.StoresInto line artifact id) :
    let later := (p.feed line).1.repl
    later.backend.sessionId = some id ∧ later.input.tracker.current = some id ∧
    later.input.draft = p.repl.input.draft ∧ later.input.files = p.repl.input.files ∧
    ∃ badge, badge.artifact = artifact ∧
      later.input.badges = p.repl.input.badges ++ [badge] := by
  intro later
  obtain ⟨text, title, mime, content, hcommand, hread, hover, hupload⟩ := hline.stored
  obtain ⟨hid, hinput⟩ := h.pump_save hover hline.unset hupload hline.assigned
  have hsaved : p.repl.handleLine p.repl.input.draft.text line = p.repl.save title mime := by
    simp only [handleLine, hcommand, hread, handleCommand]
  have hresult : (p.repl.save title mime).result = .ok true := by
    simp only [save, hover]
    rfl
  have hfeed : later = (await (p.repl.save title mime).repl).1.repl := by
    simp only [later, feed, hline.running, hline.reading, takeLine, hsaved, hresult]
    rfl
  have hclosed : (p.repl.save title mime).repl.pump.repl.input.overlay.dialog? = none := by
    rw [hinput]
    rfl
  have hlater : later = (p.repl.save title mime).repl.pump.repl := by
    rw [hfeed]
    simp only [await, hclosed]
    rfl
  rw [hlater, hinput]
  exact ⟨hid, rfl, rfl, rfl, _, rfl, rfl⟩

/-- Whenever the next line is awaited, the input has observed the active session and that no
response is in progress; nothing waits, and all that was told of has arrived, in order, at the
input or at the user. A session that is assigned to a paste that was stored is observed, and the
draft, the files and the badges with the new one are kept. -/
theorem input_agrees_along_run (c : Config) (a : Arguments) (server : Server) (disk : Disk)
    (clock : Instant) (lines : List String) :
    let started := start c a server disk clock
    let ran := started.1.feedAll lines
    let r := ran.1.repl
    let told := toldEvents (Repl.start c a.session server disk clock).backend server r.log
    (r.input.tracker.current = r.backend.sessionId ∧ r.input.wasResponding = false ∧
      r.backend.isResponding = false) ∧
    (r.backend.events = [] ∧ r.bus.waiting r.subscription = []) ∧
    r.log.filterMap LogEntry.observed? = told.filterMap BackendEvent.flag? ∧
    shown (started.2 ++ ran.2) = told.filter BackendEvent.isShown ∧
    ∀ line artifact id, ran.1.StoresInto line artifact id →
      let later := (ran.1.feed line).1.repl
      later.backend.sessionId = some id ∧ later.input.tracker.current = some id ∧
      later.input.draft = r.input.draft ∧ later.input.files = r.input.files ∧
      ∃ badge, badge.artifact = artifact ∧ later.input.badges = r.input.badges ++ [badge] := by
  intro started ran r told
  have hrests : Rests _ server r (shown started.2 ++ shown ran.2) :=
    rests_feedAll (rests_start c a server disk clock) lines
  have hsituation : r.input.situation = r.backend.situation := hrests.situation_eq
  have hresponding : r.input.wasResponding = r.backend.isResponding :=
    congrArg Situation.isResponding hsituation
  refine ⟨⟨?_, ?_, hrests.idle⟩, ⟨hrests.quiet, hrests.still⟩, hrests.observed_eq, ?_, ?_⟩
  · exact congrArg Situation.sessionId hsituation
  · exact hresponding.trans hrests.idle
  · rw [shown_append]
    exact hrests.shown_eq
  · intro line artifact id hline
    exact feed_of_storesInto hrests hline

/-- A configuration under which a paste of one character is large. -/
def strict : Config := { api := { baseUrl := "http://[::1]" }, paste := { charThreshold := 1 } }

/-- A server that creates a session `s` for the first artifact. -/
def creating : Server :=
  { authority := "[::1]",
    answers := [.response 200 (Utf8.encode "\x7b\"uri\": \"u\", \"sessionId\": \"s\"\x7d")] }

/-- A disk with one file, which holds one character. -/
def single : Disk := { nodes := [(["f"], .file [0x61] 0)] }

/-- The paste of the file is stored into a session that is observed at once. -/
theorem assigned_session_observed :
    let p := ((start strict {} creating single ⟨0, 0⟩).1.feedAll [":paste f"]).1
    let artifact : ArtifactRef := { uri := "u", sessionId := some "s" }
    p.StoresInto ":save t" artifact "s" ∧
    (p.feed ":save t").1.repl.input.tracker.current = some "s" ∧
    ∃ badge, badge.artifact = artifact ∧
      (p.feed ":save t").1.repl.input.badges = p.repl.input.badges ++ [badge] := by
  intro p artifact
  have hstores : p.StoresInto ":save t" artifact "s" := by
    refine ⟨by decide +kernel, by decide +kernel, by decide +kernel, ?_, rfl⟩
    exact ⟨":save t".toList, "t", .auto, "a", by decide +kernel, by decide +kernel,
      by decide +kernel, by decide +kernel⟩
  obtain ⟨-, -, -, -, hstored⟩ :=
    input_agrees_along_run strict {} creating single ⟨0, 0⟩ [":paste f"]
  obtain ⟨-, hcurrent, -, -, hbadge⟩ := hstored ":save t" artifact "s" hstores
  exact ⟨hstores, hcurrent, hbadge⟩

end Program
end Terminal
end Composer
