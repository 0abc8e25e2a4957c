import Composer.Proofs.MessageInput.Isolation
import Composer.Proofs.Terminal.Answers
import Composer.Proofs.Terminal.PasteCommand
set_option autoImplicit false

/-!
# A command behind the draft

A line is filled with the draft before the user goes on. A command that is typed behind it is found
whatever the draft is, and is carried out as if it stood alone. Most commands have nothing to do
with the draft, which is then as it was, also after what has arrived is handled.
-/

namespace Composer

/-! ## Operations -/

/-- Whether an operation has nothing to do with the draft. -/
def Operation.sparesDraft : Operation → Bool
  | .paste _ => true
  | .takeFiles _ => true
  | .removeFile _ => true
  | .removeBadge _ => true
  | .discardPaste => true
  | .savePaste _ _ _ => true
  | .cancelResponse => true
  | _ => false

namespace MessageInput

variable {m : MessageInput} {op : Operation}

theorem draft_perform_of_sparesDraft (h : op.sparesDraft = true) (session : Session) :
    (m.perform session op).input.draft = m.draft := by
  cases op with
  | paste clipboard =>
    rcases m.paste_cases session clipboard with
      ⟨-, heq⟩ | ⟨-, ⟨incoming, -, heq⟩ | ⟨text, -, ⟨-, heq⟩ | ⟨-, -, heq⟩ | ⟨-, -, heq⟩⟩⟩
    all_goals exact congrArg (fun r => r.2.draft) heq
  | takeFiles files =>
    rcases m.takeFiles_cases session files with ⟨-, heq⟩ | ⟨-, heq⟩
    all_goals exact congrArg (fun r => r.2.draft) heq
  | removeFile index => rfl
  | removeBadge id => rfl
  | discardPaste =>
    simp only [perform, discardPaste]
    split <;> rfl
  | savePaste title choice description =>
    rcases m.savePaste_cases session title choice description with
      ⟨-, heq⟩ | ⟨content, -, ⟨artifact, -, heq⟩ | ⟨e, -, heq⟩⟩
    all_goals exact congrArg (fun r => r.input.draft) heq
  | cancelResponse =>
    rcases m.cancelResponse_cases session with ⟨-, heq⟩ | ⟨-, -, heq⟩ | ⟨-, e, -, heq⟩
    all_goals exact congrArg (fun r => r.input.draft) heq
  | _ => exact absurd h (by simp [Operation.sparesDraft])

end MessageInput

namespace Terminal

/-! ## Finding the command -/

namespace Repl

/-- A command that is typed behind the draft, with white space between them, is found. -/
theorem commandIn?_behind {initial blank command : List Char}
    (hblank : Chars.isBlank blank = true) (hcolon : command.head? = some ':') :
    commandIn? initial (initial ++ blank ++ command) = some command := by
  have hcut : initial.isPrefixOf? (initial ++ (blank ++ command)) = some (blank ++ command) :=
    List.isPrefixOf?_eq_some_iff_append_eq.mpr rfl
  have htrim : Chars.trimStart (blank ++ command) = command := by
    rw [Chars.trimStart_blank_append hblank]
    cases command with
    | nil => rfl
    | cons c rest =>
      obtain rfl := Option.some.inj hcolon
      rfl
  rw [List.append_assoc]
  simp [commandIn?, hcut, htrim, hcolon, Option.filter_some]

/-! ## What a command does -/

/-- What a command may do to the state. -/
inductive Carried (r : Repl) : Command → Repl → Prop where
  | nothing (command : Command) : Carried r command r
  | spared (command : Command) {op : Operation} (h : op.sparesDraft = true) :
      Carried r command (r.perform op).repl
  | inserted {path t : String} (hfile : r.disk.text path = .ok t)
      (hsmall : r.input.classifier.classify t = .small) :
      Carried r (.paste path) (r.pasteText t).repl
  | switched (id : Option String) : Carried r (.session id) (r.switchSession id).repl
  | published (selection : String) (question : Option String) :
      Carried r (.followUp selection question)
        { r with bus := (r.bus.publish (.followUp selection question question.isSome)).2 }
  | context (text : Option String) :
      Carried r (.context text) (r.perform (.setContext text)).repl
  | said (text : String) : Carried r (.say text) (r.perform (.transcribe text)).repl

variable {r : Repl}

/-- A large text is left to the input. -/
theorem repl_pasteText_of_large {t : String} (h : r.input.classifier.classify t = .large) :
    (r.pasteText t).repl = (r.perform (.paste (.text t))).repl := by
  have houtcome : (r.input.paste r.session (.text t)).1 ≠ .insertDefault := by
    rcases r.input.paste_cases r.session (.text t) with
      ⟨-, heq⟩ | ⟨-, ⟨incoming, hfiles, -⟩ | ⟨text, htext, hsize⟩⟩
    · simp [heq]
    · exact absurd hfiles (by simp)
    · obtain rfl := Clipboard.text.inj htext
      rcases hsize with ⟨hsmall, -⟩ | ⟨-, -, heq⟩ | ⟨-, -, heq⟩
      · exact absurd (hsmall.symm.trans h) (by decide)
      · simp [heq]
      · simp [heq]
  unfold pasteText
  dsimp only
  split
  · rename_i hinsert
    exact absurd hinsert houtcome
  · rfl
  · rfl
  · rfl

theorem carried_handleCommand (r : Repl) (command : Command) :
    Carried r command (r.handleCommand command).repl := by
  cases command with
  | attach paths =>
    simp only [handleCommand, attach]
    split
    · exact .nothing _
    · exact .spared _ rfl
  | paste path =>
    simp only [handleCommand]
    split
    · exact .nothing _
    · rename_i t hfile
      cases hsize : r.input.classifier.classify t with
      | small => exact .inserted hfile hsize
      | large =>
        rw [repl_pasteText_of_large hsize]
        exact .spared _ rfl
  | save title mime =>
    simp only [handleCommand, save]
    split
    · exact .nothing _
    · exact .spared _ rfl
  | discard =>
    simp only [handleCommand]
    split
    · exact .nothing _
    · exact .spared _ rfl
  | files => exact .nothing _
  | remove index =>
    simp only [handleCommand]
    split
    · exact .nothing _
    · exact .spared _ rfl
  | unlink index =>
    simp only [handleCommand]
    split
    · exact .nothing _
    · exact .spared _ rfl
  | session id => exact .switched id
  | followUp selection question => exact .published selection question
  | context text => exact .context text
  | say text => exact .said text
  | cancel => exact .spared _ rfl
  | help => exact .nothing _
  | quit => exact .nothing _

/-- Whether a command may write in the draft at once. -/
def EditsDraft (r : Repl) : Command → Prop
  | .session _ => True
  | .say _ => True
  | .paste path =>
    ∃ t, r.disk.text path = .ok t ∧ r.input.classifier.classify t = .small
  | _ => False

/-- What is left of the draft, where a new context may be set. -/
structure DraftKept (before : Draft) (command : Command) (after : Draft) : Prop where
  text_kept : after.text = before.text
  cursor_kept : after.cursor = before.cursor
  context_kept : (∀ text, command ≠ .context text) → after.context = before.context

theorem draftKept_of_eq {before after : Draft} {command : Command} (h : after = before) :
    DraftKept before command after := by
  rw [h]
  exact ⟨rfl, rfl, fun _ => rfl⟩

/-- No message was called for, and nothing was said. -/
structure Silent (before after : Repl) : Prop where
  logged : ∃ done, after.log = before.log ++ done ∧ messagesIn done = []
  transcript_kept : after.transcript = before.transcript

theorem silent_of_eq {r' : Repl} (hlog : r'.log = r.log)
    (htranscript : r'.transcript = r.transcript) : Silent r r' :=
  ⟨⟨[], hlog.trans (List.append_nil _).symm, rfl⟩, htranscript⟩

/-- An operation that is not at sending calls for no message. -/
theorem silent_perform {op : Operation} (h : r.input.atSending? op = none) :
    Silent r (r.perform op).repl := by
  have hmessages := MessageInput.messages_perform_of_none h r.session
  refine ⟨⟨[{ op, calls := (r.input.perform r.session op).calls }], rfl, ?_⟩, rfl⟩
  simpa [messagesIn] using hmessages

namespace Carried

variable {command : Command} {r' : Repl}

theorem draftKept (h : Carried r command r') (hspares : ¬r.EditsDraft command) :
    DraftKept r.input.draft command r'.input.draft := by
  cases h with
  | nothing => exact draftKept_of_eq rfl
  | spared _ hop =>
    exact draftKept_of_eq (MessageInput.draft_perform_of_sparesDraft hop r.session)
  | inserted hfile hsmall => exact absurd ⟨_, hfile, hsmall⟩ hspares
  | switched id => exact absurd trivial hspares
  | published selection question => exact draftKept_of_eq rfl
  | context text => exact ⟨rfl, rfl, fun hother => absurd rfl (hother text)⟩
  | said text => exact absurd trivial hspares

/-- No command sends a message. -/
theorem silent (h : Carried r command r') : Silent r r' := by
  cases h with
  | nothing => exact silent_of_eq rfl rfl
  | @spared _ op hop =>
    have hsilent : r.input.atSending? op = none := by
      cases op with
      | submit => exact absurd hop (by simp [Operation.sparesDraft])
      | handleSignal signal => exact absurd hop (by simp [Operation.sparesDraft])
      | _ => rfl
    exact silent_perform hsilent
  | @inserted path t _ _ =>
    have hconfined := confined_pasteText r t
    obtain ⟨done, hlog, hquiet⟩ := hconfined.quiet
    have hnothing : done.flatMap LogEntry.calls = [] := by simpa using hquiet
    refine ⟨⟨done, hlog, ?_⟩, ?_⟩
    · rw [messagesIn, hnothing]
      rfl
    · rw [hconfined.rest_kept]
  | switched id =>
    let connected : Repl := { r with backend := r.backend.setSession id }
    have hsilent : Silent connected (connected.perform (.observeSession id)).repl :=
      silent_perform rfl
    exact ⟨hsilent.logged, hsilent.transcript_kept⟩
  | published selection question => exact silent_of_eq rfl rfl
  | context text => exact silent_perform rfl
  | said text => exact silent_perform rfl

end Carried

/-! ## What has arrived since -/

/-- An event leaves the draft alone if the session that it assigns, if it does, is the only one that
was seen. -/
theorem draft_handleEvent {given : Option String} {e : BackendEvent}
    (hassigned : ∀ id, e = .sessionAssigned id → some id = given)
    (hseen : r.input.tracker.current = none ∨ r.input.tracker.current = given) :
    (r.handleEvent e).repl.input.draft = r.input.draft ∧
      ((r.handleEvent e).repl.input.tracker.current = none ∨
        (r.handleEvent e).repl.input.tracker.current = given) := by
  cases e with
  | notification n => exact ⟨rfl, hseen⟩
  | artifactsChanged => exact ⟨rfl, hseen⟩
  | reply text => exact ⟨rfl, hseen⟩
  | responding isResponding =>
    have hdraft : (r.input.observeResponding isResponding).draft = r.input.draft := by
      simp only [MessageInput.observeResponding]
      split <;> rfl
    have htracker : (r.input.observeResponding isResponding).tracker = r.input.tracker := by
      simp only [MessageInput.observeResponding]
      split <;> rfl
    have hinput : (r.handleEvent (.responding isResponding)).repl.input =
        r.input.observeResponding isResponding := rfl
    rw [hinput, hdraft, htracker]
    exact ⟨rfl, hseen⟩
  | sessionAssigned id =>
    have hgiven := hassigned id rfl
    have hinput : (r.handleEvent (.sessionAssigned id)).repl.input =
        (r.input.observeSession (some id)).2 := rfl
    rw [hinput]
    rcases r.input.observeSession_cases (some id) with ⟨hreset, -⟩ | ⟨-, heq⟩
    · obtain ⟨hset, hother⟩ := (SessionTracker.requiresReset_transition_iff _).mp hreset
      exact absurd (hgiven.trans (hseen.resolve_left hset).symm) hother
    · rw [heq]
      exact ⟨rfl, .inr hgiven⟩

theorem draft_handleEvents {given : Option String} {events : List BackendEvent}
    (hassigned : ∀ id, .sessionAssigned id ∈ events → some id = given)
    (hseen : r.input.tracker.current = none ∨ r.input.tracker.current = given) :
    (r.handleEvents events).repl.input.draft = r.input.draft := by
  induction events generalizing r with
  | nil => rfl
  | cons e events ih =>
    obtain ⟨hdraft, hlater⟩ := draft_handleEvent (e := e)
      (fun id heq => hassigned id (heq ▸ List.mem_cons_self)) hseen
    have hrest : (r.handleEvents (e :: events)).repl =
        ((r.handleEvent e).repl.handleEvents events).repl := rfl
    rw [hrest, ih (fun id hmem => hassigned id (List.mem_cons_of_mem _ hmem)) hlater, hdraft]

/-- A command that neither edits the draft nor publishes a signal is one operation at most, which
observes nothing. -/
theorem Carried.eq_or_perform {command : Command} {r' : Repl} (h : Carried r command r')
    (hspares : ¬r.EditsDraft command)
    (hunpublished : ∀ selection question, command ≠ .followUp selection question) :
    r' = r ∨ ∃ op : Operation, op.isObservation = false ∧ r' = (r.perform op).repl := by
  cases h with
  | nothing => exact .inl rfl
  | @spared _ op hop =>
    refine .inr ⟨op, ?_, rfl⟩
    cases op with
    | observeSession id => exact absurd hop (by simp [Operation.sparesDraft])
    | observeResponding isResponding => exact absurd hop (by simp [Operation.sparesDraft])
    | _ => rfl
  | inserted hfile hsmall => exact absurd ⟨_, hfile, hsmall⟩ hspares
  | switched id => exact absurd trivial hspares
  | published selection question => exact absurd rfl (hunpublished selection question)
  | context text => exact .inr ⟨.setContext text, rfl, rfl⟩
  | said text => exact absurd trivial hspares

variable {b : Backend} {server : Server} {seen : List BackendEvent}

/-- Between two lines the input has seen the active session. An operation may have one assigned
where none was active, which leaves the draft alone. -/
theorem Rests.draft_pump_perform (h : Rests b server r seen) {op : Operation}
    (hop : op.isObservation = false) :
    (r.perform op).repl.pump.repl.input.draft = (r.perform op).repl.input.draft := by
  let done := (r.perform op).repl
  have hagrees : Agrees b server done [] seen := h.perform hop
  have htells : Backend.Tells r.backend done.backend _ :=
    .callAll (r.input.perform r.session op).calls
  have hcurrent : done.input.tracker.current = r.backend.sessionId := by
    have hsituation : done.input.situation = r.input.situation :=
      r.input.situation_perform r.session hop
    rw [h.situation_eq] at hsituation
    exact congrArg Situation.sessionId hsituation
  have hseen : done.input.tracker.current = none ∨
      done.input.tracker.current = done.backend.sessionId := by
    rw [hcurrent]
    cases hid : r.backend.sessionId with
    | none => exact .inl rfl
    | some id => exact .inr (htells.keeps id hid).symm
  have hassigned : ∀ id, .sessionAssigned id ∈ done.backend.events →
      some id = done.backend.sessionId :=
    fun id hmem => (hagrees.assigned id hmem).symm
  have hstill : done.IsStill := h.still
  have hinput := (pump_of_isStill hstill).2
  rw [hinput]
  exact draft_handleEvents (r := { done with backend := done.backend.takeEvents.2 }) hassigned hseen

theorem Rests.draft_pump (h : Rests b server r seen) :
    r.pump.repl.input.draft = r.input.draft := by
  have hinput := (pump_of_isStill h.still).2
  rw [drainEvents_of_quiet h.quiet] at hinput
  rw [hinput]

/-! ## The line -/

/-- What becomes of a line with a command in it. -/
structure TakesCommand (r : Repl) (command : String) (told : Told LineResult) : Prop where
  carried_out : ∀ known, Command.parse command = .ok known → told = r.handleCommand known
  refused : ∀ e, Command.parse command = .error e → told = r.fail (.badCommand e)
  /-- No part of the line is taken for a message. -/
  silent : Silent r told.repl
  draft_kept : ∀ known, Command.parse command = .ok known → ¬r.EditsDraft known →
    DraftKept r.input.draft known told.repl.input.draft

theorem handleLine_behind (r : Repl) (initial : String) {w c : String}
    (hblank : Text.isBlank w = true) (hcolon : c.toList.head? = some ':') :
    (∀ known, Command.parse c = .ok known →
      r.handleLine initial (initial ++ w ++ c) = r.handleCommand known) ∧
    ∀ e, Command.parse c = .error e →
      r.handleLine initial (initial ++ w ++ c) = r.fail (.badCommand e) := by
  have hfound : commandIn? initial.toList (initial ++ w ++ c).toList = some c.toList := by
    rw [String.toList_append, String.toList_append]
    exact commandIn?_behind hblank hcolon
  constructor
  · intro known hknown
    have hread : Command.ofChars c.toList = .ok known := hknown
    simp only [handleLine, hfound, hread]
  · intro e hfault
    have hread : Command.ofChars c.toList = .error e := hfault
    simp only [handleLine, hfound, hread]

theorem takesCommand_behind (r : Repl) (initial : String) {w c : String}
    (hblank : Text.isBlank w = true) (hcolon : c.toList.head? = some ':') :
    r.TakesCommand c (r.handleLine initial (initial ++ w ++ c)) := by
  obtain ⟨hcarried, hrefused⟩ := r.handleLine_behind initial hblank hcolon
  cases hread : Command.parse c with
  | ok known =>
    refine ⟨hcarried, hrefused, ?_, fun other hother hspares => ?_⟩
    · rw [hcarried known hread]
      exact (carried_handleCommand r known).silent
    · rw [hcarried other hother]
      exact (carried_handleCommand r other).draftKept hspares
  | error e =>
    refine ⟨hcarried, hrefused, ?_, fun known hknown => ?_⟩
    · rw [hrefused e hread]
      exact silent_of_eq rfl rfl
    · exact absurd (hread.symm.trans hknown) (by simp)

end Repl

/-! ## The program -/

namespace Program

/-- A dialog that is open has something to ask for, so nothing is done before the next line but to
handle what has arrived. -/
theorem repl_await {r : Repl} (h : r.Sound) : (await r).1.repl = r.pump.repl := by
  have hlater := ((Loop.valid_of_sound h []).leads (Loop.leads_pump h)).sound
  cases hdialog : r.pump.repl.input.overlay.dialog? with
  | none => rw [await_of_no_dialog hdialog]
  | some dialog =>
    have hopen := Overlay.dialog?_eq_some_iff.mp hdialog
    rw [await_of_dialog hopen (hlater.dialog hopen)]

/-- After a line what has arrived is handled, unless the line ended the program. -/
theorem repl_feed {r : Repl} (h : r.Sound) (line : String) :
    let told := (r.handleLine r.input.draft.text line).repl
    let later := (feed { repl := r } line).1.repl
    later = told ∨ later = told.pump.repl := by
  intro told later
  unfold later
  rw [feed_line]
  by_cases hquit : (r.handleLine r.input.draft.text line).result = .ok false
  · rw [takeLine_of_quit { repl := r } hquit]
    exact .inl rfl
  · rw [takeLine_of_goes { repl := r } hquit]
    exact .inr (repl_await (h.handleLine r.input.draft.text line))

section AtPrompt

variable {r : Repl} {b : Backend} {server : Server} {seen : List BackendEvent} {w c : String}

/-- A command that neither edits the draft nor publishes a signal has left it alone when the next
line is read. -/
theorem draftKept_feed (hsound : r.Sound) (hrests : Repl.Rests b server r seen)
    (hblank : Text.isBlank w = true) (hcolon : c.toList.head? = some ':') {known : Command}
    (hread : Command.parse c = .ok known) (hspares : ¬r.EditsDraft known)
    (hunpublished : ∀ selection question, known ≠ .followUp selection question) :
    Repl.DraftKept r.input.draft known
      (feed { repl := r } (r.input.draft.text ++ w ++ c)).1.repl.input.draft := by
  have hline := (r.handleLine_behind r.input.draft.text hblank hcolon).1 known hread
  have hcarried := Repl.carried_handleCommand r known
  have hkept := hcarried.draftKept hspares
  rcases repl_feed hsound (r.input.draft.text ++ w ++ c) with heq | heq
  · rw [heq, hline]
    exact hkept
  · have hpump : (r.handleCommand known).repl.pump.repl.input.draft =
        (r.handleCommand known).repl.input.draft := by
      rcases hcarried.eq_or_perform hspares hunpublished with hsame | ⟨op, hop, hdone⟩
      · rw [hsame]
        exact hrests.draft_pump
      · rw [hdone]
        exact hrests.draft_pump_perform hop
    rw [heq, hline, hpump]
    exact hkept

/-- A line that is no command after all changes nothing. -/
theorem draft_feed_refused (hsound : r.Sound) (hrests : Repl.Rests b server r seen)
    (hblank : Text.isBlank w = true) (hcolon : c.toList.head? = some ':') {e : CommandError}
    (hread : Command.parse c = .error e) :
    (feed { repl := r } (r.input.draft.text ++ w ++ c)).1.repl.input.draft = r.input.draft := by
  have hline := (r.handleLine_behind r.input.draft.text hblank hcolon).2 e hread
  have hsame : (r.fail (.badCommand e)).repl = r := rfl
  rcases repl_feed hsound (r.input.draft.text ++ w ++ c) with heq | heq
  · rw [heq, hline, hsame]
  · rw [heq, hline, hsame, hrests.draft_pump]

end AtPrompt

/-- What a line with a command behind the draft leaves of it, when the next line is read. -/
structure KeepsDraft (p : Program) (command : String) (later : Program) : Prop where
  refused : ∀ e, Command.parse command = .error e → later.repl.input.draft = p.repl.input.draft
  carried_out : ∀ known, Command.parse command = .ok known → ¬p.repl.EditsDraft known →
    (∀ selection question, known ≠ .followUp selection question) →
    Repl.DraftKept p.repl.input.draft known later.repl.input.draft

/-- A command that is typed behind whatever the line was filled with, with white space between them,
is carried out as if it stood alone, and no part of the line is taken for a message. A command other
than `:session`, `:say` and `:paste` of a small text leaves the draft as it was, except for the
context that `:context` sets. In any run of the program the draft is also left alone by what is
handled before the next line, unless the command is `:followup`. -/
theorem command_found_behind_draft {w c : String} (hblank : Text.isBlank w = true)
    (hcolon : c.toList.head? = some ':') :
    (∀ (r : Repl) (initial : String),
      r.TakesCommand c (r.handleLine initial (initial ++ w ++ c))) ∧
    ∀ (cfg : Config) (a : Arguments) (server : Server) (disk : Disk) (clock : Instant)
      (read : List String),
      let p := ((Program.start cfg a server disk clock).1.feedAll read).1
      p.isRunning = true → p.questions = none →
      p.KeepsDraft c (p.feed (p.repl.input.draft.text ++ w ++ c)).1 := by
  refine ⟨fun r initial => r.takesCommand_behind initial hblank hcolon, ?_⟩
  intro cfg a server disk clock read p hrunning hquestions
  obtain ⟨phase, unread, hwaits, hvalid⟩ := waits_feedAll cfg a server disk clock read
  have hrests := rests_feedAll (rests_start cfg a server disk clock) read
  change p.Waits phase at hwaits
  change Loop.Valid ⟨p.repl, unread, phase⟩ at hvalid
  change Repl.Rests _ _ p.repl _ at hrests
  clear_value p
  cases hwaits with
  | line hnone =>
    refine ⟨fun e hread => ?_, fun known hread hspares hunpublished => ?_⟩
    · exact draft_feed_refused hvalid.sound hrests hblank hcolon hread
    · exact draftKept_feed hvalid.sound hrests hblank hcolon hread hspares hunpublished
  | answer hnext => exact absurd hquestions (by simp)
  | ended => exact absurd hrunning (by simp)

/-- A draft that reads like a command and ends like the name of a prompt is neither: the context is
set, and the draft is still there. -/
theorem context_found_behind_help :
    let p := localRun [":say :help me /x"]
    let later := (p.feed ":help me /x  :context y").1.repl.input.draft
    p.isRunning = true ∧ p.questions = none ∧ p.repl.input.draft.text = ":help me /x" ∧
      p.repl.handleLine ":help me /x" ":help me /x  :context y" =
        p.repl.handleCommand (.context (some "y")) ∧
      later.text = ":help me /x" ∧ later.context = some "y" := by
  intro p later
  have hrunning : p.isRunning = true := by decide +kernel
  have hquestions : p.questions = none := by decide +kernel
  have htext : p.repl.input.draft.text = ":help me /x" := by decide +kernel
  have hblank : Text.isBlank "  " = true := by decide
  have hcolon : ":context y".toList.head? = some ':' := by decide
  have hread : Command.parse ":context y" = .ok (.context (some "y")) := by decide
  have hline : p.repl.input.draft.text ++ "  " ++ ":context y" = ":help me /x  :context y" := by
    rw [htext]
    rfl
  obtain ⟨htakes, hkeeps⟩ := command_found_behind_draft hblank hcolon
  have hfeed := hkeeps _ _ _ _ _ [":say :help me /x"] hrunning hquestions
  change p.KeepsDraft ":context y"
    (p.feed (p.repl.input.draft.text ++ "  " ++ ":context y")).1 at hfeed
  rw [hline] at hfeed
  have hkept := hfeed.carried_out _ hread (fun h => h) (by simp)
  refine ⟨hrunning, hquestions, htext, (htakes p.repl ":help me /x").carried_out _ hread, ?_, ?_⟩
  · exact hkept.text_kept.trans htext
  · decide +kernel

end Program
end Terminal
end Composer
