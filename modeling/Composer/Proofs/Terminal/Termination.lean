import Composer.Proofs.MessageInput.Dialogs
import Composer.Proofs.Terminal.MainLoop
import Composer.Proofs.Terminal.Refusal
set_option autoImplicit false

/-!
# The main loop ends

The loop, turn by turn, comes to where the program comes that takes the lines one after another.
What has arrived is handled in finitely many turns, as handling an event tells of nothing new and
handling a signal publishes none; an open dialog has something to ask for; and at the end of the
input it is closed. So the loop ends, whatever is answered and however often answers are refused.
-/

namespace Composer.Terminal

/-! ## What has arrived -/

namespace Repl

variable {r : Repl}

/-- The events that wait are those that are left after the first was handled. -/
theorem drainEvents_afterEvent {e : BackendEvent} {later : List BackendEvent}
    (h : r.backend.events = e :: later) :
    (r.afterEvent e later).drainEvents.repl = r.drainEvents.repl := by
  simp only [drainEvents, Backend.takeEvents, h, handleEvents]
  cases e <;> rfl

theorem drainEvents_of_quiet (h : r.backend.events = []) : r.drainEvents.repl = r := by
  have hsame : ({ r.backend with events := [] } : Backend) = r.backend := by rw [← h]
  simp only [drainEvents, Backend.takeEvents, h, handleEvents, hsame]

end Repl

namespace Loop

variable {r : Repl} {unread : List String}

/-- All signals that wait are handled, at most `n`. -/
theorem leads_signals (n : Nat) (hwaiting : (r.bus.waiting r.subscription).length ≤ n)
    (hroom : 0 < n ∨ r.bus.IsCurrent r.subscription) :
    let received := r.bus.receiveAll r.subscription n
    Leads ⟨r, unread, .signals⟩ []
      ⟨(({ r with bus := received.2 } : Repl).performAll (received.1.map .handleSignal)).repl,
        unread, .events true⟩ := by
  induction n generalizing r with
  | zero =>
    -- the loop asks once more than the drain, which is in vain as the subscription is not behind
    have hnothing := List.length_eq_zero_iff.mp (Nat.le_zero.mp hwaiting)
    have hcurrent := hroom.resolve_left (Nat.lt_irrefl 0)
    exact (Turn.noSignal (SignalBus.receive_of_isCurrent hcurrent hnothing)).leads
  | succ n ih =>
    obtain ⟨hfirst, hrest⟩ := r.bus.receive_spec r.subscription
    unfold SignalBus.receiveAll
    cases hreceive : r.bus.receive r.subscription with
    | mk received bus =>
      cases received with
      | none => exact (Turn.noSignal hreceive).leads
      | some signal =>
        rw [hreceive] at hfirst hrest
        refine (Turn.signal hreceive).leads.trans (ih ?_ ?_)
        · have htail : bus.waiting r.subscription = (r.bus.waiting r.subscription).tail := hrest
          change (bus.waiting r.subscription).length ≤ n
          rw [htail, List.length_tail]
          omega
        · exact .inr (SignalBus.isCurrent_of_receive hreceive)

theorem leads_drainSignals (h : r.Sound) :
    Leads ⟨r, unread, .signals⟩ [] ⟨r.drainSignals.repl, unread, .events true⟩ :=
  leads_signals r.bus.capacity (Nat.le_trans (r.bus.length_waiting_le _) h.fits) (.inl h.room)

/-- Handling an event tells of nothing new. -/
theorem leads_drainEvents (r : Repl) (unread : List String) (late : Bool) :
    Leads ⟨r, unread, .events late⟩ [] ⟨r.drainEvents.repl, unread, .events late⟩ := by
  generalize hevents : r.backend.events = events
  induction events generalizing r with
  | nil =>
    rw [Repl.drainEvents_of_quiet hevents]
    exact .refl _
  | cons e later ih =>
    have hlater : (r.afterEvent e later).backend.events = later := by cases e <;> rfl
    rw [← Repl.drainEvents_afterEvent hevents]
    exact (Turn.event hevents).leads.trans (ih _ hlater)

/-- All that has arrived is handled before the next line is read. -/
theorem leads_pump (h : r.Sound) :
    Leads ⟨r, unread, .events false⟩ [] ⟨r.pump.repl, unread, .ready⟩ := by
  have hvalid : Valid ⟨r, unread, .events false⟩ := valid_of_sound h unread
  have hevents : Leads ⟨r, unread, .events false⟩ [] ⟨r.drainEvents.repl, unread, .signals⟩ :=
    (leads_drainEvents r unread false).trans (Turn.noEvent r.events_drainEvents).leads
  have hsignals := hevents.trans (leads_drainSignals (hvalid.leads hevents).sound)
  have hlate := hsignals.trans (leads_drainEvents _ unread true)
  exact hlate.trans (Turn.noLateEvent (Repl.events_drainEvents _)).leads

end Loop

/-! ## The program -/

namespace Program

open Loop

variable {p : Program} {phase : Phase}

/-- The phase in which the program takes its next line, or that it ended in. -/
inductive Waits : Program → Phase → Prop where
  | line {r : Repl} (hnone : r.input.overlay.dialog? = none) : Waits { repl := r } .ready
  | answer {r : Repl} {q : Questions} {name : String} (hnext : q.next? = some name) :
      Waits { repl := r, questions := some q } (.asking q)
  | ended {r : Repl} {questions : Option Questions} :
      Waits { repl := r, questions, isRunning := false } (.ended true)

/-- Before the next line an open dialog is asked for, which has something to ask. -/
theorem leads_await {r : Repl} (h : r.Sound) (unread : List String) :
    ∃ phase, (await r).1.Waits phase ∧
      Leads ⟨r, unread, .events false⟩ [] ⟨(await r).1.repl, unread, phase⟩ := by
  have hpump : Leads ⟨r, unread, .events false⟩ [] ⟨r.pump.repl, unread, .ready⟩ := leads_pump h
  have hsound := ((valid_of_sound h unread).leads hpump).sound
  unfold await
  dsimp only
  cases hdialog : r.pump.repl.input.overlay.dialog? with
  | none => exact ⟨.ready, .line hdialog, hpump⟩
  | some dialog =>
    have hnames := hsound.dialog (Overlay.dialog?_eq_some_iff.mp hdialog)
    obtain ⟨name, others, hcons⟩ := List.exists_cons_of_ne_nil hnames
    have hnext : ({ dialog } : Questions).next? = some name := by
      simp [Questions.next?, hcons]
    have hasks : ¬ dialog.names.isEmpty = true := by simp [hcons]
    dsimp only
    rw [if_neg hasks]
    exact ⟨.asking { dialog }, .answer hnext, hpump.trans (Turn.dialog hdialog).leads⟩

/-- A line that does not end the program is followed by what has arrived. -/
theorem takeLine_of_goes (p : Program) {line : String}
    (h : (p.repl.handleLine p.repl.input.draft.text line).result ≠ .ok false) :
    (p.takeLine line).1 = (await (p.repl.handleLine p.repl.input.draft.text line).repl).1 := by
  unfold takeLine
  generalize p.repl.handleLine p.repl.input.draft.text line = told at h
  obtain ⟨result, repl, notices⟩ := told
  cases result with
  | error e => rfl
  | ok goes =>
    cases goes with
    | true => rfl
    | false => exact absurd rfl h

theorem takeLine_of_quit (p : Program) {line : String}
    (h : (p.repl.handleLine p.repl.input.draft.text line).result = .ok false) :
    (p.takeLine line).1 =
      { p with repl := (p.repl.handleLine p.repl.input.draft.text line).repl,
               isRunning := false } := by
  simp only [takeLine, h]

/-- An answer is noted while there are others to come; the last one completes the dialog. -/
theorem takeAnswer_of_next (p : Program) {q : Questions} {name : String}
    (h : q.next? = some name) (line : String) :
    (((q.noting name line).next? = none) ∧
      (p.takeAnswer q line).1 = (await (answer p.repl (q.noting name line).answers).repl).1) ∨
    ((∃ other, (q.noting name line).next? = some other) ∧
      (p.takeAnswer q line).1 = { p with questions := some (q.noting name line) }) := by
  obtain ⟨hlt, hname⟩ := List.getElem?_eq_some_iff.mp h
  have hdrop : q.dialog.names.drop q.answers.length =
      name :: q.dialog.names.drop (q.answers.length + 1) := by
    rw [List.drop_eq_getElem_cons hlt, hname]
  have hnext : (q.noting name line).next? = (q.dialog.names.drop (q.answers.length + 1)).head? := by
    simp [Questions.next?, Questions.noting]
  simp only [takeAnswer, hdrop, hnext]
  cases q.dialog.names.drop (q.answers.length + 1) with
  | nil => exact .inl ⟨rfl, by simp only [List.isEmpty_nil, if_true, Questions.noting]⟩
  | cons other others => exact .inr ⟨⟨other, rfl⟩, rfl⟩

theorem feed_line (r : Repl) (line : String) :
    feed { repl := r } line = takeLine { repl := r } line := rfl

theorem feed_answer (r : Repl) (q : Questions) (line : String) :
    feed { repl := r, questions := some q } line =
      takeAnswer { repl := r, questions := some q } q line := rfl

/-- The step lemma: taking a line is one turn that reads it, and some that read nothing. -/
theorem leads_feed (hwaits : p.Waits phase) (hrunning : p.isRunning = true) (h : p.repl.Sound)
    (line : String) (unread : List String) :
    ∃ use phase', (p.feed line).1.Waits phase' ∧
      Leads ⟨p.repl, line :: unread, phase⟩ [use] ⟨(p.feed line).1.repl, unread, phase'⟩ := by
  cases hwaits with
  | @line r hnone =>
    by_cases hquit : (r.handleLine r.input.draft.text line).result = .ok false
    · rw [feed_line, takeLine_of_quit { repl := r } hquit]
      exact ⟨.entered line, .ended true, .ended, (Turn.quit hnone hquit).leads⟩
    · have hsound : (r.handleLine r.input.draft.text line).repl.Sound := h.handleLine _ line
      obtain ⟨phase', hnext, hleads⟩ := leads_await hsound unread
      rw [feed_line, takeLine_of_goes { repl := r } hquit]
      dsimp only
      exact ⟨.entered line, phase', hnext, (Turn.line hnone hquit).leads.trans hleads⟩
  | @answer r q name hname =>
    have hanswer : Leads ⟨r, line :: unread, .asking q⟩ [.answered name line]
        ⟨r, unread, .asking (q.noting name line)⟩ := (Turn.answer hname).leads
    rcases takeAnswer_of_next { repl := r, questions := some q } hname line with
      ⟨hlast, heq⟩ | ⟨⟨other, hother⟩, heq⟩
    · have hsound : (answer r (q.noting name line).answers).repl.Sound := h.perform _
      obtain ⟨phase', hnext, hleads⟩ := leads_await hsound unread
      have hcomplete : Leads ⟨r, unread, .asking (q.noting name line)⟩ []
          ⟨(answer r (q.noting name line).answers).repl, unread, .events false⟩ :=
        (Turn.complete hlast).leads
      rw [feed_answer, heq]
      dsimp only
      exact ⟨.answered name line, phase', hnext, hanswer.trans (hcomplete.trans hleads)⟩
    · rw [feed_answer, heq]
      dsimp only
      exact ⟨.answered name line, .asking (q.noting name line), .answer hother, hanswer⟩
  | ended => exact absurd hrunning (by simp)

end Program

/-! ## The end of the input -/

namespace Repl

variable {r : Repl}

/-- Where nothing has arrived, only the requests to the view are carried out. -/
theorem input_pump_of_atRest (h : r.AtRest) :
    r.pump.repl.input = { r.input with effects := {} } := by
  rw [(pump_of_isStill h.still).2, drainEvents_of_quiet h.quiet]

/-- A dialog that is cancelled is gone before the next line, and all else is as it was. -/
theorem input_pump_of_cancelled {dialog : VariableDialog} (h : r.AtRest)
    (hopen : r.input.overlay = .variableDialog dialog) :
    (r.perform .cancelVariables).repl.pump.repl.input =
      { r.input with overlay := .none, effects := {} } := by
  have hcancelled : (r.perform .cancelVariables).repl.AtRest := ⟨h.quiet, h.still⟩
  have hinput : (r.perform .cancelVariables).repl.input =
      { r.input with overlay := .none }.request .focusInput :=
    MessageInput.cancelVariables_of_dialog hopen
  rw [input_pump_of_atRest hcancelled, hinput]
  rfl

end Repl

namespace Loop

/-- The input ends within a dialog: the dialog is cancelled, and the next time there is none. -/
theorem ends_of_unanswered {r : Repl} {q : Questions} {name : String}
    (h : Valid ⟨r, [], .asking q⟩) (hnext : q.next? = some name) :
    Ends ⟨r, [], .asking q⟩ []
      ⟨(r.perform .cancelVariables).repl.pump.repl, [], .ended false⟩ := by
  obtain ⟨hsound, hrest, hopen, -⟩ := h
  have hinput := Repl.input_pump_of_cancelled hrest hopen
  have hnone : (r.perform .cancelVariables).repl.pump.repl.input.overlay.dialog? = none := by
    rw [hinput]
    rfl
  have hpump : Leads ⟨(r.perform .cancelVariables).repl, [], .events false⟩ []
      ⟨(r.perform .cancelVariables).repl.pump.repl, [], .ready⟩ :=
    leads_pump (hsound.perform .cancelVariables)
  exact ⟨(Turn.cancel hnext).leads.trans (hpump.trans (Turn.endOfInput hnone).leads), false, rfl⟩

end Loop

namespace Program

open Loop

variable {p : Program} {phase : Phase}

theorem feedAll_cons (p : Program) (line : String) (lines : List String) :
    (p.feedAll (line :: lines)).1 = ((p.feed line).1.feedAll lines).1 := rfl

theorem feedAll_of_not_running (h : p.isRunning = false) (lines : List String) :
    (p.feedAll lines).1 = p := by
  have hfeed : ∀ line, (p.feed line).1 = p := by simp [feed, h]
  induction lines with
  | nil => rfl
  | cons line lines ih => rw [feedAll_cons, hfeed, ih]

/-- The run lemma: the loop comes by the state of the program after each line. Once the program was
told to quit, the lines from there on stay unread. -/
theorem leads_feedAll (read later : List String) (hwaits : p.Waits phase)
    (hvalid : Valid ⟨p.repl, read ++ later, phase⟩) :
    ∃ uses phase' unread, (p.feedAll read).1.Waits phase' ∧
      ((p.feedAll read).1.isRunning = true → unread = later) ∧
      Leads ⟨p.repl, read ++ later, phase⟩ uses ⟨(p.feedAll read).1.repl, unread, phase'⟩ := by
  induction read generalizing p phase with
  | nil => exact ⟨[], phase, later, hwaits, fun _ => rfl, .refl _⟩
  | cons line read ih =>
    cases hrunning : p.isRunning with
    | false =>
      rw [feedAll_of_not_running hrunning]
      exact ⟨[], phase, _, hwaits, fun h => absurd (hrunning.symm.trans h) (by decide), .refl _⟩
    | true =>
      obtain ⟨use, phase', hwaits', hleads⟩ :=
        leads_feed hwaits hrunning hvalid.sound line (read ++ later)
      obtain ⟨uses, phase'', unread, hlast, hunread, hrest⟩ := ih hwaits' (hvalid.leads hleads)
      rw [feedAll_cons]
      exact ⟨use :: uses, phase'', unread, hlast, hunread, hleads.trans hrest⟩

/-- At the end of the input the loop ends where the program does. -/
theorem ends_finish {unread : List String} (hwaits : p.Waits phase)
    (hunread : p.isRunning = true → unread = []) (hvalid : Valid ⟨p.repl, unread, phase⟩) :
    ∃ last, Ends ⟨p.repl, unread, phase⟩ [] last ∧ last.repl = p.finish.1.repl := by
  cases hwaits with
  | @line r hnone =>
    obtain rfl : unread = [] := hunread rfl
    exact ⟨_, ⟨(Turn.endOfInput hnone).leads, false, rfl⟩, rfl⟩
  | answer hnext =>
    obtain rfl : unread = [] := hunread rfl
    exact ⟨_, ends_of_unanswered hvalid hnext, rfl⟩
  | ended => exact ⟨_, ⟨.refl _, true, rfl⟩, rfl⟩

theorem exists_ends (lines : List String) (hwaits : p.Waits phase)
    (hvalid : Valid ⟨p.repl, lines, phase⟩) :
    ∃ uses last, Ends ⟨p.repl, lines, phase⟩ uses last ∧ last.repl = (p.run lines).1.repl := by
  rw [← List.append_nil lines] at hvalid
  obtain ⟨uses, phase', unread, hwaits', hunread, hleads⟩ := leads_feedAll lines [] hwaits hvalid
  obtain ⟨last, hends, hrepl⟩ := ends_finish hwaits' hunread (hvalid.leads hleads)
  have hall := hleads.trans hends.leads
  rw [List.append_nil lines] at hall
  exact ⟨uses ++ [], last, ⟨hall, hends.ended⟩, hrepl⟩

end Program

/-! ## The command to quit -/

namespace Repl

variable {r : Repl}

/-- Whether a line holds the command to quit. -/
def Quits (r : Repl) (line : String) : Prop :=
  ∃ text, commandIn? r.input.draft.text.toList line.toList = some text ∧
    Command.ofChars text = .ok .quit

/-- Every command but one goes on, if it is carried out. -/
theorem eq_quit_of_result {command : Command}
    (h : (r.handleCommand command).result = .ok false) : command = .quit := by
  cases command with
  | quit => rfl
  | attach paths =>
    simp only [handleCommand, attach] at h
    split at h <;> exact absurd h (by simp [fail])
  | paste path =>
    simp only [handleCommand] at h
    split at h
    · exact absurd h (by simp [fail])
    · rw [result_pasteText] at h
      exact absurd h (by simp)
  | save title mime =>
    simp only [handleCommand, save] at h
    split at h <;> exact absurd h (by simp [fail])
  | discard =>
    simp only [handleCommand] at h
    split at h <;> exact absurd h (by simp [fail, tell])
  | remove index =>
    simp only [handleCommand] at h
    split at h <;> exact absurd h (by simp [fail, tell])
  | unlink index =>
    simp only [handleCommand] at h
    split at h <;> exact absurd h (by simp [fail, act])
  | _ => exact absurd h (by simp [handleCommand, tell, act, switchSession])

theorem quits_of_result {line : String}
    (h : (r.handleLine r.input.draft.text line).result = .ok false) : r.Quits line := by
  unfold handleLine at h
  split at h
  · rename_i text hcommand
    split at h
    · exact absurd h (by simp [fail])
    · rename_i command hread
      obtain rfl := eq_quit_of_result h
      exact ⟨text, hcommand, hread⟩
  · rw [result_handleMessage] at h
    exact absurd h (by simp)

end Repl

namespace Loop

variable {l last : Loop} {uses : List LineUse}

/-- The loop is ended by the command to quit in the line that it read last. -/
theorem Leads.quit (h : Leads l uses last) (hlast : last.phase = .ended true)
    (hfirst : l.phase ≠ .ended true) :
    ∃ earlier line, uses = earlier ++ [.entered line] ∧ last.repl.Quits line := by
  induction h with
  | refl l => exact absurd hlast hfirst
  | @step l next last use uses hturn hrest ih =>
    by_cases hnext : next.phase = .ended true
    · -- this turn ends the loop, so there is no other behind it
      have hends : Ends next [] next := ⟨.refl next, true, hnext⟩
      obtain ⟨rfl, rfl⟩ := hends.unique ⟨hrest, true, hlast⟩
      cases hturn with
      | @quit r _ line hnone hquit =>
        have hsame : (r.handleLine r.input.draft.text line).repl = r := by
          rcases r.handled_handleLine r.input.draft.text line with ⟨-, hsame⟩ | ⟨hgoes, -⟩
          · exact hsame
          · exact absurd hquit hgoes
        refine ⟨[], line, rfl, ?_⟩
        rw [hsame]
        exact Repl.quits_of_result hquit
      | _ => exact absurd hnext (by simp)
    · obtain ⟨earlier, line, rfl, hquits⟩ := ih hlast hnext
      exact ⟨use.toList ++ earlier, line, (List.append_assoc _ _ _).symm, hquits⟩

/-! ## From the start -/

/-- The loop before its first turn. -/
def start (c : Config) (a : Arguments) (server : Server) (disk : Disk) (clock : Instant)
    (lines : List String) : Loop :=
  let r := Repl.start c a.session server disk clock
  { repl := (r.perform (.applyPending (pendingPrompt? c.prompts a.prompt))).repl,
    unread := lines, phase := .events false }

theorem phase_start (c : Config) (a : Arguments) (server : Server) (disk : Disk) (clock : Instant)
    (lines : List String) : (start c a server disk clock lines).phase = .events false := rfl

/-- The program starts by what the loop does before it reads a line. -/
theorem program_start (c : Config) (a : Arguments) (server : Server) (disk : Disk)
    (clock : Instant) (lines : List String) :
    (Program.start c a server disk clock).1 =
      (Program.await (start c a server disk clock lines).repl).1 := by
  simp only [Program.start, start]

theorem valid_start (c : Config) (a : Arguments) (server : Server) (disk : Disk) (clock : Instant)
    (lines : List String) : Valid (start c a server disk clock lines) := by
  have hfirst : (Repl.start c a.session server disk clock).Sound :=
    ⟨⟨_, MessageInput.wellFormed_start _ _⟩, Nat.zero_le _, SignalBus.capacity_pos _⟩
  exact valid_of_sound (hfirst.perform _) lines

/-- What becomes of the loop and of the lines that it is given. -/
structure Finished (first : Loop) (uses : List LineUse) (last : Loop) : Prop
    extends Ends first uses last where
  /-- However far the loop has come, it comes to this end. -/
  inevitable : ∀ uses' reached, Leads first uses' reached →
    ∃ rest, uses = uses' ++ rest ∧ Leads reached rest last
  no_endless_run : ∀ run : Nat → Loop, run 0 = first →
    ¬ ∀ n, ∃ use, Turn (run n) use (run (n + 1))
  /-- The lines are used in order, each once, up to those that are left. -/
  each_used : first.unread = uses.map LineUse.line ++ last.unread
  used_in_turn : ∀ before use after, uses = before ++ use :: after →
    ∃ there next, Leads first before there ∧ Turn there (some use) next ∧ Leads next after last
  /-- The loop is told to quit by the last line that it reads, or reads all of them. -/
  end_reached :
    (last.phase = .ended true ∧
      ∃ earlier line, uses = earlier ++ [.entered line] ∧ last.repl.Quits line) ∨
    (last.phase = .ended false ∧ last.unread = [])
  /-- The dialog that is asked for is open, and its variables are asked for in order. -/
  asks_in_order : ∀ uses' reached q, Leads first uses' reached → reached.phase = .asking q →
    reached.repl.input.overlay = .variableDialog q.dialog ∧
      q.answers.map Prod.fst = q.dialog.names.take q.answers.length
  /-- The end of the input closes a dialog with answers to come, and changes nothing else. -/
  dialog_cancelled : ∀ uses' reached q, Leads first uses' reached → reached.phase = .asking q →
    q.next? ≠ none → reached.unread = [] →
    last.phase = .ended false ∧
      last.repl.input = { reached.repl.input with overlay := .none, effects := {} }

theorem Ends.finished (h : Ends l uses last) (hvalid : Valid l) (hfirst : l.phase ≠ .ended true) :
    Finished l uses last where
  toEnds := h
  inevitable := by
    intro uses' reached hleads
    obtain ⟨rest, huses, hends⟩ := h.goes_on hleads
    exact ⟨rest, huses, hends.leads⟩
  no_endless_run := h.no_endless_run
  each_used := h.leads.unread_eq
  used_in_turn := fun before use after huses => h.leads.exists_turn huses
  end_reached := by
    obtain ⟨byQuit, hended⟩ := h.ended
    have hlast := (hvalid.leads h.leads).phase
    rw [hended] at hlast
    cases byQuit with
    | true => exact .inl ⟨hended, h.leads.quit hended hfirst⟩
    | false => exact .inr ⟨hended, hlast rfl⟩
  asks_in_order := by
    intro uses' reached q hleads hasking
    have hreached := (hvalid.leads hleads).phase
    rw [hasking] at hreached
    exact hreached.2
  dialog_cancelled := by
    intro uses' reached q hleads hasking hopen hunread
    have hreached := hvalid.leads hleads
    obtain ⟨name, hnext⟩ := Option.ne_none_iff_exists'.mp hopen
    obtain ⟨rest, -, hends⟩ := h.goes_on hleads
    obtain ⟨r, unread, phase⟩ := reached
    obtain rfl : unread = [] := hunread
    obtain rfl : phase = .asking q := hasking
    obtain ⟨-, rfl⟩ := hends.unique (ends_of_unanswered hreached hnext)
    obtain ⟨hrest, hdialog, -⟩ := hreached.phase
    dsimp only at hrest hdialog ⊢
    exact ⟨rfl, Repl.input_pump_of_cancelled hrest hdialog⟩

/-- Whatever is configured and given on the command line, whatever the standard input is and
whatever the server answers, the loop ends, and it does so where the program does. On its way it
comes by the state of the program after each line. -/
theorem main_loop_ends (c : Config) (a : Arguments) (server : Server) (disk : Disk)
    (clock : Instant) (stdin : String) :
    let lines := inputLines stdin
    let first := start c a server disk clock lines
    let p := (Program.start c a server disk clock).1
    (∃ uses last, Finished first uses last ∧ last.repl = (p.run lines).1.repl) ∧
    ∀ read later, lines = read ++ later → ∃ uses there, Leads first uses there ∧
      there.repl = (p.feedAll read).1.repl ∧
      ((p.feedAll read).1.isRunning = true → there.unread = later) := by
  intro lines first p
  have hvalid : Valid first := valid_start c a server disk clock lines
  obtain ⟨phase, hwaits, hleads⟩ := Program.leads_await hvalid.sound lines
  rw [← program_start c a server disk clock lines] at hwaits hleads
  have hwaiting : Valid ⟨p.repl, lines, phase⟩ := hvalid.leads hleads
  constructor
  · obtain ⟨uses, last, hends, hrepl⟩ := Program.exists_ends lines hwaits hwaiting
    have hall : Ends first uses last := ⟨hleads.trans hends.leads, hends.ended⟩
    have hfirst : first.phase ≠ .ended true := by
      rw [phase_start]
      simp
    exact ⟨uses, last, hall.finished hvalid hfirst, hrepl⟩
  · intro read later hlines
    rw [hlines] at hwaiting hleads
    obtain ⟨uses, phase', unread, -, hunread, hrest⟩ :=
      Program.leads_feedAll read later hwaits hwaiting
    refine ⟨uses, ⟨_, unread, phase'⟩, ?_, rfl, hunread⟩
    have hfirst : first = ⟨first.repl, read ++ later, .events false⟩ := by rw [← hlines]; rfl
    rw [hfirst]
    exact hleads.trans hrest

end Loop

end Composer.Terminal
