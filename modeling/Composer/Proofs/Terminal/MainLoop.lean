import Composer.Proofs.MessageInput.WellFormed
import Composer.Proofs.SignalBus.Subscriptions
import Composer.Proofs.Terminal.Adoption
import Composer.Terminal.Program
set_option autoImplicit false

/-!
# The main loop

The program turn by turn: it handles what has arrived, one event or signal at a time, and then reads
one line, as a command or a message or as the answer for a variable of the dialog that is open. A
dialog whose answers are refused asks again. No turn is left out, also not those that read nothing,
so a run that goes on for ever without reading would be seen here.
-/

namespace Composer

theorem Overlay.dialog?_eq_some_iff {o : Overlay} {dialog : VariableDialog} :
    o.dialog? = some dialog ↔ o = .variableDialog dialog := by
  cases o <;> simp [dialog?]

namespace Terminal

/-! ## Turns -/

/-- What the loop is about to do. -/
inductive Phase where
  /-- To handle the events that wait: once before the signals, and once more for the late ones. -/
  | events (late : Bool)
  /-- To handle the signals that wait. -/
  | signals
  /-- To read a line, or to start asking if a dialog is open. -/
  | ready
  /-- To ask for the next variable of a dialog. -/
  | asking (q : Questions)
  /-- Nothing more: the program was told to quit, or the input has ended. -/
  | ended (byQuit : Bool)

/-- The main loop with the lines that are left to read. -/
structure Loop where
  repl : Repl
  unread : List String
  phase : Phase

/-- What a line that was read was used for. -/
inductive LineUse where
  /-- It was a command or a message. -/
  | entered (line : String)
  /-- It was the answer for a variable. -/
  | answered (name line : String)

/-- The line that was used. -/
def LineUse.line : LineUse → String
  | entered line => line
  | answered _ line => line

namespace Questions

/-- The variable that is asked for next. -/
def next? (q : Questions) : Option String := q.dialog.names[q.answers.length]?

/-- The questions after one more answer. -/
def noting (q : Questions) (name line : String) : Questions :=
  { q with answers := q.answers ++ [(name, Text.trim line)] }

end Questions

/-- The state after the first event that waits was handled. -/
def Repl.afterEvent (r : Repl) (e : BackendEvent) (later : List BackendEvent) : Repl :=
  (({ r with backend := { r.backend with events := later } } : Repl).handleEvent e).repl

/-- The state after a signal was received and handled. -/
def Repl.afterSignal (r : Repl) (signal : Signal) (bus : SignalBus) : Repl :=
  (({ r with bus } : Repl).perform (.handleSignal signal)).repl

namespace Loop

/-- One turn of the loop, with the use of the line that it reads, if it reads one. -/
inductive Turn : Loop → Option LineUse → Loop → Prop where
  | event {r : Repl} {unread : List String} {late : Bool} {e : BackendEvent}
      {later : List BackendEvent} (h : r.backend.events = e :: later) :
      Turn ⟨r, unread, .events late⟩ none ⟨r.afterEvent e later, unread, .events late⟩
  | noEvent {r : Repl} {unread : List String} (h : r.backend.events = []) :
      Turn ⟨r, unread, .events false⟩ none ⟨r, unread, .signals⟩
  | noLateEvent {r : Repl} {unread : List String} (h : r.backend.events = []) :
      Turn ⟨r, unread, .events true⟩ none ⟨r.drainEffects.repl, unread, .ready⟩
  | signal {r : Repl} {unread : List String} {signal : Signal} {bus : SignalBus}
      (h : r.bus.receive r.subscription = (some signal, bus)) :
      Turn ⟨r, unread, .signals⟩ none ⟨r.afterSignal signal bus, unread, .signals⟩
  | noSignal {r : Repl} {unread : List String} {bus : SignalBus}
      (h : r.bus.receive r.subscription = (none, bus)) :
      Turn ⟨r, unread, .signals⟩ none ⟨{ r with bus }, unread, .events true⟩
  | line {r : Repl} {unread : List String} {line : String} (hnone : r.input.overlay.dialog? = none)
      (hgoes : (r.handleLine r.input.draft.text line).result ≠ .ok false) :
      Turn ⟨r, line :: unread, .ready⟩ (some (.entered line))
        ⟨(r.handleLine r.input.draft.text line).repl, unread, .events false⟩
  | quit {r : Repl} {unread : List String} {line : String} (hnone : r.input.overlay.dialog? = none)
      (hquit : (r.handleLine r.input.draft.text line).result = .ok false) :
      Turn ⟨r, line :: unread, .ready⟩ (some (.entered line))
        ⟨(r.handleLine r.input.draft.text line).repl, unread, .ended true⟩
  | endOfInput {r : Repl} (hnone : r.input.overlay.dialog? = none) :
      Turn ⟨r, [], .ready⟩ none ⟨r, [], .ended false⟩
  | dialog {r : Repl} {unread : List String} {dialog : VariableDialog}
      (h : r.input.overlay.dialog? = some dialog) :
      Turn ⟨r, unread, .ready⟩ none ⟨r, unread, .asking { dialog }⟩
  | answer {r : Repl} {unread : List String} {q : Questions} {name line : String}
      (h : q.next? = some name) :
      Turn ⟨r, line :: unread, .asking q⟩ (some (.answered name line))
        ⟨r, unread, .asking (q.noting name line)⟩
  /-- The answers may be refused; the dialog is then still open. -/
  | complete {r : Repl} {unread : List String} {q : Questions} (h : q.next? = none) :
      Turn ⟨r, unread, .asking q⟩ none ⟨(Program.answer r q.answers).repl, unread, .events false⟩
  | cancel {r : Repl} {q : Questions} {name : String} (h : q.next? = some name) :
      Turn ⟨r, [], .asking q⟩ none ⟨(r.perform .cancelVariables).repl, [], .events false⟩

variable {l next next' last reached : Loop} {use use' : Option LineUse}
  {uses uses' more : List LineUse}

/-- What a turn does is settled by the state. -/
theorem Turn.deterministic (h : Turn l use next) (h' : Turn l use' next') :
    use = use' ∧ next = next' := by
  cases h <;> cases h' <;> simp_all

/-- Only at its end the loop does nothing. -/
theorem exists_turn_iff (l : Loop) :
    (∃ use next, Turn l use next) ↔ ∀ byQuit, l.phase ≠ .ended byQuit := by
  constructor
  · rintro ⟨use, next, h⟩ byQuit
    cases h <;> simp
  · intro hgoes
    obtain ⟨r, unread, phase⟩ := l
    cases phase with
    | events late =>
      cases hevents : r.backend.events with
      | cons e later => exact ⟨_, _, .event hevents⟩
      | nil =>
        cases late with
        | false => exact ⟨_, _, .noEvent hevents⟩
        | true => exact ⟨_, _, .noLateEvent hevents⟩
    | signals =>
      cases hreceive : r.bus.receive r.subscription with
      | mk received bus =>
        cases received with
        | some signal => exact ⟨_, _, .signal hreceive⟩
        | none => exact ⟨_, _, .noSignal hreceive⟩
    | ready =>
      cases hdialog : r.input.overlay.dialog? with
      | some dialog => exact ⟨_, _, .dialog hdialog⟩
      | none =>
        cases unread with
        | nil => exact ⟨_, _, .endOfInput hdialog⟩
        | cons line unread =>
          by_cases hquit : (r.handleLine r.input.draft.text line).result = .ok false
          · exact ⟨_, _, .quit hdialog hquit⟩
          · exact ⟨_, _, .line hdialog hquit⟩
    | asking q =>
      cases hnext : q.next? with
      | none => exact ⟨_, _, .complete hnext⟩
      | some name =>
        cases unread with
        | nil => exact ⟨_, _, .cancel hnext⟩
        | cons line unread => exact ⟨_, _, .answer hnext⟩
    | ended byQuit => exact absurd rfl (hgoes byQuit)

/-- A turn reads no line, or the next one. -/
theorem Turn.unread_eq (h : Turn l use next) :
    l.unread = (use.map LineUse.line).toList ++ next.unread := by
  cases h <;> rfl

/-! ## Runs -/

/-- Some turns, with the uses of the lines that they read. -/
inductive Leads : Loop → List LineUse → Loop → Prop where
  | refl (l : Loop) : Leads l [] l
  | step {l next last : Loop} {use : Option LineUse} {uses : List LineUse} (h : Turn l use next)
      (hrest : Leads next uses last) : Leads l (use.toList ++ uses) last

theorem Turn.leads (h : Turn l use next) : Leads l use.toList next := by
  have hone := Leads.step h (.refl next)
  rwa [List.append_nil] at hone

theorem Leads.trans (h : Leads l uses reached) (h' : Leads reached more last) :
    Leads l (uses ++ more) last := by
  induction h with
  | refl l => exact h'
  | step hturn _ ih =>
    rw [List.append_assoc]
    exact .step hturn (ih h')

/-- Every line that was read was used once, in order. -/
theorem Leads.unread_eq (h : Leads l uses last) :
    l.unread = uses.map LineUse.line ++ last.unread := by
  induction h with
  | refl l => rfl
  | @step _ _ _ use uses hturn _ ih =>
    rw [hturn.unread_eq, ih, List.map_append, List.append_assoc]
    cases use <;> rfl

/-- For each line that was read there is one turn that read it. -/
theorem Leads.exists_turn (h : Leads l uses last) {before after : List LineUse} {use : LineUse}
    (huses : uses = before ++ use :: after) :
    ∃ there next, Leads l before there ∧ Turn there (some use) next ∧ Leads next after last := by
  induction h generalizing before with
  | refl l => exact absurd huses (by simp)
  | @step _ next _ first uses hturn hrest ih =>
    cases first with
    | none =>
      obtain ⟨there, next, hbefore, huse, hafter⟩ := ih huses
      exact ⟨there, next, .step hturn hbefore, huse, hafter⟩
    | some first =>
      cases before with
      | nil =>
        obtain ⟨rfl, rfl⟩ := List.cons.inj huses
        exact ⟨_, next, .refl _, hturn, hrest⟩
      | cons _ before =>
        obtain ⟨rfl, hlater⟩ := List.cons.inj huses
        obtain ⟨there, next, hbefore, huse, hafter⟩ := ih hlater
        exact ⟨there, next, .step hturn hbefore, huse, hafter⟩

/-- A run to an end of the loop. -/
structure Ends (first : Loop) (uses : List LineUse) (last : Loop) : Prop where
  leads : Leads first uses last
  ended : ∃ byQuit, last.phase = .ended byQuit

namespace Ends

theorem no_turn (h : Ends l uses last) : ¬ Turn last use next := by
  obtain ⟨byQuit, hended⟩ := h.ended
  exact fun hturn => (exists_turn_iff last).mp ⟨_, _, hturn⟩ byQuit hended

/-- Every run is the beginning of the one that ends. -/
theorem goes_on (h : Ends l uses last) (h' : Leads l uses' reached) :
    ∃ rest, uses = uses' ++ rest ∧ Ends reached rest last := by
  induction h' generalizing uses with
  | refl l => exact ⟨uses, rfl, h⟩
  | step hturn _ ih =>
    cases h.leads with
    | refl => exact absurd hturn h.no_turn
    | step hturn' hrest =>
      obtain ⟨rfl, rfl⟩ := hturn.deterministic hturn'
      obtain ⟨rest, rfl, hends⟩ := ih ⟨hrest, h.ended⟩
      exact ⟨rest, (List.append_assoc _ _ _).symm, hends⟩

theorem unique (h : Ends l uses last) {last' : Loop} (h' : Ends l uses' last') :
    uses = uses' ∧ last = last' := by
  obtain ⟨rest, rfl, hends⟩ := h.goes_on h'.leads
  cases hends.leads with
  | refl => exact ⟨List.append_nil _, rfl⟩
  | step hturn _ => exact absurd hturn h'.no_turn

/-- Where there is an end no run goes on for ever. -/
theorem no_endless_run (h : Ends l uses last) (run : Nat → Loop) (hfirst : run 0 = l) :
    ¬ ∀ n, ∃ use, Turn (run n) use (run (n + 1)) := by
  obtain ⟨hleads, byQuit, hended⟩ := h
  induction hleads generalizing run with
  | refl l =>
    intro hrun
    obtain ⟨use, hturn⟩ := hrun 0
    rw [hfirst] at hturn
    exact (exists_turn_iff l).mp ⟨_, _, hturn⟩ byQuit hended
  | step hturn _ ih =>
    intro hrun
    obtain ⟨use, hturn'⟩ := hrun 0
    rw [hfirst] at hturn'
    obtain ⟨-, hnext⟩ := hturn.deterministic hturn'
    exact ih (fun n => run (n + 1)) hnext.symm hended fun n => hrun (n + 1)

end Ends

end Loop

/-! ## What holds between turns -/

namespace Repl

variable {r : Repl}

/-- The input is well-formed, so that an open dialog has something to ask for, and the bus has room,
but for no more signals than it is meant to retain. -/
structure Sound (r : Repl) : Prop where
  input : ∃ classifier, r.input.WellFormed classifier
  fits : r.bus.Fits
  room : 0 < r.bus.capacity

namespace Sound

theorem of_eq (h : Sound r) {r' : Repl} (hinput : r'.input = r.input) (hbus : r'.bus = r.bus) :
    Sound r' := by
  constructor
  · rw [hinput]
    exact h.input
  · rw [hbus]
    exact h.fits
  · rw [hbus]
    exact h.room

theorem perform (h : Sound r) (op : Operation) : Sound (r.perform op).repl := by
  obtain ⟨classifier, hinput⟩ := h.input
  exact ⟨⟨classifier, hinput.perform r.session op⟩, h.fits, h.room⟩

theorem performAll (h : Sound r) (ops : List Operation) : Sound (r.performAll ops).repl := by
  induction ops generalizing r with
  | nil => exact h
  | cons op ops ih => exact ih (h.perform op)

theorem publish (h : Sound r) (signal : Signal) :
    Sound { r with bus := (r.bus.publish signal).2 } := by
  refine ⟨h.input, SignalBus.fits_publish h.fits signal, ?_⟩
  rw [SignalBus.capacity_publish]
  exact h.room

theorem receive (h : Sound r) : Sound { r with bus := (r.bus.receive r.subscription).2 } := by
  obtain ⟨hretained, -, hcapacity⟩ := r.bus.receive_kept r.subscription
  refine ⟨h.input, ?_, ?_⟩
  · rw [SignalBus.Fits, hretained, hcapacity]
    exact h.fits
  · exact hcapacity ▸ h.room

theorem afterEvent (h : Sound r) (e : BackendEvent) (later : List BackendEvent) :
    Sound (r.afterEvent e later) := by
  have htaken : Sound { r with backend := { r.backend with events := later } } := h.of_eq rfl rfl
  cases e with
  | responding isResponding => exact htaken.perform _
  | sessionAssigned id => exact htaken.perform _
  | _ => exact htaken.of_eq rfl rfl

theorem drainEffects (h : Sound r) : Sound r.drainEffects.repl := by
  obtain ⟨classifier, hinput⟩ := h.input
  exact ⟨⟨classifier, hinput.perform r.session .drainEffects⟩, h.fits, h.room⟩

theorem switchSession (h : Sound r) (id : Option String) : Sound (r.switchSession id).repl := by
  have hset : Sound { r with backend := r.backend.setSession id } := h.of_eq rfl rfl
  exact hset.perform (.observeSession id)

theorem send (h : Sound r) : Sound r.send.repl := by
  rcases r.send_cases with heq | ⟨-, heq⟩ | ⟨-, heq⟩
  · rw [heq]
    exact h
  · rw [heq]
    exact (h.perform .submit).of_eq rfl rfl
  · rw [heq]
    exact h.perform .submit

theorem move (h : Sound r) {r' : Repl} (hmove : Move r r') : Sound r' := by
  cases hmove with
  | plain ops _ => exact h.performAll ops
  | switch id _ => exact h.switchSession id
  | publish signal => exact h.publish signal
  | author ops _ command => exact (h.performAll ops).perform _
  | send ops _ => exact (h.performAll ops).send

theorem handleLine (h : Sound r) (initial line : String) :
    Sound (r.handleLine initial line).repl := by
  rcases r.handled_handleLine initial line with ⟨-, heq⟩ | ⟨-, hmove⟩
  · rw [heq]
    exact h
  · exact h.move hmove

theorem dialog (h : Sound r) {dialog : VariableDialog}
    (hopen : r.input.overlay = .variableDialog dialog) : dialog.names ≠ [] := by
  obtain ⟨classifier, hinput⟩ := h.input
  have hvalid := hinput.overlay
  rw [hopen] at hvalid
  exact hvalid.1

end Sound

/-- Nothing has arrived that is yet to be handled. -/
structure AtRest (r : Repl) : Prop where
  quiet : r.backend.events = []
  still : r.IsStill

end Repl

/-- What holds in a phase. -/
def Phase.Requires (r : Repl) (unread : List String) : Phase → Prop
  | events late => late = true → r.IsStill
  | signals => True
  | ready => r.AtRest
  | asking q =>
    r.AtRest ∧ r.input.overlay = .variableDialog q.dialog ∧
      q.answers.map Prod.fst = q.dialog.names.take q.answers.length
  | ended byQuit => byQuit = false → unread = []

namespace Loop

/-- A state that the loop may be in. -/
structure Valid (l : Loop) : Prop where
  sound : l.repl.Sound
  phase : l.phase.Requires l.repl l.unread

variable {l next last : Loop} {use : Option LineUse} {uses : List LineUse}

/-- What waits may be anything when the loop starts to handle it. -/
theorem valid_of_sound {r : Repl} (h : r.Sound) (unread : List String) :
    Valid ⟨r, unread, .events false⟩ :=
  ⟨h, fun hlate => absurd hlate (by simp)⟩

/-- The step lemma. -/
theorem Valid.turn (h : Valid l) (hturn : Turn l use next) : Valid next := by
  obtain ⟨hsound, hphase⟩ := h
  cases hturn with
  | @event r _ _ e later hevents =>
    refine ⟨hsound.afterEvent e later, fun hlate => ?_⟩
    have hsame : (r.afterEvent e later).bus = r.bus ∧
        (r.afterEvent e later).subscription = r.subscription := by
      cases e <;> exact ⟨rfl, rfl⟩
    have hstill : r.IsStill := hphase hlate
    rw [Repl.IsStill, hsame.1, hsame.2]
    exact hstill
  | noEvent hevents => exact ⟨hsound, trivial⟩
  | noLateEvent hevents => exact ⟨hsound.drainEffects, hevents, hphase rfl⟩
  | @signal r _ signal bus hreceive =>
    have hreceived := hsound.receive
    rw [hreceive] at hreceived
    exact ⟨hreceived.perform (.handleSignal signal), trivial⟩
  | @noSignal r _ bus hreceive =>
    have hreceived := hsound.receive
    rw [hreceive] at hreceived
    refine ⟨hreceived, fun _ => ?_⟩
    obtain ⟨hfirst, hrest⟩ := r.bus.receive_spec r.subscription
    rw [hreceive] at hfirst hrest
    have hnothing : r.bus.waiting r.subscription = [] := List.head?_eq_none_iff.mp hfirst.symm
    rw [hnothing] at hrest
    exact hrest
  | line hnone hgoes => exact valid_of_sound (hsound.handleLine _ _) _
  | quit hnone hquit => exact ⟨hsound.handleLine _ _, fun hinput => absurd hinput (by simp)⟩
  | endOfInput hnone => exact ⟨hsound, fun _ => rfl⟩
  | dialog hdialog => exact ⟨hsound, hphase, Overlay.dialog?_eq_some_iff.mp hdialog, rfl⟩
  | @answer _ _ q name line hnext =>
    obtain ⟨hrest, hopen, hnames⟩ := hphase
    refine ⟨hsound, hrest, hopen, ?_⟩
    simp only [Questions.noting, List.map_append, hnames, List.length_append, List.length_singleton,
      List.take_add_one]
    rw [show q.dialog.names[q.answers.length]? = some name from hnext]
    rfl
  | complete hnext => exact valid_of_sound (hsound.perform _) _
  | cancel hnext => exact valid_of_sound (hsound.perform _) []

/-- The run lemma. -/
theorem Valid.leads (h : Valid l) (hleads : Leads l uses last) : Valid last := by
  induction hleads with
  | refl l => exact h
  | step hturn _ ih => exact ih (h.turn hturn)

end Loop
end Terminal
end Composer
