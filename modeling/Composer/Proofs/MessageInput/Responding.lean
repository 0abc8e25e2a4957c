import Composer.Proofs.MessageInput.Conservation
import Composer.Proofs.MessageInput.Sending
import Composer.Proofs.SignalBus.Draining
set_option autoImplicit false

/-!
# While a response is in progress

As long as the session is responding, the input may be written in and looked after, but nothing goes
out and nothing comes in: no message is sent, no file is taken in and no paste is held back. A
follow-up question that is to be sent at once waits in the draft instead. Each guard concerns one
operation; that they are enough is proved along every sequence of operations and of drained
subscriptions.
-/

namespace Composer

@[simp] theorem Overlay.pending?_closeMenu (o : Overlay) : o.closeMenu.pending? = o.pending? := by
  cases o <;> rfl

theorem Overlay.pending?_eq_some_iff {o : Overlay} {text : String} :
    o.pending? = some text ↔ o = .artifactForm text := by
  cases o <;> simp [pending?]

/-- A quotation has a header. -/
theorem isBlank_quoteSelection (selected : String) :
    Text.isBlank (quoteSelection selected) = false := by
  exact Text.not_isBlank_append "Regarding this selection:\n" _ (by decide)

/-! ## Steps -/

/-- What an input is put through. -/
inductive InputStep where
  | perform (op : Operation) (session : Session)
  /-- All signals that wait for a subscription are handled, each with its view of the session. -/
  | drain (view : Nat → Session) (bus : SignalBus) (number : Nat)

namespace InputStep

/-- A response is in progress whenever the step looks at the session. -/
def WhileResponding : InputStep → Prop
  | perform _ session => session.responding = true
  | drain view _ _ => ∀ handled, (view handled).responding = true

/-- The operations that a step consists of. -/
def operations : InputStep → List (Operation × Session)
  | perform op session => [(op, session)]
  | drain view bus number =>
    MessageInput.handling view 0 (bus.receiveAll number bus.capacity).1

theorem WhileResponding.operations {s : InputStep} (h : s.WhileResponding) :
    ∀ step ∈ s.operations, step.2.responding = true := by
  intro step hstep
  cases s with
  | perform op session =>
    rw [List.mem_singleton.mp hstep]
    exact h
  | drain view bus number =>
    obtain ⟨⟨signal, handled⟩, -, rfl⟩ := List.mem_map.mp hstep
    exact h handled

end InputStep

namespace MessageInput

/-- Does one step. -/
def step (m : MessageInput) : InputStep → Reaction Unit
  | .perform op session => { m.perform session op with result := () }
  | .drain view bus number => { (m.drainSignals view bus number).1 with result := () }

/-- Does one step after the other. -/
def steps (m : MessageInput) : List InputStep → Reaction Unit
  | [] => { result := (), input := m }
  | s :: rest =>
    let first := m.step s
    let later := first.input.steps rest
    { later with calls := first.calls ++ later.calls }

/-- What single operations amount to. -/
def inTurn (m : MessageInput) (ops : List (Operation × Session)) : Reaction Unit :=
  { result := (), input := m.after ops, calls := (m.run ops).flatMap (·.calls) }

theorem inTurn_append (m : MessageInput) (first second : List (Operation × Session)) :
    m.inTurn (first ++ second) =
      { (m.after first).inTurn second with
        calls := (m.inTurn first).calls ++ ((m.after first).inTurn second).calls } := by
  induction first generalizing m with
  | nil => rfl
  | cons step first ih =>
    obtain ⟨op, session⟩ := step
    have hrest := congrArg Reaction.calls (ih (m.perform session op).input)
    simp only [inTurn, List.cons_append, run, List.flatMap_cons, after_append, after_cons,
      List.append_assoc] at hrest ⊢
    rw [hrest]

/-- Draining a subscription of any bus is to handle what the bus gives out, in turn. -/
theorem drainWithin_eq_inTurn (m : MessageInput) (view : Nat → Session) (bus : SignalBus)
    (number n handled : Nat) :
    let drained := (m.drainWithin view bus number n handled).1
    let inTurn := m.inTurn (handling view handled (bus.receiveAll number n).1)
    drained.input = inTurn.input ∧ drained.calls = inTurn.calls := by
  induction n generalizing m bus handled with
  | zero => exact ⟨rfl, rfl⟩
  | succ n ih =>
    simp only [drainWithin, SignalBus.receiveAll]
    cases bus.receive number with
    | mk received bus' =>
      cases received with
      | none => exact ⟨rfl, rfl⟩
      | some signal =>
        obtain ⟨hinput, hcalls⟩ :=
          ih (m.handleSignal (view handled) signal).input bus' (handled + 1)
        dsimp only
        rw [hinput, hcalls]
        exact ⟨rfl, rfl⟩

theorem step_eq_inTurn (m : MessageInput) (s : InputStep) : m.step s = m.inTurn s.operations := by
  cases s with
  | perform op session =>
    simp only [step, inTurn, InputStep.operations, after_cons, after_nil, run, List.flatMap_cons,
      List.flatMap_nil, List.append_nil]
  | drain view bus number =>
    obtain ⟨hinput, hcalls⟩ := m.drainWithin_eq_inTurn view bus number bus.capacity 0
    rw [step, drainSignals, hinput, hcalls]
    rfl

/-- The run lemma for steps: they amount to their operations, in turn. -/
theorem steps_eq_inTurn (m : MessageInput) (steps : List InputStep) :
    m.steps steps = m.inTurn (steps.flatMap InputStep.operations) := by
  induction steps generalizing m with
  | nil => rfl
  | cons s rest ih =>
    rw [steps, step_eq_inTurn, List.flatMap_cons, inTurn_append]
    dsimp only
    rw [ih]
    rfl

/-! ## The form -/

variable {m : MessageInput} {session : Session} {op : Operation} {text : String}

/-- An edit of the text has nothing to do with the form. -/
theorem pending?_overlayAfterEdit (o : Overlay) (d : Draft) :
    (overlayAfterEdit o d).pending? = o.pending? := by
  unfold overlayAfterEdit
  cases o with
  | slashMenu =>
    dsimp only
    split
    · rfl
    · split <;> rfl
  | _ => split <;> rfl

theorem pending?_submit (m : MessageInput) (session : Session) :
    (m.submit session).input.overlay.pending? = m.overlay.pending? := by
  rcases m.submit_cases session with ⟨-, heq⟩ | ⟨-, -, heq⟩ | ⟨-, e, -, heq⟩
  · rw [heq]
  · rw [heq]
    exact m.overlay.pending?_closeMenu
  · rw [heq]
    rfl

theorem pending?_handleSignal (m : MessageInput) (session : Session) (signal : Signal) :
    (m.handleSignal session signal).input.overlay.pending? = m.overlay.pending? := by
  cases signal with
  | focusInput => rfl
  | followUp selected question autoSubmit =>
    rw [handleSignal_followUp]
    split
    · exact pending?_submit (m.asking selected question) session
    · rfl

/-- A text gets into the form by being pasted, and in no other way. -/
theorem pending?_of_perform (h : (m.perform session op).input.overlay.pending? = some text) :
    m.overlay.pending? = some text ∨
      op = .paste (.text text) ∧ session.responding = false := by
  cases op with
  | changeText value cursor =>
    have hkept := pending?_overlayAfterEdit m.overlay (m.draft.set value cursor)
    exact .inl (hkept.symm.trans h)
  | transcribe speech =>
    simp only [perform, transcribe, overlay_request] at h
    exact .inl h
  | closeMenu => exact .inl (m.overlay.pending?_closeMenu.symm.trans h)
  | insertPrompt prompt => exact .inl (m.overlay.pending?_closeMenu.symm.trans h)
  | runReserved command transcript =>
    cases command with
    | createTemplate => exact .inl (m.overlay.pending?_closeMenu.symm.trans h)
  | submit => exact .inl ((m.pending?_submit session).symm.trans h)
  | handleSignal signal => exact .inl ((m.pending?_handleSignal session signal).symm.trans h)
  | paste clipboard =>
    rcases m.paste_cases session clipboard with
      ⟨-, heq⟩ | ⟨hidle, ⟨incoming, -, heq⟩ | ⟨pasted, rfl, ⟨-, heq⟩ | ⟨-, -, heq⟩ | ⟨-, -, heq⟩⟩⟩
    all_goals simp only [perform, heq] at h
    · exact .inl h
    · exact .inl h
    · exact .inl h
    · exact .inl h
    · obtain rfl := Option.some.inj h
      exact .inr ⟨rfl, hidle⟩
  | takeFiles files =>
    rcases m.takeFiles_cases session files with ⟨-, heq⟩ | ⟨-, heq⟩
    all_goals
      simp only [perform, heq] at h
      exact .inl h
  | discardPaste =>
    simp only [perform, discardPaste] at h
    split at h
    · exact absurd h (by simp [Overlay.pending?])
    · exact .inl h
  | savePaste title choice description =>
    rcases m.savePaste_cases session title choice description with
      ⟨-, heq⟩ | ⟨content, -, ⟨artifact, -, heq⟩ | ⟨e, -, heq⟩⟩
    all_goals simp only [perform, heq] at h
    · exact .inl h
    · exact absurd h (by simp [Overlay.pending?])
    · exact absurd h (by simp [Overlay.pending?])
  | cancelResponse =>
    rcases m.cancelResponse_cases session with ⟨-, heq⟩ | ⟨-, -, heq⟩ | ⟨-, e, -, heq⟩
    all_goals
      simp only [perform, heq] at h
      exact .inl h
  | observeResponding responding =>
    simp only [perform, observeResponding] at h
    split at h <;> exact .inl h
  | selectPrompt group =>
    rcases m.selectPrompt_cases group with ⟨-, heq⟩ | ⟨-, ⟨-, heq⟩ | ⟨-, heq⟩⟩
    all_goals simp only [perform, heq] at h
    · exact .inl h
    · exact .inl (m.overlay.pending?_closeMenu.symm.trans h)
    · exact absurd h (by simp [opening, Overlay.pending?])
  | submitVariables values =>
    rcases m.submitVariables_cases values with ⟨-, heq⟩ | ⟨dialog, -, ⟨-, heq⟩ | ⟨-, heq⟩⟩
    all_goals simp only [perform, heq] at h
    · exact .inl h
    · exact .inl h
    · exact absurd h (by simp [Overlay.pending?])
  | cancelVariables =>
    simp only [perform, cancelVariables] at h
    split at h
    · exact absurd h (by simp [Overlay.pending?])
    · exact .inl h
  | applyPending pending =>
    rcases m.applyPending_cases pending with
      ⟨-, heq⟩ | ⟨p, -, ⟨-, heq⟩ | ⟨-, -, heq⟩ | ⟨-, -, heq⟩⟩
    all_goals simp only [perform, heq] at h
    · exact .inl h
    · exact .inl h
    · exact .inl h
    · exact absurd h (by simp [opening, Overlay.pending?])
  | observeSession id =>
    rcases m.observeSession_cases id with ⟨-, heq⟩ | ⟨-, heq⟩
    all_goals simp only [perform, heq] at h
    · exact absurd h (by simp [Overlay.pending?])
    · exact .inl h
  | _ => exact .inl h

/-! ## The lock -/

/-- The question takes the place of the text, with the cursor behind it, and the quoted selection
that of the context. -/
theorem asking_of_question {question : String} (h : Text.isBlank question = false)
    (m : MessageInput) (selected : String) :
    m.asking selected (some question) =
      { m with draft :=
          { text := question, cursor := question.length,
            context := some (quoteSelection selected) } } := by
  have hquoted := Text.nonBlank?_of_not_isBlank (isBlank_quoteSelection selected)
  simp only [asking, Text.nonBlank?_of_not_isBlank h, Draft.setContext, Draft.setText, hquoted]

/-- What an operation comes to while a response is in progress. -/
structure Locked (m : MessageInput) (session : Session) (op : Operation) : Prop where
  nothing_sent : (m.perform session op).calls.filterMap Call.message? = []
  no_file_taken : (m.perform session op).input.files.files.Sublist m.files.files
  form_not_opened : ∀ text, (m.perform session op).input.overlay = .artifactForm text →
    m.overlay = .artifactForm text
  paste_ignored : ∀ clipboard, op = .paste clipboard →
    m.perform session op = { result := .pasted .ignored, input := m }
  /-- A question that is to be sent at once waits in the draft, with what it is about. -/
  question_waits : ∀ selected question,
    op = .handleSignal (.followUp selected (some question) true) → Text.isBlank question = false →
    m.perform session op =
      { result := .done,
        input :=
          { m with draft :=
              { text := question, cursor := question.length,
                context := some (quoteSelection selected) } } }

theorem canSubmit_of_responding (hbusy : session.responding = true) :
    m.canSubmit session = false := by
  rw [canSubmit, hbusy]
  rfl

/-- The step lemma: every operation respects the lock. -/
theorem locked_of_responding (m : MessageInput) (op : Operation)
    (hbusy : session.responding = true) : Locked m session op where
  nothing_sent := by
    cases hready : m.atSending? op with
    | none => exact messages_perform_of_none hready session
    | some ready =>
      rw [messages_perform hready session, canSubmit_of_responding hbusy, if_neg Bool.false_ne_true]
  no_file_taken := by
    have horder := (accounted_perform m session op).order
    have haccepted : m.accepted session op = [] := by rw [accepted, if_pos hbusy]
    rwa [haccepted, List.append_nil] at horder
  form_not_opened := by
    intro text hover
    rw [← Overlay.pending?_eq_some_iff] at hover ⊢
    rcases pending?_of_perform hover with hpending | ⟨-, hidle⟩
    · exact hpending
    · exact absurd (hbusy.symm.trans hidle) (by decide)
  paste_ignored := by
    rintro clipboard rfl
    rcases m.paste_cases session clipboard with ⟨-, heq⟩ | ⟨hidle, -⟩
    · rw [perform, heq]
    · exact absurd (hbusy.symm.trans hidle) (by decide)
  question_waits := by
    rintro selected question rfl hquestion
    have hrefused := submit_of_not_canSubmit
      (canSubmit_of_responding (m := m.asking selected (some question)) hbusy)
    rw [perform, handleSignal_followUp, Text.nonBlank?_of_not_isBlank hquestion, hrefused,
      asking_of_question hquestion]
    rfl

/-- The run lemma: nothing is sent by a run that is locked, it takes no file and opens no form. -/
theorem inTurn_of_responding (m : MessageInput) (ops : List (Operation × Session))
    (hbusy : ∀ step ∈ ops, step.2.responding = true) :
    (m.inTurn ops).calls.filterMap Call.message? = [] ∧
    (m.after ops).files.files.Sublist m.files.files ∧
    ∀ text, (m.after ops).overlay = .artifactForm text → m.overlay = .artifactForm text := by
  induction ops generalizing m with
  | nil => exact ⟨rfl, List.Sublist.refl _, fun _ => id⟩
  | cons step ops ih =>
    obtain ⟨op, session⟩ := step
    obtain ⟨hfirst, hrest⟩ := List.forall_mem_cons.mp hbusy
    have hlocked := locked_of_responding m op hfirst
    obtain ⟨hsent, hfiles, hform⟩ := ih (m.perform session op).input hrest
    refine ⟨?_, hfiles.trans hlocked.no_file_taken, ?_⟩
    · rw [inTurn, run, List.flatMap_cons, List.filterMap_append, hlocked.nothing_sent]
      exact hsent
    · intro text hover
      exact hlocked.form_not_opened text (hform text hover)

/-- Whatever an input is put through while a response is in progress, drained subscriptions
included: no message is sent, no file is taken in and the artifact form is not opened. Every
operation on the way respects the lock, be it performed or the handling of a signal that waited: a
paste is ignored and changes nothing, and a question that is to be sent at once waits in the draft
with the quoted selection. -/
theorem locked_while_responding (m : MessageInput) (steps : List InputStep)
    (hbusy : ∀ s ∈ steps, s.WhileResponding) :
    let run := m.steps steps
    let ops := steps.flatMap InputStep.operations
    run.calls.filterMap Call.message? = [] ∧
    run.input.files.files.Sublist m.files.files ∧
    (∀ text, run.input.overlay = .artifactForm text → m.overlay = .artifactForm text) ∧
    run.input = m.after ops ∧ run.calls = (m.run ops).flatMap (·.calls) ∧
    ∀ earlier op session later, ops = earlier ++ (op, session) :: later →
      Locked (m.after earlier) session op := by
  intro run ops
  have hops : ∀ step ∈ ops, step.2.responding = true := by
    intro step hstep
    obtain ⟨s, hs, hstep⟩ := List.mem_flatMap.mp hstep
    exact (hbusy s hs).operations step hstep
  have hrun : run = m.inTurn ops := m.steps_eq_inTurn steps
  obtain ⟨hsent, hfiles, hform⟩ := m.inTurn_of_responding ops hops
  rw [hrun]
  refine ⟨hsent, hfiles, hform, rfl, rfl, ?_⟩
  intro earlier op session later hsplit
  refine locked_of_responding _ op (hops (op, session) ?_)
  rw [hsplit]
  exact List.mem_append_right earlier List.mem_cons_self

/-- A question that was published meanwhile waits for the end of the response, and a paste is
lost. -/
theorem published_question_waits :
    let busy : Session := { Session.idle with responding := true }
    let m := start { charThreshold := 1 } busy
    let bus := (({ capacity := 1 } : SignalBus).subscribe.2.publish
      (.followUp "x" (some "why?") true)).2
    let steps : List InputStep :=
      [.perform (.paste (.text "ab")) busy, .drain (fun _ => busy) bus 0]
    (∀ s ∈ steps, s.WhileResponding) ∧
    (m.steps steps).calls.filterMap Call.message? = [] ∧
    (m.steps steps).input.overlay = .none ∧
    (m.steps steps).input.draft.text = "why?" := by
  intro busy m bus steps
  have hbusy : ∀ s ∈ steps, s.WhileResponding := by simp [steps, InputStep.WhileResponding, busy]
  obtain ⟨hsent, -, -, hinput, -, hlocked⟩ := m.locked_while_responding steps hbusy
  have hops : steps.flatMap InputStep.operations =
      [(.paste (.text "ab"), busy)] ++
        [(.handleSignal (.followUp "x" (some "why?") true), busy)] := rfl
  have hwaits := (hlocked _ _ _ _ hops).question_waits "x" "why?" rfl (by decide)
  refine ⟨hbusy, hsent, by decide +kernel, ?_⟩
  rw [hinput, hops, after_append, after_cons, hwaits, after_nil]

end MessageInput
end Composer
