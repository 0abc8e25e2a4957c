import Composer.Proofs.Backend.Events
import Composer.Proofs.MessageInput.Frame
set_option autoImplicit false

/-!
# What the input has observed

The input observes which session is active and whether a response is in progress. Only the two
operations for it change what has been observed.
-/

namespace Composer

/-- Whether an operation observes the session or its responses. -/
def Operation.isObservation : Operation → Bool
  | .observeSession _ => true
  | .observeResponding _ => true
  | _ => false

namespace MessageInput

variable (m : MessageInput) (session : Session)

/-- The situation of the backend as far as the input has observed it. -/
def situation (m : MessageInput) : Situation :=
  { sessionId := m.tracker.current, isResponding := m.wasResponding }

theorem situation_submit : (m.submit session).input.situation = m.situation := by
  rcases m.submit_cases session with ⟨-, heq⟩ | ⟨-, -, heq⟩ | ⟨-, e, -, heq⟩
  all_goals exact congrArg (fun r => r.input.situation) heq

theorem situation_handleSignal (signal : Signal) :
    (m.handleSignal session signal).input.situation = m.situation := by
  cases signal with
  | focusInput => rfl
  | followUp selected question autoSubmit =>
    rw [handleSignal_followUp]
    split
    · exact (m.asking selected question).situation_submit session
    · rfl

/-- Only observations change what the input has observed. -/
theorem situation_perform {op : Operation} (h : op.isObservation = false) :
    (m.perform session op).input.situation = m.situation := by
  cases op with
  | observeSession id => exact absurd h (by simp [Operation.isObservation])
  | observeResponding isResponding => exact absurd h (by simp [Operation.isObservation])
  | submit => exact m.situation_submit session
  | handleSignal signal => exact m.situation_handleSignal session signal
  | paste clipboard =>
    rcases m.paste_cases session clipboard with
      ⟨-, heq⟩ | ⟨-, ⟨incoming, -, heq⟩ | ⟨text, -, ⟨-, heq⟩ | ⟨-, -, heq⟩ | ⟨-, -, heq⟩⟩⟩
    all_goals exact congrArg (fun r => r.2.situation) heq
  | takeFiles files =>
    rcases m.takeFiles_cases session files with ⟨-, heq⟩ | ⟨-, heq⟩
    all_goals exact congrArg (fun r => r.2.situation) heq
  | savePaste title choice description =>
    rcases m.savePaste_cases session title choice description with
      ⟨-, heq⟩ | ⟨content, -, ⟨artifact, -, heq⟩ | ⟨e, -, heq⟩⟩
    all_goals exact congrArg (fun r => r.input.situation) heq
  | discardPaste =>
    simp only [perform, discardPaste]
    split <;> rfl
  | cancelResponse =>
    rcases m.cancelResponse_cases session with ⟨-, heq⟩ | ⟨-, -, heq⟩ | ⟨-, e, -, heq⟩
    all_goals exact congrArg (fun r => r.input.situation) heq
  | selectPrompt group =>
    rcases m.selectPrompt_cases group with ⟨-, heq⟩ | ⟨-, ⟨-, heq⟩ | ⟨-, heq⟩⟩
    all_goals exact congrArg (fun r => r.2.situation) heq
  | submitVariables values =>
    rcases m.submitVariables_cases values with ⟨-, heq⟩ | ⟨dialog, -, ⟨-, heq⟩ | ⟨-, heq⟩⟩
    all_goals exact congrArg (fun r => r.2.situation) heq
  | cancelVariables =>
    simp only [perform, cancelVariables]
    split <;> rfl
  | applyPending pending =>
    rcases m.applyPending_cases pending with
      ⟨-, heq⟩ | ⟨p, -, ⟨-, heq⟩ | ⟨-, -, heq⟩ | ⟨-, -, heq⟩⟩
    all_goals exact congrArg (fun r => r.2.2.situation) heq
  | runReserved command transcript =>
    cases command
    rfl
  | _ => rfl

theorem situation_observeSession (id : Option String) :
    (m.observeSession id).2.situation = { m.situation with sessionId := id } := by
  rcases m.observeSession_cases id with ⟨-, heq⟩ | ⟨-, heq⟩
  all_goals exact congrArg (fun r => r.2.situation) heq

/-- Observing the first session changes nothing else. -/
theorem observeSession_of_unset {m : MessageInput} (h : m.tracker.current = none) (id : String) :
    (m.observeSession (some id)).2 = { m with tracker := { current := some id } } := by
  have htransition : m.tracker.transition (some id) = .initial id := by
    simp only [SessionTracker.transition, h]
  rcases m.observeSession_cases (some id) with ⟨hreset, -⟩ | ⟨-, heq⟩
  · rw [htransition] at hreset
    exact absurd hreset (by simp [SessionTransition.requiresReset])
  · rw [heq]
    rfl

theorem situation_observeResponding (isResponding : Bool) :
    (m.observeResponding isResponding).situation = { m.situation with isResponding } := by
  unfold observeResponding
  dsimp only
  split <;> rfl

end MessageInput
end Composer
