import Composer.Proofs.MessageInput.Observing
import Composer.Proofs.MessageInput.WellFormed
set_option autoImplicit false

/-!
# What is composed for one session stays there

The input remembers the id that it observed last. An observation by which a defined id is gone
leaves the input as a fresh one, whatever was being composed; every other observation only
remembers. So nothing that was composed for one session shows in the next one.
-/

namespace Composer

/-! ## What an observation shows -/

namespace SessionTracker

variable {t : SessionTracker}

theorem transition_of_gone {old : String} {next : Option String} (hold : t.current = some old)
    (hnext : next ≠ some old) : t.transition next = .changed old next := by
  simp only [transition, hold, if_neg hnext]

/-- The input has to be reset exactly if a defined id is gone. -/
theorem requiresReset_transition_iff (next : Option String) :
    (t.transition next).requiresReset = true ↔ t.current ≠ none ∧ next ≠ t.current := by
  cases hcurrent : t.current with
  | none =>
    have hkept : (t.transition next).requiresReset = false := by
      simp only [transition, hcurrent]
      cases next <;> rfl
    simp [hkept]
  | some old =>
    by_cases hnext : next = some old
    · have hsame : t.transition next = .unchanged := by
        simp only [transition, hcurrent, if_pos hnext]
      rw [hsame]
      simp [hnext, SessionTransition.requiresReset]
    · rw [transition_of_gone hcurrent hnext]
      simp [hnext, SessionTransition.requiresReset]

end SessionTracker

namespace MessageInput

/-! ## The id observed last -/

/-- The id that an operation observes, if it observes the session. -/
def observed? : Operation → Option (Option String)
  | .observeSession id => some id
  | _ => none

/-- The ids that a run observes, in order. -/
def observedIds (ops : List (Operation × Session)) : List (Option String) :=
  ops.filterMap fun step => observed? step.1

theorem observedIds_cons (op : Operation) (session : Session) (ops : List (Operation × Session)) :
    observedIds ((op, session) :: ops) = (observed? op).toList ++ observedIds ops := by
  rw [observedIds, List.filterMap_cons]
  cases observed? op <;> rfl

variable {m : MessageInput}

theorem current_perform (session : Session) (op : Operation) :
    (m.perform session op).input.tracker.current = (observed? op).getD m.tracker.current := by
  cases hobserves : op.isObservation with
  | false =>
    have hnone : observed? op = none := by
      cases op with
      | observeSession id => exact absurd hobserves (by simp [Operation.isObservation])
      | _ => rfl
    rw [hnone]
    exact congrArg Situation.sessionId (m.situation_perform session hobserves)
  | true =>
    cases op with
    | observeSession id => exact congrArg Situation.sessionId (m.situation_observeSession id)
    | observeResponding isResponding =>
      exact congrArg Situation.sessionId (m.situation_observeResponding isResponding)
    | _ => exact absurd hobserves (by simp [Operation.isObservation])

/-- The run lemma: the id that is remembered is the one that was observed last. -/
theorem current_after (m : MessageInput) (ops : List (Operation × Session)) :
    (m.after ops).tracker.current = (observedIds ops).getLastD m.tracker.current := by
  induction ops generalizing m with
  | nil => rfl
  | cons step ops ih =>
    obtain ⟨op, session⟩ := step
    rw [after_cons, ih, current_perform, observedIds_cons]
    cases observed? op with
    | none => rfl
    | some id => exact (List.getLastD_cons ..).symm

/-! ## The change of session -/

/-- Behind a change of session nothing is left by which two inputs could be told apart, except what
the view is still asked for and whether a response was in progress. -/
theorem observeSession_congr {other : MessageInput} {id : Option String}
    (hgone : (m.tracker.transition id).requiresReset = true)
    (hclassifier : other.classifier = m.classifier)
    (hcurrent : other.tracker.current = m.tracker.current)
    (hresponding : other.wasResponding = m.wasResponding) (heffects : other.effects = m.effects) :
    other.observeSession id = m.observeSession id := by
  have htracker : other.tracker = m.tracker := congrArg SessionTracker.mk hcurrent
  rcases m.observeSession_cases id with ⟨-, hm⟩ | ⟨hkept, -⟩
  · rcases other.observeSession_cases id with ⟨-, hother⟩ | ⟨hkept, -⟩
    · rw [hm, hother, htracker, hclassifier, hresponding, heffects]
    · rw [htracker, hgone] at hkept
      exact absurd hkept (by simp)
  · rw [hgone] at hkept
    exact absurd hkept (by simp)

/-- In every run, an observation resets the input exactly if the id observed before it was defined
and is gone, and then it reports both. The reset leaves the input as a fresh one for the new
session, and equal to any other input of which only the classifier, the remembered id, the progress
of a response and the requests to the view were the same. Any other observation changes nothing but
the remembered id. -/
theorem input_isolated_between_sessions (classifier : PasteClassifier) (first : Session)
    (ops : List (Operation × Session)) (session : Session) (id : Option String) :
    let m := (start classifier first).after ops
    let before := (observedIds ops).getLastD first.id
    let r := m.perform session (.observeSession id)
    let gone := before ≠ none ∧ id ≠ before
    m.tracker.current = before ∧ r.input.tracker.current = id ∧ r.calls = [] ∧
    (∃ report, r.result = .session report ∧ (report.requiresReset = true ↔ gone) ∧
      ∀ old, before = some old → id ≠ some old → report = .changed old id) ∧
    (gone → ∀ later : Session, later.id = id →
      r.input =
        { start classifier later with wasResponding := m.wasResponding, effects := m.effects }) ∧
    (¬gone → r.input = { m with tracker := { current := id } }) ∧
    (gone → ∀ (other : MessageInput) (view : Session), other.classifier = m.classifier →
      other.tracker.current = m.tracker.current → other.wasResponding = m.wasResponding →
      other.effects = m.effects → other.perform view (.observeSession id) = r) := by
  intro m before r gone
  have hcurrent : m.tracker.current = before := current_after (start classifier first) ops
  have hclassifier : m.classifier = classifier :=
    ((wellFormed_start classifier first).after ops).classifier_eq
  have hreset : (m.tracker.transition id).requiresReset = true ↔ gone := by
    rw [SessionTracker.requiresReset_transition_iff, hcurrent]
  refine ⟨hcurrent, current_perform session (.observeSession id), rfl,
    ⟨(m.observeSession id).1, rfl, ?_, ?_⟩, ?_, ?_, ?_⟩
  · rcases m.observeSession_cases id with ⟨-, heq⟩ | ⟨-, heq⟩
    all_goals
      rw [heq]
      exact hreset
  · intro old hold hnext
    have hgone := SessionTracker.transition_of_gone (hcurrent.trans hold) hnext
    rcases m.observeSession_cases id with ⟨-, heq⟩ | ⟨-, heq⟩
    all_goals
      rw [heq]
      exact hgone
  · intro hgone later hlater
    rcases m.observeSession_cases id with ⟨-, heq⟩ | ⟨hkept, -⟩
    · have hinput := congrArg Prod.snd heq
      rw [hclassifier, ← hlater] at hinput
      subst hlater
      exact hinput
    · rw [hreset.mpr hgone] at hkept
      exact absurd hkept (by simp)
  · intro hkept
    rcases m.observeSession_cases id with ⟨hgone, -⟩ | ⟨-, heq⟩
    · exact absurd (hreset.mp hgone) hkept
    · exact congrArg Prod.snd heq
  · intro hgone other view hsame hid hresponding heffects
    have heq := observeSession_congr (hreset.mpr hgone) hsame hid hresponding heffects
    simp only [perform, heq, r]

end MessageInput
end Composer
