set_option autoImplicit false

/-!
# Watching the session

The id of the active session is observed from time to time. Only the change from one defined id to
something else counts as a change; the first id that is seen does not.
-/

namespace Composer

/-- What an observation shows. -/
inductive SessionTransition where
  /-- The id is as before, or still unset. -/
  | unchanged
  /-- An id is seen where there was none. -/
  | initial (id : String)
  /-- A defined id gave way to another one, or to none. -/
  | changed (before : String) (after : Option String)
  deriving DecidableEq, Repr

/-- Whether what was composed for the session before has to go. -/
def SessionTransition.requiresReset : SessionTransition → Bool
  | .changed _ _ => true
  | _ => false

/-- The id that was observed last. -/
structure SessionTracker where
  current : Option String := none
  deriving DecidableEq, Repr

namespace SessionTracker

/-- What an observation of `next` shows. -/
def transition (t : SessionTracker) (next : Option String) : SessionTransition :=
  match t.current, next with
  | none, none => .unchanged
  | none, some id => .initial id
  | some old, next => if next = some old then .unchanged else .changed old next

/-- Observes an id. -/
def observe (_ : SessionTracker) (next : Option String) : SessionTracker := { current := next }

end SessionTracker
end Composer
