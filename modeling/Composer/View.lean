set_option autoImplicit false

/-!
# Requests to the view

Work that the host does once the latest state is on screen. A request that is already waiting is not
queued again.
-/

namespace Composer

/-- Something the host is asked to do. -/
inductive ViewEffect where
  | focusInput
  | scrollToBottom
  deriving DecidableEq, Repr

/-- Requests that wait for the next rendering, in the order in which they were first made. -/
structure ViewEffects where
  queue : List ViewEffect := []
  deriving DecidableEq, Repr

namespace ViewEffects

/-- Makes a request unless it is waiting already. -/
def push (q : ViewEffects) (e : ViewEffect) : ViewEffects :=
  if e ∈ q.queue then q else { queue := q.queue ++ [e] }

/-- Takes all waiting requests. -/
def drain (q : ViewEffects) : List ViewEffect × ViewEffects := (q.queue, {})

/-- Whether nothing is waiting. -/
def isEmpty (q : ViewEffects) : Bool := q.queue.isEmpty

end ViewEffects
end Composer
