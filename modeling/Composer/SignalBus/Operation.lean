import Composer.SignalBus
set_option autoImplicit false

/-!
# The steps of a bus as data

Everything that can be done with a bus, its clones and its subscriptions as a value, so that a whole
run is a list. `events` keeps each step with what came of it, `after` the last state.
-/

namespace Composer

/-- A step of a run. -/
inductive BusStep where
  | clone
  | drop
  | subscribe
  | unsubscribe (number : Nat)
  | publish (signal : Signal)
  | receive (number : Nat)
  | await (number : Nat)
  deriving DecidableEq, Repr

/-- What comes of a step. -/
inductive BusReply where
  | done
  /-- The bus and its clones are dropped, so that there is none to do the step with. -/
  | refused
  | subscribed (number : Nat)
  /-- So many subscriptions will see the signal. -/
  | published (count : Nat)
  | received (signal : Option Signal)
  | arrived (arrival : SignalBus.Arrival)
  deriving DecidableEq, Repr

/-- A step with what came of it. -/
structure BusEvent where
  step : BusStep
  reply : BusReply
  deriving DecidableEq, Repr

namespace BusEvent

/-- The signal that was published. -/
def published? (e : BusEvent) : Option Signal :=
  match e.step, e.reply with
  | .publish signal, .published _ => some signal
  | _, _ => none

/-- The subscription that asked for its next signal. -/
def asker? (e : BusEvent) : Option Nat :=
  match e.step with
  | .receive number => some number
  | .await number => some number
  | _ => none

/-- The signal that was received. -/
def signal? (e : BusEvent) : Option Signal :=
  match e.reply with
  | .received signal => signal
  | .arrived (.signal signal) => some signal
  | _ => none

/-- The subscription that started. -/
def started? (e : BusEvent) : Option Nat :=
  match e.reply with
  | .subscribed number => some number
  | _ => none

/-- The subscription that ended. -/
def ended? (e : BusEvent) : Option Nat :=
  match e.step with
  | .unsubscribe number => some number
  | _ => none

/-- The signals that were published, in order. -/
def published (events : List BusEvent) : List Signal := events.filterMap published?

/-- The signals that a subscription received, in order. -/
def receivedBy (number : Nat) (events : List BusEvent) : List Signal :=
  events.filterMap fun e => if e.asker? = some number then e.signal? else none

/-- The subscriptions that started and did not end afterwards. -/
def live : List BusEvent → List Nat
  | [] => []
  | e :: later =>
    let lasts (number : Nat) : Bool := !later.any fun e => e.ended? == some number
    (e.started?.filter lasts).toList ++ live later

end BusEvent

namespace SignalBus

/-- Does one step. -/
def perform (b : SignalBus) : BusStep → BusReply × SignalBus
  | .clone => if b.isOpen then (.done, b.clone) else (.refused, b)
  | .drop => if b.isOpen then (.done, b.drop) else (.refused, b)
  | .subscribe =>
    if b.isOpen then
      let (number, b) := b.subscribe
      (.subscribed number, b)
    else (.refused, b)
  | .unsubscribe number => (.done, b.unsubscribe number)
  | .publish signal =>
    if b.isOpen then
      let (count, b) := b.publish signal
      (.published count, b)
    else (.refused, b)
  | .receive number =>
    let (signal, b) := b.receive number
    (.received signal, b)
  | .await number =>
    let (arrival, b) := b.await number
    (.arrived arrival, b)

/-- What one step is with its reply. -/
def event (b : SignalBus) (step : BusStep) : BusEvent := { step, reply := (b.perform step).1 }

/-- The events of a run. -/
def events (b : SignalBus) : List BusStep → List BusEvent
  | [] => []
  | step :: steps => b.event step :: (b.perform step).2.events steps

/-- The state after a run. -/
def after (b : SignalBus) (steps : List BusStep) : SignalBus :=
  steps.foldl (fun b step => (b.perform step).2) b

@[simp] theorem after_nil (b : SignalBus) : b.after [] = b := rfl

@[simp] theorem after_cons (b : SignalBus) (step : BusStep) (steps : List BusStep) :
    b.after (step :: steps) = (b.perform step).2.after steps := rfl

theorem after_append (b : SignalBus) (first second : List BusStep) :
    b.after (first ++ second) = (b.after first).after second := by
  simp [after]

theorem events_append (b : SignalBus) (first second : List BusStep) :
    b.events (first ++ second) = b.events first ++ (b.after first).events second := by
  induction first generalizing b with
  | nil => rfl
  | cons step first ih =>
    rw [List.cons_append, events, events, ih, after_cons, List.cons_append]

theorem events_concat (b : SignalBus) (steps : List BusStep) (step : BusStep) :
    b.events (steps ++ [step]) = b.events steps ++ [(b.after steps).event step] :=
  b.events_append steps [step]

end SignalBus
end Composer
