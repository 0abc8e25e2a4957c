import Composer.Signal
set_option autoImplicit false

/-!
# The signal bus

Signals go to every subscription that exists when they are published. The bus retains the newest of
them, as many as its capacity; a subscription that fell further behind is told so once and continues
with the oldest signal that is retained. Positions count the published signals from the bus's start.

A bus and its clones are one bus, which closes when the last of them is dropped.
-/

namespace Composer

/-- A bus with its subscriptions. -/
structure SignalBus where
  /-- How many signals are retained: a power of two. -/
  capacity : Nat
  /-- How many signals were published to somebody. -/
  published : Nat := 0
  /-- The retained signals, the oldest first. -/
  retained : List Signal := []
  /-- The number of each live subscription and the position of the signal it receives next. -/
  subscriptions : List (Nat × Nat) := []
  /-- The number of the next subscription. -/
  nextNumber : Nat := 0
  /-- How many there are of the bus and its clones. -/
  handles : Nat := 1
  deriving DecidableEq, Repr

namespace SignalBus

/-- The capacity of a bus for which none is given. -/
def defaultCapacity : Nat := 64

/-- The least power of two that is at least `n`. -/
@[irreducible] def powerAtLeast (n : Nat) : Nat := if n ≤ 1 then 1 else 1 <<< ((n - 1).log2 + 1)

/-- A bus that retains at least `capacity` signals, and at least one. -/
def withCapacity (capacity : Nat) : SignalBus := { capacity := powerAtLeast (max capacity 1) }

/-- Whether anything can still be published. -/
def isOpen (b : SignalBus) : Bool := b.handles != 0

/-- Clones the bus. -/
def clone (b : SignalBus) : SignalBus := { b with handles := b.handles + 1 }

/-- Drops the bus or one of its clones. What is retained can still be received. -/
def drop (b : SignalBus) : SignalBus := { b with handles := b.handles - 1 }

/-- How many subscriptions there are. -/
def subscriberCount (b : SignalBus) : Nat := b.subscriptions.length

/-- The position of the oldest signal that is retained. -/
def oldest (b : SignalBus) : Nat := b.published - b.retained.length

/-- Subscribes to everything published from now on; the result is the subscription's number. -/
def subscribe (b : SignalBus) : Nat × SignalBus :=
  (b.nextNumber,
    { b with
      subscriptions := b.subscriptions ++ [(b.nextNumber, b.published)],
      nextNumber := b.nextNumber + 1 })

/-- Ends a subscription. -/
def unsubscribe (b : SignalBus) (number : Nat) : SignalBus :=
  { b with subscriptions := b.subscriptions.filter fun s => s.1 != number }

/-- Publishes a signal; the result is how many subscriptions will see it. Without any, the signal is
dropped. -/
def publish (b : SignalBus) (signal : Signal) : Nat × SignalBus :=
  if b.subscriptions.isEmpty then (0, b)
  else
    let all := b.retained ++ [signal]
    (b.subscriptions.length,
      { b with published := b.published + 1, retained := all.drop (all.length - b.capacity) })

/-- Moves a subscription to a position. -/
def moveTo (b : SignalBus) (number position : Nat) : SignalBus :=
  { b with
    subscriptions := b.subscriptions.map fun s => if s.1 = number then (number, position) else s }

/-! ## Receiving -/

/-- What the bus answers to a subscription that asks for its next signal. -/
inductive Poll where
  | signal (s : Signal)
  /-- So many signals are retained no longer that were not received. -/
  | lagged (missed : Nat)
  | nothing
  deriving DecidableEq, Repr

/-- Asks once. A subscription that fell behind is told how far and moved to the oldest signal. -/
def poll (b : SignalBus) (number : Nat) : Poll × SignalBus :=
  match b.subscriptions.lookup number with
  | none => (.nothing, b)
  | some next =>
    if next < b.oldest then (.lagged (b.oldest - next), b.moveTo number b.oldest)
    else match b.retained[next - b.oldest]? with
      | some signal => (.signal signal, b.moveTo number (next + 1))
      | none => (.nothing, b)

/-- Asks for as long as the answer is that the subscription fell behind, at most `n` times. -/
def receiveWithin (b : SignalBus) (number : Nat) : (n : Nat) → Option Signal × SignalBus
  | 0 => (none, b)
  | n + 1 =>
    match b.poll number with
    | (.signal signal, b) => (some signal, b)
    | (.lagged _, b) => b.receiveWithin number n
    | (.nothing, b) => (none, b)

/-- The next signal of a subscription, if there is one. Once it was told that it fell behind it is
not behind, so it asks no third time. -/
def receive (b : SignalBus) (number : Nat) : Option Signal × SignalBus := b.receiveWithin number 2

/-- What comes of waiting for a signal. -/
inductive Arrival where
  | signal (s : Signal)
  /-- None is there yet. -/
  | pending
  /-- None can come any more. -/
  | ended
  deriving DecidableEq, Repr

/-- Waits for the next signal of a subscription. -/
def await (b : SignalBus) (number : Nat) : Arrival × SignalBus :=
  match b.receive number with
  | (some signal, b) => (.signal signal, b)
  | (none, b) =>
    let isLive := b.subscriptions.any fun s => s.1 == number
    (if b.isOpen && isLive then .pending else .ended, b)

/-- All signals that wait for a subscription, at most `n` of them, in order. -/
def receiveAll (b : SignalBus) (number : Nat) : (n : Nat) → List Signal × SignalBus
  | 0 => ([], b)
  | n + 1 =>
    match b.receive number with
    | (none, b) => ([], b)
    | (some signal, b) =>
      let (signals, b) := b.receiveAll number n
      (signal :: signals, b)

end SignalBus
end Composer
