import Composer.MessageInput
import Composer.SignalBus
set_option autoImplicit false

/-!
# Draining a subscription

The input handles the signals that wait for a subscription until none is left, each with what it
sees of the session at that moment.
-/

namespace Composer.MessageInput

/-- Handles signals as they are received, at most `n` of them; the result counts them. While it
handles the one behind `handled` others, the input sees `view handled` of the session. -/
def drainWithin (m : MessageInput) (view : Nat → Session) (bus : SignalBus) (number : Nat) :
    (n : Nat) → (handled : Nat) → Reaction Nat × SignalBus
  | 0, handled => ({ result := handled, input := m }, bus)
  | n + 1, handled =>
    match bus.receive number with
    | (none, bus) => ({ result := handled, input := m }, bus)
    | (some signal, bus) =>
      let first := m.handleSignal (view handled) signal
      let (rest, bus) := first.input.drainWithin view bus number n (handled + 1)
      ({ rest with calls := first.calls ++ rest.calls }, bus)

/-- Handles every signal that waits for a subscription. There are no more than the bus retains, and
none is published meanwhile. -/
def drainSignals (m : MessageInput) (view : Nat → Session) (bus : SignalBus) (number : Nat) :
    Reaction Nat × SignalBus :=
  m.drainWithin view bus number bus.capacity 0

end Composer.MessageInput
