import Composer.MessageInput.Draining
import Composer.MessageInput.Operation
import Composer.Proofs.SignalBus.Ordering
set_option autoImplicit false

/-!
# Draining a subscription

To drain a subscription is to handle each signal that waits for it, in order, and to receive as
often as there are such signals: none is left, and for the other subscriptions nothing else
happened.
-/

namespace Composer.MessageInput

/-- Signals as operations, each with its view of the session. -/
def handling (view : Nat → Session) (first : Nat) (signals : List Signal) :
    List (Operation × Session) :=
  (signals.zipIdx first).map fun s => (.handleSignal s.1, view s.2)

/-- The input handles exactly these signals when it drains the subscription. -/
structure Drains (m : MessageInput) (view : Nat → Session) (bus : SignalBus) (number : Nat)
    (signals : List Signal) : Prop where
  result : (m.drainSignals view bus number).1.result = signals.length
  input : (m.drainSignals view bus number).1.input = m.after (handling view 0 signals)
  calls : (m.drainSignals view bus number).1.calls =
    (m.run (handling view 0 signals)).flatMap (·.calls)
  /-- The bus sees as many requests for a signal. -/
  requests : (m.drainSignals view bus number).2 =
    bus.after (List.replicate signals.length (.receive number))
  /-- Nothing is left to receive. -/
  rest : ((m.drainSignals view bus number).2.receive number).1 = none

variable {bus : SignalBus} {number next : Nat} {stored : List Signal}

/-- Draining with room for everything that waits handles just that, in order. -/
theorem drainWithin_eq (m : MessageInput) (view : Nat → Session) (n handled : Nat)
    (signals : List Signal) (hbus : bus.Serves number stored next)
    (hwaiting : bus.waiting number = signals) (hn : signals.length ≤ n) :
    m.drainWithin view bus number n handled =
      ({ result := handled + signals.length,
         input := m.after (handling view handled signals),
         calls := (m.run (handling view handled signals)).flatMap (·.calls) },
       bus.after (List.replicate signals.length (.receive number))) := by
  induction signals generalizing m bus next n handled with
  | nil =>
    cases n with
    | zero => rfl
    | succ n =>
      rw [drainWithin, hbus.receive_of_nil hwaiting]
      rfl
  | cons signal signals ih =>
    obtain ⟨n, rfl⟩ : ∃ k, n = k + 1 := ⟨n - 1, by rw [List.length_cons] at hn; omega⟩
    obtain ⟨hfirst, hrest⟩ := bus.receive_spec number
    rw [hwaiting] at hfirst hrest
    obtain ⟨next', hbus'⟩ := hbus.receive
    have hreceive : bus.receive number = (some signal, (bus.receive number).2) :=
      Prod.ext hfirst rfl
    have hlater := ih (m.handleSignal (view handled) signal).input n (handled + 1) hbus' hrest
      (Nat.le_of_succ_le_succ hn)
    have hcount : handled + 1 + signals.length = handled + (signals.length + 1) := by omega
    rw [drainWithin, hreceive]
    dsimp only
    rw [hlater]
    simp only [handling, List.zipIdx_cons, List.map_cons, after_cons, run, List.flatMap_cons,
      List.length_cons, List.replicate_succ, SignalBus.after_cons]
    rw [hcount]
    rfl

/-- After as many requests as signals wait none is left. -/
theorem waiting_after_requests (bus : SignalBus) (number n : Nat) :
    (bus.after (List.replicate n (.receive number))).waiting number =
      (bus.waiting number).drop n := by
  induction n generalizing bus with
  | zero => rfl
  | succ n ih =>
    rw [List.replicate_succ, SignalBus.after_cons, ih, SignalBus.perform,
      (bus.receive_spec number).2, List.drop_tail]

theorem drains (m : MessageInput) (view : Nat → Session)
    (hbus : bus.Serves number stored next) :
    m.Drains view bus number (bus.waiting number) := by
  have hroom : (bus.waiting number).length ≤ bus.capacity :=
    Nat.le_trans (bus.length_waiting_le number) hbus.fits
  have hdrain := drainWithin_eq m view bus.capacity 0 _ hbus rfl hroom
  rw [Nat.zero_add] at hdrain
  have hrest : ((m.drainSignals view bus number).2.receive number).1 = none := by
    rw [(SignalBus.receive_spec _ number).1, drainSignals, hdrain, waiting_after_requests,
      List.drop_length]
    rfl
  exact ⟨by rw [drainSignals, hdrain], by rw [drainSignals, hdrain],
    by rw [drainSignals, hdrain], by rw [drainSignals, hdrain], hrest⟩

end Composer.MessageInput

namespace Composer.SignalBus

open BusEvent (unread Delivery)

/-- Whatever is done with a bus, its clones and its subscriptions: the bus has room for as many
signals as the next power of two says; to publish gives the number of live subscriptions; to receive
is to ask for as long as the subscription is told to be behind, which is at most once; and each
subscription that lasts receives what was published since it started, in order, without what it
missed. What it did not read is what the input handles when it drains the subscription. -/
theorem signals_delivered (capacity : Nat) :
    ((withCapacity capacity).capacity.isPowerOfTwo ∧
      max capacity 1 ≤ (withCapacity capacity).capacity ∧
      ∀ p : Nat, p.isPowerOfTwo → max capacity 1 ≤ p → (withCapacity capacity).capacity ≤ p) ∧
    (∀ steps signal, (((withCapacity capacity).after steps).perform (.publish signal)).1 =
      if ((withCapacity capacity).after steps).isOpen then
        .published (BusEvent.live ((withCapacity capacity).events steps)).length
      else .refused) ∧
    (∀ steps number n, ((withCapacity capacity).after steps).receiveWithin number (n + 2) =
      ((withCapacity capacity).after steps).receive number) ∧
    ∀ before bus number since,
      ((withCapacity capacity).after before).perform .subscribe = (.subscribed number, bus) →
      .unsubscribe number ∉ since →
      ∃ positions,
        Delivery (withCapacity capacity).capacity number (bus.events since) positions ∧
        ∀ (m : MessageInput) view, m.Drains view (bus.after since) number
          (unread (withCapacity capacity).capacity (BusEvent.published (bus.events since))
            positions) := by
  refine ⟨⟨isPowerOfTwo_powerAtLeast _, le_powerAtLeast _, fun p hp hle => powerAtLeast_le hp hle⟩,
    ?_, ?_, ?_⟩
  · intro steps signal
    rw [← numbers_after, numbers, List.length_map, ← publish_fst _ signal, perform]
    split <;> rfl
  · intro steps number n
    exact receiveWithin_add_two _ number n
  · intro before bus number since hsubscribe hlasts
    have hsound := (sound_withCapacity capacity).after before
    have hcapacity := (withCapacity capacity).capacity_after before
    generalize (withCapacity capacity).after before = start at hsubscribe hsound hcapacity
    obtain ⟨rfl, rfl⟩ := of_perform_subscribe hsubscribe
    obtain ⟨stored, hserves⟩ := hsound.serves_subscribe
    obtain ⟨positions, next, hserved, hlast⟩ :=
      hserves.run since (ended?_ne_of_mem_events hlasts)
    have hbus : (start.subscribe.2.after since).capacity = (withCapacity capacity).capacity := by
      rw [capacity_after]
      exact hcapacity
    have hunread : (start.subscribe.2.after since).waiting start.nextNumber =
        unread (withCapacity capacity).capacity
          (BusEvent.published (start.subscribe.2.events since)) positions := by
      rw [← hbus]
      refine hlast.waiting_eq_unread ?_
      rw [capacity_after]
      exact hserved
    refine ⟨positions, ?_, ?_⟩
    · rw [← hcapacity]
      exact hserved.toDelivery
    · intro m view
      rw [← hunread]
      exact m.drains view hlast

/-- A subscription with room for two signals misses the first of three and receives the others,
though the bus and its clone are dropped in between. -/
theorem overtaken_signals_delivered :
    let events := (withCapacity 2).subscribe.2.events
      [.publish (.followUp "a" none false), .publish .focusInput, .clone, .drop,
        .publish (.followUp "c" none true), .receive 0, .drop, .await 0, .receive 0]
    (∃ positions, Delivery (withCapacity 2).capacity 0 events positions) ∧
    BusEvent.receivedBy 0 events = [.focusInput, .followUp "c" none true] := by
  obtain ⟨positions, hdelivery, -⟩ := (signals_delivered 2).2.2.2 [] _ 0
    [.publish (.followUp "a" none false), .publish .focusInput, .clone, .drop,
      .publish (.followUp "c" none true), .receive 0, .drop, .await 0, .receive 0] rfl (by decide)
  exact ⟨⟨positions, hdelivery⟩, by decide +kernel⟩

end Composer.SignalBus
