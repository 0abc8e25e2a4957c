import Composer.Proofs.SignalBus.Delivery
import Composer.SignalBus.Operation
import Mathlib.Data.List.Induction
set_option autoImplicit false

/-!
# What a step does for a subscription

The signals that were published to somebody are a list that only grows: `Stores` says which part of
it the bus retains. Seen from one subscription a step is one of three things, a `Turn`: a signal is
published, the subscription asks for its next signal, or nothing happens to it.
-/

namespace Composer.SignalBus

variable {b : SignalBus} {number : Nat}

/-! ## Capacity -/

theorem isPowerOfTwo_powerAtLeast (n : Nat) : (powerAtLeast n).isPowerOfTwo := by
  unfold powerAtLeast
  split
  · exact Nat.isPowerOfTwo_one
  · exact ⟨_, Nat.one_shiftLeft _⟩

theorem le_powerAtLeast (n : Nat) : n ≤ powerAtLeast n := by
  unfold powerAtLeast
  split
  · assumption
  · have hlog := Nat.lt_log2_self (n := n - 1)
    rw [Nat.one_shiftLeft]
    omega

/-- No smaller power of two is at least `n`. -/
theorem powerAtLeast_le {n p : Nat} (hpower : p.isPowerOfTwo) (hn : n ≤ p) :
    powerAtLeast n ≤ p := by
  obtain ⟨k, rfl⟩ := hpower
  unfold powerAtLeast
  split
  · exact Nat.one_le_two_pow
  · rw [Nat.one_shiftLeft]
    apply Nat.pow_le_pow_right (by omega)
    rw [Nat.succ_le_iff, Nat.log2_lt (by omega)]
    omega

theorem capacity_pos (capacity : Nat) : 0 < (withCapacity capacity).capacity :=
  Nat.lt_of_lt_of_le (Nat.le_max_right capacity 1) (le_powerAtLeast _)

/-! ## The stored signals -/

/-- The bus retains the newest of the stored signals, as many as it has room for. -/
structure Stores (b : SignalBus) (stored : List Signal) : Prop where
  published : b.published = stored.length
  retained : b.retained = stored.drop (stored.length - b.capacity)

namespace Stores

variable {stored : List Signal}

theorem oldest_eq (h : b.Stores stored) : b.oldest = stored.length - b.capacity := by
  rw [oldest, h.published, h.retained, List.length_drop]
  omega

theorem getElem?_retained (h : b.Stores stored) {i : Nat} (hi : b.oldest ≤ i) :
    b.retained[i - b.oldest]? = stored[i]? := by
  rw [h.retained, List.getElem?_drop, ← h.oldest_eq, Nat.add_sub_cancel' hi]

/-- Storing one more signal drops the oldest one from a full bus. -/
theorem append (h : b.Stores stored) (signal : Signal) :
    (b.retained ++ [signal]).drop ((b.retained ++ [signal]).length - b.capacity) =
      (stored ++ [signal]).drop ((stored ++ [signal]).length - b.capacity) := by
  have hkept : stored.length - b.capacity ≤ stored.length := Nat.sub_le _ _
  have hall : b.retained ++ [signal] =
      (stored ++ [signal]).drop (stored.length - b.capacity) := by
    rw [h.retained, List.drop_append_of_le_length hkept]
  rw [hall, List.drop_drop, List.length_drop, List.length_append]
  congr 1
  simp only [List.length_singleton]
  omega

theorem publish (h : b.Stores stored) (signal : Signal) (hsome : b.subscriptions.isEmpty = false) :
    (b.publish signal).2.Stores (stored ++ [signal]) := by
  have hpublish : (b.publish signal).2 =
      { b with
        published := b.published + 1,
        retained :=
          (b.retained ++ [signal]).drop ((b.retained ++ [signal]).length - b.capacity) } := by
    rw [SignalBus.publish, if_neg (by simp [hsome])]
  rw [hpublish]
  exact ⟨by simpa using h.published, h.append signal⟩

end Stores

@[simp] theorem capacity_publish (b : SignalBus) (signal : Signal) :
    (b.publish signal).2.capacity = b.capacity := by
  unfold publish
  split <;> rfl

@[simp] theorem subscriptions_publish (b : SignalBus) (signal : Signal) :
    (b.publish signal).2.subscriptions = b.subscriptions := by
  unfold publish
  split <;> rfl

/-! ## The place of a subscription -/

theorem lookup_moveTo_of_ne {other : Nat} (h : other ≠ number) (b : SignalBus) (position : Nat) :
    (b.moveTo other position).subscriptions.lookup number = b.subscriptions.lookup number := by
  have hlookup : ∀ subscriptions : List (Nat × Nat),
      (subscriptions.map fun s => if s.1 = other then (other, position) else s).lookup number =
        subscriptions.lookup number := by
    intro subscriptions
    induction subscriptions with
    | nil => rfl
    | cons s subscriptions ih =>
      by_cases hs : s.1 = other
      · have hother : (number == other) = false := by simpa using Ne.symm h
        rw [List.map_cons, if_pos hs, List.lookup_cons, List.lookup_cons, hs, hother]
        exact ih
      · rw [List.map_cons, if_neg hs, List.lookup_cons, List.lookup_cons]
        split
        · rfl
        · exact ih
  exact hlookup b.subscriptions

theorem lookup_unsubscribe_of_ne {other : Nat} (h : other ≠ number) (b : SignalBus) :
    (b.unsubscribe other).subscriptions.lookup number = b.subscriptions.lookup number := by
  have hlookup : ∀ subscriptions : List (Nat × Nat),
      (subscriptions.filter fun s => s.1 != other).lookup number = subscriptions.lookup number := by
    intro subscriptions
    induction subscriptions with
    | nil => rfl
    | cons s subscriptions ih =>
      by_cases hs : s.1 = other
      · have hother : (number == other) = false := by simpa using Ne.symm h
        rw [List.filter_cons_of_neg (by simp [hs]), List.lookup_cons, hs, hother]
        exact ih
      · rw [List.filter_cons_of_pos (by simp [hs]), List.lookup_cons, List.lookup_cons]
        split
        · rfl
        · exact ih
  exact hlookup b.subscriptions

theorem lookup_subscribe_of_some {next : Nat} (h : b.subscriptions.lookup number = some next) :
    b.subscribe.2.subscriptions.lookup number = some next := by
  simp only [subscribe, List.lookup_append, h, Option.some_or]

/-- Who has a place on the bus is one of its subscriptions. -/
theorem isEmpty_of_lookup {next : Nat} (h : b.subscriptions.lookup number = some next) :
    b.subscriptions.isEmpty = false := by
  cases hall : b.subscriptions with
  | nil =>
    rw [hall] at h
    cases h
  | cons => rfl

/-! ## Receiving -/

/-- Waiting does to the bus what receiving does. -/
theorem await_snd (b : SignalBus) (number : Nat) : (b.await number).2 = (b.receive number).2 := by
  unfold await
  obtain ⟨signal, b'⟩ := b.receive number
  cases signal <;> rfl

theorem signal?_await (b : SignalBus) (number : Nat) :
    (b.event (.await number)).signal? = (b.receive number).1 := by
  simp only [event, perform, await, BusEvent.signal?]
  obtain ⟨signal, b'⟩ := b.receive number
  cases signal with
  | some signal => rfl
  | none =>
    dsimp only
    cases b'.isOpen && b'.subscriptions.any fun s => s.1 == number <;> rfl

theorem receive_stored {stored : List Signal} {next : Nat} (hpos : 0 < b.capacity)
    (h : b.Stores stored) (hlookup : b.subscriptions.lookup number = some next)
    (hnext : next ≤ stored.length) :
    let position := max next (stored.length - b.capacity)
    (b.receive number).1 = stored[position]? ∧
    (b.receive number).2.subscriptions.lookup number =
      some (min (position + 1) stored.length) := by
  have hbehind : b.oldest ≤ max next b.oldest := Nat.le_max_right _ _
  rw [receive_eq hlookup, h.getElem?_retained hbehind, h.oldest_eq]
  dsimp only
  cases hsignal : stored[max next (stored.length - b.capacity)]? with
  | some signal =>
    obtain ⟨hlt, -⟩ := List.getElem?_eq_some_iff.mp hsignal
    refine ⟨rfl, ?_⟩
    dsimp only
    rw [lookup_moveTo hlookup, Nat.min_eq_left hlt]
  | none =>
    have hend := List.getElem?_eq_none_iff.mp hsignal
    have hcurrent : ¬ next < stored.length - b.capacity := by omega
    refine ⟨rfl, ?_⟩
    dsimp only
    rw [if_neg hcurrent, hlookup]
    congr 1
    omega

theorem receive_stores {stored : List Signal} (h : b.Stores stored) (other : Nat) :
    (b.receive other).2.Stores stored := by
  obtain hsame | ⟨position, hmoved⟩ := b.receive_moves other
  · rwa [hsame]
  · rw [hmoved]
    exact ⟨h.published, h.retained⟩

/-! ## Turns -/

/-- What an event is for a subscription whose next signal is the stored one at `next`, with the
signals that are stored afterwards and the place of the subscription among them. -/
inductive Turn (capacity number : Nat) (stored : List Signal) (next : Nat) (e : BusEvent) :
    List Signal → Nat → Prop where
  | publishes (signal : Signal) (hasker : e.asker? ≠ some number)
      (hpublished : e.published? = some signal) :
      Turn capacity number stored next e (stored ++ [signal]) next
  | asks (hasker : e.asker? = some number) (hpublished : e.published? = none)
      (hsignal : e.signal? = stored[max next (stored.length - capacity)]?) :
      Turn capacity number stored next e stored
        (min (max next (stored.length - capacity) + 1) stored.length)
  | passes (hasker : e.asker? ≠ some number) (hpublished : e.published? = none) :
      Turn capacity number stored next e stored next

/-- The bus stores the signals, and the subscription has its place among them. -/
structure Serves (b : SignalBus) (number : Nat) (stored : List Signal) (next : Nat) : Prop where
  room : 0 < b.capacity
  stores : b.Stores stored
  place : b.subscriptions.lookup number = some next
  le : next ≤ stored.length

variable {stored : List Signal} {next : Nat}

theorem Serves.turn_receive (h : b.Serves number stored next) {e : BusEvent} {other : Nat}
    (hasker : e.asker? = some other) (hpublished : e.published? = none)
    (hsignal : e.signal? = (b.receive other).1) :
    ∃ stored' next', Turn b.capacity number stored next e stored' next' ∧
      (b.receive other).2.Serves number stored' next' := by
  have hstores := receive_stores h.stores other
  have hroom : 0 < (b.receive other).2.capacity := by
    rw [(b.receive_kept other).2.2]
    exact h.room
  by_cases hother : other = number
  · subst hother
    obtain ⟨hfirst, hplace⟩ := receive_stored h.room h.stores h.place h.le
    exact ⟨_, _, .asks hasker hpublished (hsignal.trans hfirst),
      ⟨hroom, hstores, hplace, Nat.min_le_right _ _⟩⟩
  · have hplace : (b.receive other).2.subscriptions.lookup number = some next := by
      obtain hsame | ⟨position, hmoved⟩ := b.receive_moves other
      · rw [hsame, h.place]
      · rw [hmoved, lookup_moveTo_of_ne hother, h.place]
    have hne : e.asker? ≠ some number := by
      rw [hasker]
      simpa using hother
    exact ⟨_, _, .passes hne hpublished, ⟨hroom, hstores, hplace, h.le⟩⟩

/-- A step that does not end the subscription is a turn for it. -/
theorem Serves.turn (h : b.Serves number stored next) {step : BusStep}
    (hlasts : (b.event step).ended? ≠ some number) :
    ∃ stored' next', Turn b.capacity number stored next (b.event step) stored' next' ∧
      (b.perform step).2.Serves number stored' next' := by
  cases step with
  | clone =>
    refine ⟨_, _, .passes nofun rfl, ?_⟩
    simp only [perform]
    split
    · exact ⟨h.room, ⟨h.stores.published, h.stores.retained⟩, h.place, h.le⟩
    · exact h
  | drop =>
    refine ⟨_, _, .passes nofun rfl, ?_⟩
    simp only [perform]
    split
    · exact ⟨h.room, ⟨h.stores.published, h.stores.retained⟩, h.place, h.le⟩
    · exact h
  | subscribe =>
    refine ⟨_, _, .passes nofun rfl, ?_⟩
    simp only [perform]
    split
    · exact ⟨h.room, ⟨h.stores.published, h.stores.retained⟩,
        lookup_subscribe_of_some h.place, h.le⟩
    · exact h
  | unsubscribe other =>
    have hother : other ≠ number := fun heq => hlasts (congrArg some heq)
    refine ⟨_, _, .passes nofun rfl, ?_⟩
    exact ⟨h.room, ⟨h.stores.published, h.stores.retained⟩,
      (lookup_unsubscribe_of_ne hother b).trans h.place, h.le⟩
  | publish signal =>
    by_cases hopen : b.isOpen = true
    · have hperform : b.perform (.publish signal) =
          (.published (b.publish signal).1, (b.publish signal).2) := by
        rw [perform, if_pos hopen]
      refine ⟨_, _, .publishes signal nofun (by rw [event, hperform]; rfl), ?_⟩
      rw [hperform]
      refine ⟨by simpa using h.room, h.stores.publish signal (isEmpty_of_lookup h.place),
        by simpa using h.place, ?_⟩
      rw [List.length_append]
      exact Nat.le_add_right_of_le h.le
    · have hperform : b.perform (.publish signal) = (.refused, b) := by
        rw [perform, if_neg hopen]
      refine ⟨_, _, .passes nofun (by rw [event, hperform]; rfl), ?_⟩
      rw [hperform]
      exact h
  | receive other => exact h.turn_receive rfl rfl rfl
  | await other =>
    rw [perform, b.await_snd other]
    exact h.turn_receive rfl rfl (b.signal?_await other)

/-! ## Live subscriptions -/

/-- One more event ends the subscription that it ends and starts the one that it starts. -/
theorem live_concat (events : List BusEvent) (e : BusEvent) :
    BusEvent.live (events ++ [e]) =
      (BusEvent.live events).filter (fun n => !(e.ended? == some n)) ++ e.started?.toList := by
  induction events with
  | nil => cases hstarted : e.started? <;> simp [BusEvent.live, hstarted]
  | cons first later ih =>
    rw [List.cons_append, BusEvent.live, BusEvent.live, ih, List.filter_append, List.append_assoc]
    congr 1
    cases first.started? with
    | none => rfl
    | some n =>
      simp only [Option.filter_some, List.any_append, List.any_cons, List.any_nil, Bool.or_false,
        Bool.not_or]
      by_cases hlater : (later.any fun e => e.ended? == some n) = true
      · simp [hlater]
      · by_cases hlast : (e.ended? == some n) = true <;> simp [hlater, hlast]

/-- To publish gives the number of subscriptions. -/
theorem publish_fst (b : SignalBus) (signal : Signal) :
    (b.publish signal).1 = b.subscriptions.length := by
  unfold publish
  split
  next hempty => rw [List.isEmpty_iff.mp hempty, List.length_nil]
  next => rfl

/-- Only the step that ends a subscription is the event that ends it. -/
theorem ended?_ne_of_mem_events {steps : List BusStep} (h : .unsubscribe number ∉ steps) :
    ∀ e ∈ b.events steps, e.ended? ≠ some number := by
  induction steps generalizing b with
  | nil => nofun
  | cons step steps ih =>
    intro e he
    obtain rfl | hlater := List.mem_cons.mp he
    · intro hended
      apply h
      cases step with
      | unsubscribe other =>
        obtain rfl : other = number := Option.some.inj hended
        exact List.mem_cons_self
      | _ => cases hended
    · exact ih (fun hmem => h (List.mem_cons_of_mem _ hmem)) e hlater

/-- The numbers of the subscriptions. -/
def numbers (b : SignalBus) : List Nat := b.subscriptions.map (·.1)

@[simp] theorem numbers_moveTo (b : SignalBus) (number position : Nat) :
    (b.moveTo number position).numbers = b.numbers := by
  simp only [numbers, moveTo, List.map_map]
  apply List.map_congr_left
  intro s _
  by_cases hs : s.1 = number <;> simp [hs]

@[simp] theorem numbers_receive (b : SignalBus) (number : Nat) :
    (b.receive number).2.numbers = b.numbers := by
  obtain hsame | ⟨position, hmoved⟩ := b.receive_moves number
  · rw [hsame]
  · rw [hmoved, numbers_moveTo]

/-- What is left of the subscriptions after an event that ends none. -/
theorem filter_of_ended?_none {e : BusEvent} (h : e.ended? = none) (numbers : List Nat) :
    numbers.filter (fun n => !(e.ended? == some n)) = numbers := by
  rw [h]
  exact List.filter_eq_self.mpr fun n _ => rfl

/-- A step changes the subscriptions as its event says. -/
theorem numbers_perform (b : SignalBus) (step : BusStep) :
    (b.perform step).2.numbers =
      b.numbers.filter (fun n => !((b.event step).ended? == some n)) ++
        (b.event step).started?.toList := by
  cases step with
  | unsubscribe number =>
    have hended : (b.event (.unsubscribe number)).ended? = some number := rfl
    have hstarted : (b.event (.unsubscribe number)).started? = none := rfl
    have hleft : (fun n => !(some number == some n)) = fun n => n != number := by
      funext n
      simp [bne, Bool.beq_comm]
    rw [hended, hstarted, hleft, Option.toList_none, List.append_nil, numbers, numbers,
      List.filter_map]
    rfl
  | clone | drop | subscribe | publish signal =>
    rw [filter_of_ended?_none rfl]
    by_cases hopen : b.isOpen = true <;>
      simp [perform, event, hopen, clone, drop, subscribe, numbers, BusEvent.started?]
  | receive number | await number =>
    rw [filter_of_ended?_none rfl]
    simp [perform, event, await_snd, BusEvent.started?]

theorem numbers_after (capacity : Nat) (steps : List BusStep) :
    ((withCapacity capacity).after steps).numbers =
      BusEvent.live ((withCapacity capacity).events steps) := by
  induction steps using List.reverseRecOn with
  | nil => rfl
  | append_singleton steps step ih =>
    rw [events_concat, live_concat, ← ih, after_append, after_cons, after_nil, numbers_perform]

/-! ## Every state of a run -/

/-- What a step can do to a bus. -/
inductive Change (b : SignalBus) : SignalBus → Prop where
  | none : Change b b
  | clone : Change b b.clone
  | drop : Change b b.drop
  | subscribe : Change b b.subscribe.2
  | unsubscribe (number : Nat) : Change b (b.unsubscribe number)
  | publish (signal : Signal) : Change b (b.publish signal).2
  | move (number position : Nat) : Change b (b.moveTo number position)

theorem change_receive (b : SignalBus) (number : Nat) : b.Change (b.receive number).2 := by
  obtain hsame | ⟨position, hmoved⟩ := b.receive_moves number
  · rw [hsame]
    exact .none
  · rw [hmoved]
    exact .move number position

theorem change_perform (b : SignalBus) (step : BusStep) : b.Change (b.perform step).2 := by
  have hguard : ∀ reply changed, b.Change changed →
      b.Change (if b.isOpen = true then (reply, changed) else (BusReply.refused, b)).2 := by
    intro reply changed h
    split
    · exact h
    · exact .none
  cases step with
  | clone => exact hguard _ _ .clone
  | drop => exact hguard _ _ .drop
  | subscribe => exact hguard _ _ .subscribe
  | unsubscribe number => exact .unsubscribe number
  | publish signal => exact hguard _ _ (.publish signal)
  | receive number => exact b.change_receive number
  | await number =>
    rw [perform, b.await_snd number]
    exact b.change_receive number

theorem capacity_perform (b : SignalBus) (step : BusStep) :
    (b.perform step).2.capacity = b.capacity := by
  have hchange := b.change_perform step
  generalize (b.perform step).2 = changed at hchange
  cases hchange with
  | publish signal => exact b.capacity_publish signal
  | _ => rfl

/-- What every state of a run has: room, the newest of what was stored, and a new number for the
next subscription. -/
structure Sound (b : SignalBus) : Prop where
  room : 0 < b.capacity
  stores : ∃ stored, b.Stores stored
  fresh : ∀ number ∈ b.numbers, number < b.nextNumber

theorem Sound.perform (h : b.Sound) (step : BusStep) : (b.perform step).2.Sound := by
  obtain ⟨hroom, ⟨stored, hstores⟩, hfresh⟩ := h
  have hchange := b.change_perform step
  generalize (b.perform step).2 = changed at hchange
  cases hchange with
  | none => exact ⟨hroom, ⟨stored, hstores⟩, hfresh⟩
  | clone | drop => exact ⟨hroom, ⟨stored, hstores.published, hstores.retained⟩, hfresh⟩
  | subscribe =>
    refine ⟨hroom, ⟨stored, hstores.published, hstores.retained⟩, ?_⟩
    intro number hnumber
    simp only [numbers, subscribe, List.map_append, List.map_cons, List.map_nil,
      List.mem_append, List.mem_singleton] at hnumber
    obtain hold | rfl := hnumber
    · exact Nat.lt_succ_of_lt (hfresh number hold)
    · exact Nat.lt_succ_self _
  | unsubscribe number =>
    refine ⟨hroom, ⟨stored, hstores.published, hstores.retained⟩, ?_⟩
    intro other hother
    apply hfresh other
    obtain ⟨s, hs, rfl⟩ := List.mem_map.mp hother
    exact List.mem_map_of_mem (List.mem_filter.mp hs).1
  | publish signal =>
    cases hempty : b.subscriptions.isEmpty with
    | true =>
      have hsame : (b.publish signal).2 = b := by rw [publish, if_pos hempty]
      rw [hsame]
      exact ⟨hroom, ⟨stored, hstores⟩, hfresh⟩
    | false =>
      refine ⟨by simpa using hroom, ⟨_, hstores.publish signal hempty⟩, ?_⟩
      simpa [numbers, publish, hempty] using hfresh
  | move number position =>
    refine ⟨hroom, ⟨stored, hstores.published, hstores.retained⟩, ?_⟩
    rw [numbers_moveTo]
    exact hfresh

theorem Sound.after (h : b.Sound) (steps : List BusStep) : (b.after steps).Sound := by
  induction steps generalizing b with
  | nil => exact h
  | cons step steps ih => exact ih (h.perform step)

theorem sound_withCapacity (capacity : Nat) : (withCapacity capacity).Sound where
  room := capacity_pos capacity
  stores := ⟨[], rfl, List.drop_nil.symm⟩
  fresh number hnumber := by cases hnumber

@[simp] theorem capacity_after (b : SignalBus) (steps : List BusStep) :
    (b.after steps).capacity = b.capacity := by
  induction steps generalizing b with
  | nil => rfl
  | cons step steps ih => rw [after_cons, ih, capacity_perform]

/-- To subscribe succeeds on a bus that is not dropped. -/
theorem of_perform_subscribe {bus : SignalBus}
    (h : b.perform .subscribe = (.subscribed number, bus)) :
    number = b.nextNumber ∧ bus = b.subscribe.2 := by
  rw [perform] at h
  split at h
  · cases h
    exact ⟨rfl, rfl⟩
  · cases h

/-- A new subscription has its place behind everything that is stored. -/
theorem Sound.serves_subscribe (h : b.Sound) :
    ∃ stored, b.subscribe.2.Serves b.nextNumber stored stored.length := by
  obtain ⟨hroom, ⟨stored, hstores⟩, hfresh⟩ := h
  have hnone : b.subscriptions.lookup b.nextNumber = none := by
    rw [List.lookup_eq_none_iff]
    intro s hs
    have hlt := hfresh s.1 (List.mem_map_of_mem hs)
    simp only [bne_iff_ne, ne_eq]
    omega
  refine ⟨stored, hroom, ⟨hstores.published, hstores.retained⟩, ?_, Nat.le_refl _⟩
  simp only [subscribe, List.lookup_append, hnone, Option.none_or, ← hstores.published]
  simp

end Composer.SignalBus
