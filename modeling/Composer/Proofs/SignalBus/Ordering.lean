import Composer.MessageInput.Draining
import Composer.MessageInput.Operation
import Composer.Proofs.SignalBus.Subscriptions
set_option autoImplicit false

/-!
# What a subscription receives

A subscription receives the signals that are published while it lasts, in their order and each at
most once. It misses those that the bus retains no longer when it asks for its next signal, and no
others.
-/

namespace Composer.BusEvent

/-! ## The specification -/

/-- Those of the newest `capacity` signals whose positions are not among the given ones. -/
def unread (capacity : Nat) (signals : List Signal) (positions : List Nat) : List Signal :=
  (signals.zipIdx.filter fun s =>
    decide (signals.length ≤ s.2 + capacity) && !positions.contains s.2).map (·.1)

/-- With these `events` behind it the subscription asks for its next signal,
which is the event `e`. -/
def AsksAt (number : Nat) (since events : List BusEvent) (e : BusEvent) : Prop :=
  events ++ [e] <+: since ∧ e.asker? = some number

/-- The subscription asked for its next signal when it had not received the signal at position `i`
and the signal was not among the newest `capacity` any more. -/
def Misses (capacity number : Nat) (since : List BusEvent) (positions : List Nat)
    (i : Nat) : Prop :=
  ∃ events e, AsksAt number since events e ∧
    i + capacity < (published events).length ∧
    i ∉ positions.take (receivedBy number events).length

/-- What the events since a subscription started gave it: the signals at these positions of those
that were published since. -/
structure Delivery (capacity number : Nat) (since : List BusEvent) (positions : List Nat) :
    Prop where
  received : (receivedBy number since).map some = positions.map fun i => (published since)[i]?
  /-- In the order of publication, and none twice. -/
  increasing : positions.Pairwise (· < ·)
  /-- What was left out is what was missed. -/
  missing : ∀ i, (i ∉ positions ∧ ∃ p ∈ positions, i < p) ↔
    Misses capacity number since positions i
  /-- Whoever asks gets the oldest signal that is retained and unread, and none if there is none. -/
  answered : ∀ events e, AsksAt number since events e →
    e.signal? =
      (unread capacity (published events)
        (positions.take (receivedBy number events).length)).head?
  /-- Who is never more than `capacity` signals behind loses none. -/
  lossless : (∀ events e, AsksAt number since events e →
      (published events).length ≤ (receivedBy number events).length + capacity) →
    positions = List.range positions.length

/-! ## Unread signals -/

theorem filter_zipIdx (signals : List Signal) (m k : Nat) :
    ((signals.zipIdx k).filter fun s => decide (m ≤ s.2)).map (·.1) = signals.drop (m - k) := by
  induction signals generalizing k with
  | nil => simp
  | cons signal signals ih =>
    rw [List.zipIdx_cons]
    by_cases hk : m ≤ k
    · have hlater := ih (k + 1)
      rw [Nat.sub_eq_zero_of_le (Nat.le_succ_of_le hk), List.drop_zero] at hlater
      rw [List.filter_cons_of_pos (by simpa using hk), List.map_cons, hlater,
        Nat.sub_eq_zero_of_le hk, List.drop_zero]
    · have hstep : m - k = m - (k + 1) + 1 := by omega
      rw [List.filter_cons_of_neg (by simpa using hk), ih (k + 1), hstep, List.drop_succ_cons]

/-- Where everything before `next` was received or is retained no longer, what is unread starts
there or with the oldest retained signal. -/
theorem unread_eq_drop {capacity next : Nat} {signals : List Signal} {positions : List Nat}
    (hbelow : ∀ p ∈ positions, p < next)
    (hbefore : ∀ i < next, i ∉ positions → i + capacity < signals.length) :
    unread capacity signals positions =
      signals.drop (max next (signals.length - capacity)) := by
  have hunread : ∀ s ∈ signals.zipIdx,
      (decide (signals.length ≤ s.2 + capacity) && !positions.contains s.2) =
        decide (max next (signals.length - capacity) ≤ s.2) := by
    intro s _
    by_cases hs : s.2 ∈ positions
    · have hlt := hbelow s.2 hs
      have hnot : ¬ max next (signals.length - capacity) ≤ s.2 := by omega
      simp only [hnot, List.contains_iff_mem.mpr hs, Bool.not_true, Bool.and_false, decide_false]
    · have hnext : s.2 < next → s.2 + capacity < signals.length := by
        intro hlt
        exact hbefore s.2 hlt hs
      have hiff : signals.length ≤ s.2 + capacity ↔
          max next (signals.length - capacity) ≤ s.2 := by omega
      have hnone : positions.contains s.2 = false := by simpa using hs
      simp only [hnone, hiff, Bool.not_false, Bool.and_true]
  rw [unread, List.filter_congr hunread, filter_zipIdx, Nat.sub_zero]

/-! ## One event more -/

theorem published_concat (events : List BusEvent) (e : BusEvent) :
    published (events ++ [e]) = published events ++ e.published?.toList := by
  rw [published, List.filterMap_append]
  cases he : e.published? <;> simp [published, he]

theorem receivedBy_concat_of_ne {number : Nat} {e : BusEvent} (h : e.asker? ≠ some number)
    (events : List BusEvent) : receivedBy number (events ++ [e]) = receivedBy number events := by
  simp [receivedBy, List.filterMap_append, h]

theorem receivedBy_concat {number : Nat} {e : BusEvent} (h : e.asker? = some number)
    (events : List BusEvent) :
    receivedBy number (events ++ [e]) = receivedBy number events ++ e.signal?.toList := by
  rw [receivedBy, List.filterMap_append]
  cases he : e.signal? <;> simp [receivedBy, h, he]

theorem asksAt_concat {number : Nat} {since events : List BusEvent} {last e : BusEvent} :
    AsksAt number (since ++ [last]) events e ↔
      AsksAt number since events e ∨ (events = since ∧ e = last ∧ last.asker? = some number) := by
  simp only [AsksAt, List.prefix_concat_iff]
  constructor
  · rintro ⟨heq | hinit, hasker⟩
    · obtain ⟨rfl, hlast⟩ := List.append_inj' heq rfl
      obtain rfl : e = last := by simpa using hlast
      exact .inr ⟨rfl, rfl, hasker⟩
    · exact .inl ⟨hinit, hasker⟩
  · rintro (⟨hinit, hasker⟩ | ⟨rfl, rfl, hasker⟩)
    · exact ⟨.inr hinit, hasker⟩
    · exact ⟨.inl rfl, hasker⟩

/-- At an earlier question there were no more signals, published or received. -/
theorem AsksAt.length_le {number : Nat} {since events : List BusEvent} {e : BusEvent}
    (h : AsksAt number since events e) :
    (published events).length ≤ (published since).length ∧
    (receivedBy number events).length ≤ (receivedBy number since).length := by
  have hinit : events <+: since := (List.prefix_append events [e]).trans h.1
  exact ⟨(hinit.filterMap _).length_le, (hinit.filterMap _).length_le⟩

/-! ## Delivery of one event more -/

variable {capacity number next : Nat} {since : List BusEvent} {positions positions' : List Nat}
  {e : BusEvent}

theorem Delivery.length_received (h : Delivery capacity number since positions) :
    (receivedBy number since).length = positions.length := by
  simpa using congrArg List.length h.received

/-- Later positions are no part of the first ones. -/
theorem Delivery.take_eq (h : Delivery capacity number since positions)
    (hkept : positions <+: positions') {n : Nat} (hn : n ≤ (receivedBy number since).length) :
    positions'.take n = positions.take n := by
  obtain ⟨more, rfl⟩ := hkept
  exact List.take_append_of_le_length (h.length_received ▸ hn)

theorem Delivery.take_received (h : Delivery capacity number since positions)
    (hkept : positions <+: positions') :
    positions'.take (receivedBy number since).length = positions := by
  rw [h.take_eq hkept (Nat.le_refl _), h.length_received, List.take_length]

theorem Delivery.misses_concat (h : Delivery capacity number since positions)
    (hkept : positions <+: positions') (i : Nat) :
    Misses capacity number (since ++ [e]) positions' i ↔
      Misses capacity number since positions i ∨
      (e.asker? = some number ∧ i + capacity < (published since).length ∧ i ∉ positions) := by
  constructor
  · rintro ⟨events, last, hasks, hold, hunread⟩
    obtain hearlier | ⟨rfl, rfl, hasker⟩ := asksAt_concat.mp hasks
    · rw [h.take_eq hkept hearlier.length_le.2] at hunread
      exact .inl ⟨events, last, hearlier, hold, hunread⟩
    · rw [h.take_received hkept] at hunread
      exact .inr ⟨hasker, hold, hunread⟩
  · rintro (⟨events, last, hasks, hold, hunread⟩ | ⟨hasker, hold, hunread⟩)
    · rw [← h.take_eq hkept hasks.length_le.2] at hunread
      exact ⟨events, last, asksAt_concat.mpr (.inl hasks), hold, hunread⟩
    · rw [← h.take_received hkept] at hunread
      exact ⟨since, e, asksAt_concat.mpr (.inr ⟨rfl, rfl, hasker⟩), hold, hunread⟩

/-- What has to be seen of an event for a delivery to go on with it. -/
theorem Delivery.concat (h : Delivery capacity number since positions)
    (hkept : positions <+: positions')
    (hreceived : (receivedBy number (since ++ [e])).map some =
      positions'.map fun i => (published (since ++ [e]))[i]?)
    (hincreasing : positions'.Pairwise (· < ·))
    (hmissing : ∀ i, (i ∉ positions' ∧ ∃ p ∈ positions', i < p) ↔
      (i ∉ positions ∧ ∃ p ∈ positions, i < p) ∨
      (e.asker? = some number ∧ i + capacity < (published since).length ∧ i ∉ positions))
    (hanswered : e.asker? = some number →
      e.signal? = (unread capacity (published since) positions).head?)
    (hlossless : positions = List.range positions.length →
      (e.asker? = some number → (published since).length ≤ positions.length + capacity) →
      positions' = List.range positions'.length) :
    Delivery capacity number (since ++ [e]) positions' where
  received := hreceived
  increasing := hincreasing
  missing i := by rw [hmissing, h.misses_concat hkept, h.missing]
  answered events last hasks := by
    obtain hearlier | ⟨rfl, rfl, hasker⟩ := asksAt_concat.mp hasks
    · rw [h.take_eq hkept hearlier.length_le.2]
      exact h.answered events last hearlier
    · rw [h.take_received hkept]
      exact hanswered hasker
  lossless hbehind := by
    apply hlossless
    · exact h.lossless fun events last hasks =>
        hbehind events last (asksAt_concat.mpr (.inl hasks))
    · intro hasker
      rw [← h.length_received]
      exact hbehind since e (asksAt_concat.mpr (.inr ⟨rfl, rfl, hasker⟩))

/-! ## Delivery up to a place -/

/-- A delivery after which the subscription goes on with the signal at position `next`. -/
structure Served (capacity number : Nat) (since : List BusEvent) (positions : List Nat)
    (next : Nat) : Prop extends Delivery capacity number since positions where
  le : next ≤ (published since).length
  below : ∀ p ∈ positions, p < next
  reached : ∀ i < next, ∃ p ∈ positions, i ≤ p

namespace Served

theorem start (capacity number : Nat) : Served capacity number [] [] 0 where
  received := rfl
  increasing := .nil
  missing i := by
    constructor
    · rintro ⟨-, p, hp, -⟩
      cases hp
    · rintro ⟨events, e, ⟨hinit, -⟩, -⟩
      simp at hinit
  answered events e hasks := by simp [AsksAt] at hasks
  lossless _ := rfl
  le := Nat.le_refl _
  below p hp := by cases hp
  reached i hi := by cases hi

/-- What lies before the place and was not received was overtaken by something that was. -/
theorem overtaken (h : Served capacity number since positions next) {i : Nat} (hi : i < next)
    (hmissed : i ∉ positions) : ∃ p ∈ positions, i < p := by
  obtain ⟨p, hp, hle⟩ := h.reached i hi
  exact ⟨p, hp, Nat.lt_of_le_of_ne hle fun heq => hmissed (heq ▸ hp)⟩

/-- It is retained no longer. -/
theorem lost (h : Served capacity number since positions next) {i : Nat} (hi : i < next)
    (hmissed : i ∉ positions) : i + capacity < (published since).length := by
  obtain ⟨events, e, hasks, hold, -⟩ := (h.missing i).mp ⟨hmissed, h.overtaken hi hmissed⟩
  exact Nat.lt_of_lt_of_le hold hasks.length_le.1

theorem unread_eq (h : Served capacity number since positions next) :
    unread capacity (published since) positions =
      (published since).drop (max next ((published since).length - capacity)) :=
  unread_eq_drop h.below fun _ hi hmissed => h.lost hi hmissed

/-- A subscription that lost nothing has received as many signals as lie before its place. -/
theorem next_eq (h : Served capacity number since positions next)
    (hall : positions = List.range positions.length) : next = positions.length := by
  apply Nat.le_antisymm
  · by_contra hlt
    obtain ⟨p, hp, hle⟩ := h.reached positions.length (by omega)
    rw [hall, List.mem_range] at hp
    omega
  · by_contra hlt
    have hmem : next ∈ positions := by
      rw [hall, List.mem_range]
      omega
    exact Nat.lt_irrefl _ (h.below next hmem)

theorem passes (h : Served capacity number since positions next)
    (hasker : e.asker? ≠ some number) (hpublished : e.published? = none) :
    Served capacity number (since ++ [e]) positions next := by
  have hsame : published (since ++ [e]) = published since := by
    rw [published_concat, hpublished, Option.toList_none, List.append_nil]
  refine ⟨h.concat (List.prefix_refl _) ?_ h.increasing ?_ ?_ ?_, ?_, h.below, h.reached⟩
  · rw [receivedBy_concat_of_ne hasker, hsame, h.received]
  · intro i
    simp [hasker]
  · exact fun heq => absurd heq hasker
  · exact fun hall _ => hall
  · rw [hsame]
    exact h.le

theorem publishes (h : Served capacity number since positions next) {signal : Signal}
    (hasker : e.asker? ≠ some number) (hpublished : e.published? = some signal) :
    Served capacity number (since ++ [e]) positions next := by
  have hmore : published (since ++ [e]) = published since ++ [signal] := by
    rw [published_concat, hpublished, Option.toList_some]
  refine ⟨h.concat (List.prefix_refl _) ?_ h.increasing ?_ ?_ ?_, ?_, h.below, h.reached⟩
  · rw [receivedBy_concat_of_ne hasker, hmore, h.received]
    apply List.map_congr_left
    intro p hp
    have hlt : p < (published since).length := Nat.lt_of_lt_of_le (h.below p hp) h.le
    rw [List.getElem?_append_left hlt]
  · intro i
    simp [hasker]
  · exact fun heq => absurd heq hasker
  · exact fun hall _ => hall
  · rw [hmore, List.length_append]
    exact Nat.le_add_right_of_le h.le

/-- A question gets the oldest signal that is retained and unread. -/
theorem answer_eq (h : Served capacity number since positions next)
    (hsignal : e.signal? =
      (published since)[max next ((published since).length - capacity)]?) :
    e.signal? = (unread capacity (published since) positions).head? := by
  rw [h.unread_eq, List.head?_drop, hsignal]

/-- Whoever asks behind everything that was published gets nothing. -/
theorem asks_in_vain (h : Served capacity number since positions next)
    (hasker : e.asker? = some number) (hpublished : e.published? = none)
    (hsignal : e.signal? = (unread capacity (published since) positions).head?)
    (hend : (published since).length ≤ max next ((published since).length - capacity))
    (hroom : 0 < capacity) : Served capacity number (since ++ [e]) positions next := by
  have hsame : published (since ++ [e]) = published since := by
    rw [published_concat, hpublished, Option.toList_none, List.append_nil]
  have hnone : e.signal? = none := by
    rw [hsignal, h.unread_eq, List.drop_eq_nil_of_le hend, List.head?_nil]
  have hle := h.le
  refine ⟨h.concat (List.prefix_refl _) ?_ h.increasing ?_ (fun _ => hsignal) ?_, ?_, h.below,
    h.reached⟩
  · rw [receivedBy_concat hasker, hnone, hsame, Option.toList_none, List.append_nil, h.received]
  · intro i
    refine ⟨.inl, ?_⟩
    rintro (hmissed | ⟨-, hold, hmissed⟩)
    · exact hmissed
    · exact ⟨hmissed, h.overtaken (by omega) hmissed⟩
  · exact fun hall _ => hall
  · rwa [hsame]

/-- Whoever asks with a retained signal ahead gets it, and goes on behind it. -/
theorem takes (h : Served capacity number since positions next)
    (hasker : e.asker? = some number) (hpublished : e.published? = none)
    (hanswered : e.signal? = (unread capacity (published since) positions).head?)
    {position : Nat} (hposition : position = max next ((published since).length - capacity))
    (hsignal : e.signal? = (published since)[position]?)
    (hlt : position < (published since).length) :
    Served capacity number (since ++ [e]) (positions ++ [position]) (position + 1) := by
  have hsame : published (since ++ [e]) = published since := by
    rw [published_concat, hpublished, Option.toList_none, List.append_nil]
  have hget : (published since)[position]? = some (published since)[position] :=
    List.getElem?_eq_getElem hlt
  have hbelow : ∀ p ∈ positions, p < position := by
    intro p hp
    have hnext := h.below p hp
    omega
  refine ⟨h.concat (List.prefix_append _ _) ?_ ?_ ?_ (fun _ => hanswered) ?_, ?_, ?_, ?_⟩
  · rw [receivedBy_concat hasker, hsignal, hget, hsame, List.map_append, List.map_append,
      h.received, List.map_singleton, hget]
    rfl
  · refine List.pairwise_append.mpr ⟨h.increasing, List.pairwise_singleton _ _, ?_⟩
    intro p hp q hq
    rw [List.mem_singleton.mp hq]
    exact hbelow p hp
  · intro i
    simp only [List.mem_append, List.mem_singleton, not_or]
    constructor
    · rintro ⟨⟨hmissed, hne⟩, p, hp | rfl, hi⟩
      · exact .inl ⟨hmissed, p, hp, hi⟩
      · by_cases hbefore : i < next
        · exact .inl ⟨hmissed, h.overtaken hbefore hmissed⟩
        · exact .inr ⟨hasker, by omega, hmissed⟩
    · rintro (⟨hmissed, p, hp, hi⟩ | ⟨-, hold, hmissed⟩)
      · have hp' := hbelow p hp
        exact ⟨⟨hmissed, by omega⟩, p, .inl hp, hi⟩
      · exact ⟨⟨hmissed, by omega⟩, position, .inr rfl, by omega⟩
  · intro hall hbehind
    have hnext := h.next_eq hall
    have hcount := hbehind hasker
    obtain rfl : position = positions.length := by omega
    rw [List.length_append, List.length_singleton, List.range_succ, ← hall]
  · rw [hsame]
    exact hlt
  · intro p hp
    obtain hp | hp := List.mem_append.mp hp
    · exact Nat.lt_succ_of_lt (hbelow p hp)
    · rw [List.mem_singleton.mp hp]
      exact Nat.lt_succ_self _
  · intro i hi
    exact ⟨position, List.mem_append_right _ (List.mem_singleton.mpr rfl), Nat.le_of_lt_succ hi⟩

theorem asks (h : Served capacity number since positions next) (hroom : 0 < capacity)
    (hasker : e.asker? = some number) (hpublished : e.published? = none)
    (hsignal : e.signal? =
      (published since)[max next ((published since).length - capacity)]?) :
    ∃ positions', Served capacity number (since ++ [e]) positions'
      (min (max next ((published since).length - capacity) + 1) (published since).length) := by
  have hanswered := h.answer_eq hsignal
  have hle := h.le
  by_cases hend : (published since).length ≤ max next ((published since).length - capacity)
  · have hnext : min (max next ((published since).length - capacity) + 1)
        (published since).length = next := by omega
    rw [hnext]
    exact ⟨positions, h.asks_in_vain hasker hpublished hanswered hend hroom⟩
  · have hlt := Nat.lt_of_not_le hend
    rw [Nat.min_eq_left hlt]
    exact ⟨_, h.takes hasker hpublished hanswered rfl hsignal hlt⟩

end Served

end Composer.BusEvent

namespace Composer.SignalBus

open BusEvent (unread Delivery Served)

variable {b : SignalBus} {number next : Nat} {stored : List Signal}

/-! ## Runs -/

/-- What a subscription that starts behind the stored signals is served during a run. -/
theorem Serves.run (h : b.Serves number stored stored.length) (steps : List BusStep)
    (hlasts : ∀ e ∈ b.events steps, e.ended? ≠ some number) :
    ∃ positions next, Served b.capacity number (b.events steps) positions next ∧
      (b.after steps).Serves number (stored ++ BusEvent.published (b.events steps))
        (stored.length + next) := by
  induction steps using List.reverseRecOn with
  | nil =>
    refine ⟨[], 0, Served.start _ _, ?_⟩
    simpa [events, BusEvent.published] using h
  | append_singleton steps step ih =>
    rw [events_concat] at hlasts
    obtain ⟨positions, next, hserved, hserves⟩ := ih fun e he =>
      hlasts e (List.mem_append_left _ he)
    have hlast := hlasts _ (List.mem_append_right _ (List.mem_singleton.mpr rfl))
    obtain ⟨stored', next', hturn, hserves'⟩ := hserves.turn hlast
    rw [events_concat, after_append, after_cons, after_nil, BusEvent.published_concat]
    rw [capacity_after] at hturn
    cases hturn with
    | publishes signal hasker hpublished =>
      refine ⟨positions, next, hserved.publishes hasker hpublished, ?_⟩
      rwa [hpublished, Option.toList_some, ← List.append_assoc]
    | passes hasker hpublished =>
      refine ⟨positions, next, hserved.passes hasker hpublished, ?_⟩
      rwa [hpublished, Option.toList_none, List.append_nil]
    | asks hasker hpublished hsignal =>
      have hle := hserved.le
      have hplace : max (stored.length + next)
          ((stored ++ BusEvent.published (b.events steps)).length - b.capacity) =
          stored.length +
            max next ((BusEvent.published (b.events steps)).length - b.capacity) := by
        rw [List.length_append]
        omega
      rw [hplace, List.getElem?_append_right (Nat.le_add_right _ _), Nat.add_sub_cancel_left]
        at hsignal
      obtain ⟨positions', hserved'⟩ := hserved.asks h.room hasker hpublished hsignal
      refine ⟨positions', _, hserved', ?_⟩
      rw [hplace, List.length_append] at hserves'
      rw [hpublished, Option.toList_none, List.append_nil]
      have hnext : min (stored.length +
            max next ((BusEvent.published (b.events steps)).length - b.capacity) + 1)
          (stored.length + (BusEvent.published (b.events steps)).length) =
          stored.length +
            min (max next ((BusEvent.published (b.events steps)).length - b.capacity) + 1)
              (BusEvent.published (b.events steps)).length := by omega
      rwa [hnext] at hserves'

/-- What waits for a subscription are the stored signals from its place on. -/
theorem Serves.waiting_eq (h : b.Serves number stored next) :
    b.waiting number = stored.drop (max next (stored.length - b.capacity)) := by
  simp only [waiting, h.place]
  rw [h.stores.retained, List.drop_drop, h.stores.oldest_eq]
  congr 1
  omega

/-- To ask when nothing waits changes nothing. -/
theorem Serves.receive_of_nil (h : b.Serves number stored next) (hwaiting : b.waiting number = []) :
    b.receive number = (none, b) := by
  have hroom := h.room
  rw [h.waiting_eq, List.drop_eq_nil_iff] at hwaiting
  have hend : stored[max next (stored.length - b.capacity)]? = none :=
    List.getElem?_eq_none_iff.mpr hwaiting
  have hcurrent : ¬ next < stored.length - b.capacity := by omega
  rw [receive_eq h.place, h.stores.getElem?_retained (Nat.le_max_right _ _), h.stores.oldest_eq,
    hend]
  dsimp only
  rw [if_neg hcurrent]

/-- After a request the subscription has a place among the same signals. -/
theorem Serves.receive (h : b.Serves number stored next) :
    ∃ next', (b.receive number).2.Serves number stored next' := by
  obtain ⟨-, hplace⟩ := receive_stored h.room h.stores h.place h.le
  have hroom := h.room
  rw [← (b.receive_kept number).2.2] at hroom
  exact ⟨_, hroom, receive_stores h.stores number, hplace, Nat.min_le_right _ _⟩

theorem Serves.fits (h : b.Serves number stored next) : b.Fits := by
  rw [Fits, h.stores.retained, List.length_drop]
  omega

/-- What waits for a subscription are the signals that it did not read. -/
theorem Serves.waiting_eq_unread {since : List BusEvent} {positions : List Nat}
    (h : b.Serves number (stored ++ BusEvent.published since) (stored.length + next))
    (hserved : Served b.capacity number since positions next) :
    b.waiting number = unread b.capacity (BusEvent.published since) positions := by
  have hplace : max (stored.length + next)
      ((stored ++ BusEvent.published since).length - b.capacity) =
      stored.length + max next ((BusEvent.published since).length - b.capacity) := by
    rw [List.length_append]
    omega
  rw [h.waiting_eq, hserved.unread_eq, hplace, List.drop_append, List.drop_eq_nil_of_le,
    List.nil_append, Nat.add_sub_cancel_left]
  omega

end Composer.SignalBus
