import Composer.SignalBus
set_option autoImplicit false

/-!
# What waits on the bus

The signals that wait for a subscription are the end of those that are retained. Receiving takes the
first of them; receiving as often as the bus can retain signals leaves none.
-/

namespace Composer.SignalBus

variable {b : SignalBus} {number : Nat}

/-- The signals that wait for a subscription. -/
def waiting (b : SignalBus) (number : Nat) : List Signal :=
  match b.subscriptions.lookup number with
  | none => []
  | some next => b.retained.drop (next - b.oldest)

/-- No more is retained than the bus has room for. -/
def Fits (b : SignalBus) : Prop := b.retained.length ≤ b.capacity

/-! ## Receiving -/

theorem lookup_moveTo {next : Nat} (h : b.subscriptions.lookup number = some next)
    (position : Nat) : (b.moveTo number position).subscriptions.lookup number = some position := by
  have hlookup : ∀ subscriptions : List (Nat × Nat),
      (subscriptions.lookup number).isSome = true →
      (subscriptions.map fun s => if s.1 = number then (number, position) else s).lookup number =
        some position := by
    intro subscriptions
    induction subscriptions with
    | nil => simp
    | cons s subscriptions ih =>
      intro hsome
      by_cases hs : s.1 = number
      · simp [hs]
      · have hne : (number == s.1) = false := by simpa using Ne.symm hs
        rw [List.lookup_cons, hne] at hsome
        rw [List.map_cons, if_neg hs, List.lookup_cons, hne]
        exact ih hsome
  exact hlookup b.subscriptions (by rw [h]; rfl)

theorem moveTo_moveTo (b : SignalBus) (number first second : Nat) :
    (b.moveTo number first).moveTo number second = b.moveTo number second := by
  have hmoved : ((fun s : Nat × Nat => if s.1 = number then (number, second) else s) ∘
      fun s => if s.1 = number then (number, first) else s) =
      fun s => if s.1 = number then (number, second) else s := by
    funext s
    by_cases hs : s.1 = number <;> simp [hs]
  simp only [moveTo, List.map_map, hmoved]

/-- A subscription that is not behind gets the signal at its position. -/
theorem poll_current {next : Nat} (h : b.subscriptions.lookup number = some next)
    (hnext : b.oldest ≤ next) :
    b.poll number = match b.retained[next - b.oldest]? with
      | some signal => (.signal signal, b.moveTo number (next + 1))
      | none => (.nothing, b) := by
  cases hsignal : b.retained[next - b.oldest]? <;>
    simp only [poll, h, if_neg (Nat.not_lt.mpr hnext), hsignal]

/-- A subscription that is behind is told so. -/
theorem poll_behind {next : Nat} (h : b.subscriptions.lookup number = some next)
    (hnext : next < b.oldest) :
    b.poll number = (.lagged (b.oldest - next), b.moveTo number b.oldest) := by
  simp only [poll, h, if_pos hnext]

theorem receiveWithin_current {next : Nat} (h : b.subscriptions.lookup number = some next)
    (hnext : b.oldest ≤ next) (n : Nat) :
    b.receiveWithin number (n + 1) = match b.retained[next - b.oldest]? with
      | some signal => (some signal, b.moveTo number (next + 1))
      | none => (none, b) := by
  rw [receiveWithin, poll_current h hnext]
  cases b.retained[next - b.oldest]? <;> rfl

theorem receiveWithin_behind {next : Nat} (h : b.subscriptions.lookup number = some next)
    (hnext : next < b.oldest) (n : Nat) :
    b.receiveWithin number (n + 1) = (b.moveTo number b.oldest).receiveWithin number n := by
  rw [receiveWithin, poll_behind h hnext]

/-- To ask more than twice gives nothing more: who was told to be behind is not behind any more. -/
theorem receiveWithin_add_two (b : SignalBus) (number n : Nat) :
    b.receiveWithin number (n + 2) = b.receive number := by
  cases hlookup : b.subscriptions.lookup number with
  | none => simp only [receive, receiveWithin, poll, hlookup]
  | some next =>
    by_cases hnext : b.oldest ≤ next
    · rw [receive, receiveWithin_current hlookup hnext, receiveWithin_current hlookup hnext]
    · have hbehind := Nat.lt_of_not_le hnext
      have hmoved := lookup_moveTo hlookup b.oldest
      rw [receive, receiveWithin_behind hlookup hbehind, receiveWithin_behind hlookup hbehind,
        receiveWithin_current hmoved (Nat.le_refl _), receiveWithin_current hmoved (Nat.le_refl _)]

/-- Receiving gives the signal at the subscription's position, or the oldest one that is retained if
the subscription is behind that. -/
theorem receive_eq {next : Nat} (h : b.subscriptions.lookup number = some next) :
    b.receive number = match b.retained[max next b.oldest - b.oldest]? with
      | some signal => (some signal, b.moveTo number (max next b.oldest + 1))
      | none => (none, if next < b.oldest then b.moveTo number b.oldest else b) := by
  by_cases hnext : b.oldest ≤ next
  · rw [receive, receiveWithin_current h hnext, Nat.max_eq_left hnext,
      if_neg (Nat.not_lt.mpr hnext)]
  · have hbehind := Nat.lt_of_not_le hnext
    rw [receive, receiveWithin_behind h hbehind,
      receiveWithin_current (lookup_moveTo h b.oldest) (Nat.le_refl _), moveTo_moveTo,
      Nat.max_eq_right (Nat.le_of_lt hbehind), if_pos hbehind]
    rfl

theorem receive_none (h : b.subscriptions.lookup number = none) :
    b.receive number = (none, b) := by
  simp only [receive, receiveWithin, poll, h]

/-- Receiving moves the subscription, if it does anything to the bus. -/
theorem receive_moves (b : SignalBus) (number : Nat) :
    (b.receive number).2 = b ∨ ∃ position, (b.receive number).2 = b.moveTo number position := by
  cases hlookup : b.subscriptions.lookup number with
  | none =>
    rw [receive_none hlookup]
    exact .inl rfl
  | some next =>
    rw [receive_eq hlookup]
    cases b.retained[max next b.oldest - b.oldest]? with
    | some signal => exact .inr ⟨_, rfl⟩
    | none =>
      dsimp only
      split
      · exact .inr ⟨_, rfl⟩
      · exact .inl rfl

/-- Receiving leaves what is retained. -/
theorem receive_kept (b : SignalBus) (number : Nat) :
    (b.receive number).2.retained = b.retained ∧ (b.receive number).2.oldest = b.oldest ∧
    (b.receive number).2.capacity = b.capacity := by
  obtain hsame | ⟨position, hmoved⟩ := b.receive_moves number
  · rw [hsame]
    exact ⟨rfl, rfl, rfl⟩
  · rw [hmoved]
    exact ⟨rfl, rfl, rfl⟩

/-- Receiving takes the first signal that waits. -/
theorem receive_spec (b : SignalBus) (number : Nat) :
    (b.receive number).1 = (b.waiting number).head? ∧
    (b.receive number).2.waiting number = (b.waiting number).tail := by
  cases hlookup : b.subscriptions.lookup number with
  | none =>
    simp only [receive_none hlookup, waiting, hlookup]
    exact ⟨rfl, rfl⟩
  | some next =>
    have hposition : max next b.oldest - b.oldest = next - b.oldest := by omega
    have hmoved : ∀ position, (b.moveTo number position).waiting number =
        b.retained.drop (position - b.oldest) := by
      intro position
      simp only [waiting, lookup_moveTo hlookup]
      rfl
    rw [receive_eq hlookup, hposition]
    cases hsignal : b.retained[next - b.oldest]? with
    | none =>
      have hbeyond := List.getElem?_eq_none_iff.mp hsignal
      have hnothing : b.waiting number = [] := by
        simp only [waiting, hlookup]
        exact List.drop_eq_nil_of_le hbeyond
      refine ⟨by rw [hnothing]; rfl, ?_⟩
      dsimp only
      split
      next hbehind =>
        rw [hmoved, hnothing]
        exact List.drop_eq_nil_of_le (by omega)
      next => rw [hnothing]; rfl
    | some signal =>
      have hwaiting : b.waiting number = signal :: b.retained.drop (next - b.oldest + 1) := by
        obtain ⟨hlt, hget⟩ := List.getElem?_eq_some_iff.mp hsignal
        simp only [waiting, hlookup]
        rw [List.drop_eq_getElem_cons hlt, hget]
      have hnext : max next b.oldest + 1 - b.oldest = next - b.oldest + 1 := by omega
      refine ⟨by rw [hwaiting]; rfl, ?_⟩
      rw [hmoved, hnext, hwaiting]
      rfl

/-- A subscription that is not behind, if there is one of this number. -/
def IsCurrent (b : SignalBus) (number : Nat) : Prop :=
  ∀ next, b.subscriptions.lookup number = some next → b.oldest ≤ next

/-- Receiving a signal catches up. -/
theorem isCurrent_of_receive {signal : Signal} {after : SignalBus}
    (h : b.receive number = (some signal, after)) : after.IsCurrent number := by
  cases hlookup : b.subscriptions.lookup number with
  | none =>
    rw [receive_none hlookup] at h
    exact absurd h (by simp)
  | some position =>
    rw [receive_eq hlookup] at h
    split at h
    · obtain ⟨-, rfl⟩ := Prod.mk.inj h
      intro next hnext
      obtain rfl := Option.some.inj ((lookup_moveTo hlookup _).symm.trans hnext)
      have holdest : (b.moveTo number (max position b.oldest + 1)).oldest = b.oldest := rfl
      omega
    · exact absurd h (by simp)

/-- Where nothing waits, receiving does nothing, unless there is something to catch up. -/
theorem receive_of_isCurrent (h : b.IsCurrent number) (hnothing : b.waiting number = []) :
    b.receive number = (none, b) := by
  cases hlookup : b.subscriptions.lookup number with
  | none => exact receive_none hlookup
  | some next =>
    have hcurrent := h next hlookup
    have hnone : (b.receive number).1 = none := by rw [(b.receive_spec number).1, hnothing]; rfl
    rw [receive_eq hlookup] at hnone ⊢
    split at hnone
    · exact absurd hnone (by simp)
    · rw [if_neg (Nat.not_lt.mpr hcurrent)]

/-! ## Receiving all -/

theorem receiveAll_spec (b : SignalBus) (number n : Nat) :
    (b.receiveAll number n).1 = (b.waiting number).take n ∧
    (b.receiveAll number n).2.waiting number = (b.waiting number).drop n := by
  induction n generalizing b with
  | zero => exact ⟨rfl, rfl⟩
  | succ n ih =>
    obtain ⟨hfirst, hrest⟩ := b.receive_spec number
    unfold receiveAll
    cases hreceive : b.receive number with
    | mk signal b' =>
      rw [hreceive] at hfirst hrest
      cases signal with
      | none =>
        have hnothing : b.waiting number = [] := List.head?_eq_none_iff.mp hfirst.symm
        rw [hnothing] at hrest ⊢
        exact ⟨rfl, hrest⟩
      | some signal =>
        obtain ⟨hall, hleft⟩ := ih b'
        have hwaiting : b.waiting number = signal :: b'.waiting number := by
          obtain ⟨rest, hcons⟩ := List.head?_eq_some_iff.mp hfirst.symm
          rw [hrest, hcons]
          rfl
        rw [hwaiting]
        exact ⟨congrArg (signal :: ·) hall, hleft⟩

theorem receiveAll_kept (b : SignalBus) (number n : Nat) :
    (b.receiveAll number n).2.retained = b.retained ∧
    (b.receiveAll number n).2.capacity = b.capacity := by
  induction n generalizing b with
  | zero => exact ⟨rfl, rfl⟩
  | succ n ih =>
    obtain ⟨hretained, -, hcapacity⟩ := b.receive_kept number
    unfold receiveAll
    cases hreceive : b.receive number with
    | mk signal b' =>
      rw [hreceive] at hretained hcapacity
      cases signal with
      | none => exact ⟨hretained, hcapacity⟩
      | some signal =>
        obtain ⟨hretained', hcapacity'⟩ := ih b'
        exact ⟨hretained'.trans hretained, hcapacity'.trans hcapacity⟩

/-! ## Room -/

theorem fits_publish (h : b.Fits) (signal : Signal) : (b.publish signal).2.Fits := by
  unfold publish
  split
  · exact h
  · simp only [Fits, List.length_drop]
    omega

theorem fits_receiveAll (h : b.Fits) (number n : Nat) : (b.receiveAll number n).2.Fits := by
  obtain ⟨hretained, hcapacity⟩ := b.receiveAll_kept number n
  rw [Fits, hretained, hcapacity]
  exact h

theorem length_waiting_le (b : SignalBus) (number : Nat) :
    (b.waiting number).length ≤ b.retained.length := by
  unfold waiting
  split
  · exact Nat.zero_le _
  · rw [List.length_drop]
    exact Nat.sub_le _ _

/-- After as many as the bus has room for were received, none waits. -/
theorem waiting_receiveAll (h : b.Fits) (number : Nat) :
    (b.receiveAll number b.capacity).2.waiting number = [] := by
  rw [(b.receiveAll_spec number b.capacity).2]
  exact List.drop_eq_nil_of_le (Nat.le_trans (b.length_waiting_le number) h)

end Composer.SignalBus
