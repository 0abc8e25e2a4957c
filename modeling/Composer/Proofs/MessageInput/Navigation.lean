import Composer.Proofs.MessageInput.Frame
set_option autoImplicit false

/-!
# A prompt that navigation brought along

A host holds the prompt and offers it to its input as often as it likes, with anything else in
between. The prompt waits while a dialog or a form is open, is used up by the first offer that finds
neither, and from then on there is nothing to offer: it is neither lost nor applied twice.
-/

namespace Composer

/-! ## A host and its offers -/

/-- An input and what is left of the prompt that came with it. -/
structure Host where
  held : Option PendingPrompt
  input : MessageInput

/-- An offer of what is left of the prompt. -/
structure Offer where
  before : Host
  accepted : Bool
  after : Host

/-- What a host does. -/
inductive HostStep where
  | offer
  /-- The input does something else. -/
  | perform (op : Operation) (session : Session)

namespace Host

/-- Offers what is left of the prompt to the input. -/
def offer (h : Host) : Offer :=
  let (accepted, held, input) := h.input.applyPending h.held
  { before := h, accepted, after := { held, input } }

/-- Does one step. Nothing but an offer touches the prompt. -/
def step (h : Host) : HostStep → Host
  | .offer => h.offer.after
  | .perform op session => { h with input := (h.input.perform session op).input }

/-- The host after a sequence of steps. -/
def after (h : Host) (steps : List HostStep) : Host := steps.foldl step h

/-- The offers among a sequence of steps, in order. -/
def offers (h : Host) : List HostStep → List Offer
  | [] => []
  | .offer :: steps => h.offer :: (h.step .offer).offers steps
  | .perform op session :: steps => (h.step (.perform op session)).offers steps

@[simp] theorem after_cons (h : Host) (s : HostStep) (steps : List HostStep) :
    h.after (s :: steps) = (h.step s).after steps := rfl

end Host

/-! ## Kinds of offers -/

namespace Offer

/-- The prompt has to wait: a dialog or a form is open, and nothing happens. -/
structure Waits (o : Offer) (p : PendingPrompt) : Prop where
  held : o.before.held = some p
  refused : o.accepted = false
  unchanged : o.after = o.before
  occupied : (∃ dialog, o.before.input.overlay = .variableDialog dialog) ∨
    ∃ text, o.before.input.overlay = .artifactForm text

/-- The prompt is taken and used up: it becomes the text of the draft with the cursor at its end, or
it asks for its variables in a dialog that is about the whole draft. -/
structure Takes (o : Offer) (p : PendingPrompt) : Prop where
  held : o.before.held = some p
  accepted : o.accepted = true
  used_up : o.after.held = none
  free : o.before.input.overlay.givesWay = true
  inserted : Template.variableNames p.text = [] →
    o.after.input =
      { o.before.input with
        draft := { o.before.input.draft with text := p.text, cursor := p.text.length } }.request
          .focusInput
  asked : Template.variableNames p.text ≠ [] →
    o.after.input =
      { o.before.input with
        overlay := .variableDialog
          { group := p.group, names := Template.variableNames p.text, target := .draft } }.request
            .focusInput

/-- There is nothing to take, and nothing happens. -/
structure IsVoid (o : Offer) : Prop where
  held : o.before.held = none
  refused : o.accepted = false
  unchanged : o.after = o.before

theorem countP_of_refused {offers : List Offer} (h : ∀ o ∈ offers, o.accepted = false) :
    offers.countP accepted = 0 := by
  rw [List.countP_eq_zero]
  intro o ho
  rw [h o ho]
  exact Bool.false_ne_true

end Offer

theorem Overlay.occupied_of_not_givesWay {o : Overlay} (h : o.givesWay = false) :
    (∃ dialog, o = .variableDialog dialog) ∨ ∃ text, o = .artifactForm text := by
  cases o with
  | none => exact absurd h (by decide)
  | slashMenu => exact absurd h (by decide)
  | variableDialog dialog => exact .inl ⟨dialog, rfl⟩
  | artifactForm text => exact .inr ⟨text, rfl⟩

namespace Host

variable {h : Host} {p : PendingPrompt}

theorem isVoid_offer (hheld : h.held = none) : h.offer.IsVoid := by
  have hoffer : h.offer = { before := h, accepted := false, after := h } := by
    cases h
    obtain rfl := hheld
    rfl
  rw [hoffer]
  exact ⟨hheld, rfl, rfl⟩

/-- The step lemma: a prompt that is offered waits or is taken. -/
theorem offer_cases (hheld : h.held = some p) : h.offer.Waits p ∨ h.offer.Takes p := by
  rcases h.input.applyPending_cases h.held with ⟨hnone, -⟩ | ⟨p', hsome, hcases⟩
  · rw [hnone] at hheld
    exact absurd hheld (by simp)
  · obtain rfl := Option.some.inj (hheld.symm.trans hsome)
    rcases hcases with ⟨hway, heq⟩ | ⟨hway, hnames, heq⟩ | ⟨hway, hnames, heq⟩
    · left
      have hoffer : h.offer = { before := h, accepted := false, after := h } := by
        rw [offer, heq, ← hheld]
      rw [hoffer]
      exact ⟨hheld, rfl, rfl, Overlay.occupied_of_not_givesWay hway⟩
    · right
      rw [offer, heq]
      exact ⟨hheld, rfl, rfl, hway, fun _ => rfl, fun hsome => absurd hnames hsome⟩
    · right
      rw [offer, heq]
      exact ⟨hheld, rfl, rfl, hway, fun hempty => absurd hempty hnames, fun _ => rfl⟩

/-! ## Runs -/

/-- Once the prompt is used up, nothing is left to be taken. -/
theorem offers_of_none (hheld : h.held = none) (steps : List HostStep) :
    (∀ o ∈ h.offers steps, o.IsVoid) ∧ (h.after steps).held = none := by
  induction steps generalizing h with
  | nil => exact ⟨by simp [offers], hheld⟩
  | cons s steps ih =>
    cases s with
    | offer =>
      have hvoid := isVoid_offer hheld
      have hnext : (h.step .offer).held = none := by
        rw [step, hvoid.unchanged]
        exact hheld
      obtain ⟨hlater, hend⟩ := ih hnext
      exact ⟨List.forall_mem_cons.mpr ⟨hvoid, hlater⟩, hend⟩
    | perform op session => exact ih (h := h.step (.perform op session)) hheld

/-- The run lemma: the prompt waits throughout, or it waits up to the offer that takes it. -/
theorem offers_of_some (hheld : h.held = some p) (steps : List HostStep) :
    ((∀ o ∈ h.offers steps, o.Waits p) ∧ (h.after steps).held = some p) ∨
    ∃ waiting taking later, h.offers steps = waiting ++ taking :: later ∧
      (∀ o ∈ waiting, o.Waits p) ∧ taking.Takes p ∧ (∀ o ∈ later, o.IsVoid) ∧
      (h.after steps).held = none := by
  induction steps generalizing h with
  | nil => exact .inl ⟨by simp [offers], hheld⟩
  | cons s steps ih =>
    cases s with
    | offer =>
      rcases offer_cases hheld with hwaits | htakes
      · have hnext : (h.step .offer).held = some p := by
          rw [step, hwaits.unchanged]
          exact hheld
        rcases ih hnext with ⟨hall, hend⟩ | ⟨waiting, taking, later, hoffers, hwaiting, hrest⟩
        · exact .inl ⟨List.forall_mem_cons.mpr ⟨hwaits, hall⟩, hend⟩
        · refine .inr ⟨h.offer :: waiting, taking, later, ?_, ?_, hrest⟩
          · rw [offers, hoffers, List.cons_append]
          · exact List.forall_mem_cons.mpr ⟨hwaits, hwaiting⟩
      · obtain ⟨hlater, hend⟩ := offers_of_none (h := h.step .offer) htakes.used_up steps
        exact .inr ⟨[], h.offer, _, rfl, by simp, htakes, hlater, hend⟩
    | perform op session => exact ih (h := h.step (.perform op session)) hheld

/-- Whatever else is done with an input, a prompt that a host offers to it is taken at most once.
Every offer before that leaves prompt and input as they are and is made while a dialog or a form is
open; the one that takes the prompt leaves nothing of it; and every later one does nothing. A prompt
that no offer took is still there. -/
theorem prompt_taken_once (m : MessageInput) (p : PendingPrompt) (steps : List HostStep) :
    let host : Host := { held := some p, input := m }
    (host.offers steps).countP Offer.accepted ≤ 1 ∧
    (((∀ o ∈ host.offers steps, o.Waits p) ∧ (host.after steps).held = some p) ∨
    ∃ waiting taking later, host.offers steps = waiting ++ taking :: later ∧
      (∀ o ∈ waiting, o.Waits p) ∧ taking.Takes p ∧ (∀ o ∈ later, o.IsVoid) ∧
      (host.after steps).held = none) := by
  intro host
  have hruns := offers_of_some (h := host) (p := p) rfl steps
  refine ⟨?_, hruns⟩
  rcases hruns with ⟨hall, -⟩ | ⟨waiting, taking, later, hoffers, hwaiting, htakes, hlater, -⟩
  · rw [Offer.countP_of_refused fun o ho => (hall o ho).refused]
    exact Nat.zero_le 1
  · have hbefore := Offer.countP_of_refused fun o ho => (hwaiting o ho).refused
    have hbehind := Offer.countP_of_refused fun o ho => (hlater o ho).refused
    rw [hoffers, List.countP_append, List.countP_cons_of_pos htakes.accepted]
    omega

end Host
end Composer
