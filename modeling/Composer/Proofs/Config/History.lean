import Composer.Config.Handles
import Composer.Proofs.Config.Outcomes
set_option autoImplicit false

/-!
# What is kept follows from what happened

What a handle and its copies keep is decided by the last thing that was done through them and bears
on it: a configuration that was given or saved is kept, and invalidating forgets it.
-/

namespace Composer

/-- Something that bears on what is kept in a slot. -/
inductive ConfigEvent where
  /-- A configuration was given. -/
  | got (c : Config)
  /-- A configuration was saved. -/
  | saved (c : Config)
  | forgotten

namespace ConfigEvent

/-- The configuration that is kept from then on. -/
def config? : ConfigEvent → Option Config
  | got c => some c
  | saved c => some c
  | forgotten => none

/-- The configuration that was given or saved last, unless it was forgotten since. -/
def latest (es : List ConfigEvent) : Option Config := (es.map config?).getLastD none

end ConfigEvent

namespace ConfigDesk

variable {desk : ConfigDesk} {h : ConfigHandle} {slot n : Nat}

/-- The slot that a step works on, if it works on one. -/
def slot? (desk : ConfigDesk) : ConfigStep → Option Nat
  | .get n _ => desk.handles[n]?.map ConfigHandle.slot
  | .save n _ _ _ => desk.handles[n]?.map ConfigHandle.slot
  | .invalidate n => desk.handles[n]?.map ConfigHandle.slot
  | _ => none

/-- What a step with this reply means for the slot that it works on. -/
def eventOf : ConfigStep → ConfigReply → Option ConfigEvent
  | .get _ _, .config (.ok c) => some (.got c)
  | .save _ _ c _, .saved (.ok _) => some (.saved c)
  | .invalidate _, _ => some .forgotten
  | _, _ => none

/-- What a step means for a slot. -/
def event? (desk : ConfigDesk) (slot : Nat) (step : ConfigStep) : Option ConfigEvent :=
  if desk.slot? step = some slot then eventOf step (desk.perform step).1 else none

/-- What the steps of a run mean for a slot, in order. -/
def events (desk : ConfigDesk) (slot : Nat) : List ConfigStep → List ConfigEvent
  | [] => []
  | step :: steps => (desk.event? slot step).toList ++ (desk.perform step).2.events slot steps

/-! ## What is kept -/

@[simp] theorem cached_start (disk : Disk) (slot : Nat) : (start disk).cached slot = none := rfl

theorem cached_keep_self (hmem : h ∈ desk.handles) (c : Option Config) :
    (desk.keep h.slot c).cached h.slot = c := by
  have hslot : h.slot < desk.kept.length := desk.slot_lt h hmem
  simp [cached, keep, List.getElem?_set_self hslot]

theorem cached_keep_of_ne {other : Nat} (hne : other ≠ slot) (c : Option Config) :
    (desk.keep slot c).cached other = desk.cached other := by
  simp [cached, keep, List.getElem?_set_ne hne.symm]

@[simp] theorem cached_withDisk (desk : ConfigDesk) (disk : Disk) (slot : Nat) :
    (desk.withDisk disk).cached slot = desk.cached slot := rfl

@[simp] theorem handles_keep (desk : ConfigDesk) (slot : Nat) (c : Option Config) :
    (desk.keep slot c).handles = desk.handles := rfl

@[simp] theorem handles_withDisk (desk : ConfigDesk) (disk : Disk) :
    (desk.withDisk disk).handles = desk.handles := rfl

/-- Keeping again what is kept changes nothing. -/
theorem keep_cached (hmem : h ∈ desk.handles) :
    desk.keep h.slot (desk.cached h.slot) = desk := by
  have hslot : h.slot < desk.kept.length := desk.slot_lt h hmem
  have hkept : desk.kept.set h.slot (desk.cached h.slot) = desk.kept := by
    have hcached : desk.cached h.slot = desk.kept[h.slot] := by
      simp [cached, List.getElem?_eq_getElem hslot]
    rw [hcached, List.set_getElem_self]
  simp only [keep, hkept]

theorem cached_openFile (desk : ConfigDesk) (path : Option String) (slot : Nat) :
    (desk.openFile path).cached slot = desk.cached slot := by
  simp only [cached, openFile]
  rcases Nat.lt_trichotomy slot desk.kept.length with hlt | rfl | hgt
  · rw [List.getElem?_append_left hlt]
  · simp
  · have hlength : (desk.kept ++ [none]).length ≤ slot := by
      rw [List.length_append, List.length_singleton]
      exact hgt
    rw [List.getElem?_eq_none hlength, List.getElem?_eq_none (Nat.le_of_lt hgt)]

/-! ## One step -/

theorem perform_get (hn : desk.handles[n]? = some h) (env : Environment) :
    desk.perform (.get n env) =
      (.config ((desk.store h).get env desk.disk).1,
        desk.keep h.slot ((desk.store h).get env desk.disk).2.cached) := by
  simp only [perform, hn]

theorem perform_save (hn : desk.handles[n]? = some h) (env : Environment) (c : Config)
    (now : Int) :
    desk.perform (.save n env c now) =
      (.saved ((desk.store h).save env desk.disk c now).1,
        (desk.keep h.slot ((desk.store h).save env desk.disk c now).2.1.cached).withDisk
          ((desk.store h).save env desk.disk c now).2.2) := by
  simp only [perform, hn]

theorem perform_invalidate (hn : desk.handles[n]? = some h) :
    desk.perform (.invalidate n) = (.done, desk.keep h.slot none) := by
  simp only [perform, hn, ConfigStore.invalidate]

/-- A step on one slot leaves all others alone. -/
theorem cached_perform_of_slot_ne (step : ConfigStep) (hne : desk.slot? step ≠ some slot) :
    (desk.perform step).2.cached slot = desk.cached slot := by
  cases step with
  | openFile path => exact desk.cached_openFile path slot
  | copy n =>
    simp only [perform]
    split <;> rfl
  | changeDisk disk => rfl
  | get n env =>
    cases hn : desk.handles[n]? with
    | none => simp only [perform, hn]
    | some h =>
      have hother : slot ≠ h.slot := fun heq => hne (by simp [slot?, hn, heq])
      rw [perform_get hn]
      exact cached_keep_of_ne hother _
  | save n env c now =>
    cases hn : desk.handles[n]? with
    | none => simp only [perform, hn]
    | some h =>
      have hother : slot ≠ h.slot := fun heq => hne (by simp [slot?, hn, heq])
      rw [perform_save hn, cached_withDisk]
      exact cached_keep_of_ne hother _
  | invalidate n =>
    cases hn : desk.handles[n]? with
    | none => simp only [perform, hn]
    | some h =>
      have hother : slot ≠ h.slot := fun heq => hne (by simp [slot?, hn, heq])
      rw [perform_invalidate hn]
      exact cached_keep_of_ne hother _

/-- The step lemma: what is kept in a slot changes by what the step means for it. -/
theorem cached_perform (desk : ConfigDesk) (slot : Nat) (step : ConfigStep) :
    (desk.perform step).2.cached slot =
      ((desk.event? slot step).map ConfigEvent.config?).getD (desk.cached slot) := by
  by_cases hslot : desk.slot? step = some slot
  · rw [event?, if_pos hslot]
    cases step with
    | openFile path => exact absurd hslot (by simp [slot?])
    | copy n => exact absurd hslot (by simp [slot?])
    | changeDisk disk => exact absurd hslot (by simp [slot?])
    | get n env =>
      obtain ⟨h, hn, rfl⟩ := Option.map_eq_some_iff.mp hslot
      rw [perform_get hn, cached_keep_self (List.mem_of_getElem? hn)]
      rcases (desk.store h).get_cases env desk.disk with
        ⟨c, hcached, heq⟩ | ⟨-, c, -, heq⟩ | ⟨hcached, fault, -, heq⟩
      · rw [heq]
        exact hcached
      · rw [heq]
        rfl
      · rw [heq]
        rfl
    | save n env c now =>
      obtain ⟨h, hn, rfl⟩ := Option.map_eq_some_iff.mp hslot
      rw [perform_save hn, cached_withDisk, cached_keep_self (List.mem_of_getElem? hn)]
      rcases (desk.store h).save_cases env desk.disk c now with
        ⟨fault, d', heq, -⟩ | ⟨-, d', heq⟩
      all_goals
        rw [heq]
        rfl
    | invalidate n =>
      obtain ⟨h, hn, rfl⟩ := Option.map_eq_some_iff.mp hslot
      rw [perform_invalidate hn, cached_keep_self (List.mem_of_getElem? hn)]
      rfl
  · rw [event?, if_neg hslot]
    exact cached_perform_of_slot_ne step hslot

/-- The run lemma: what is kept in a slot is what the last event for it says. -/
theorem cached_after (desk : ConfigDesk) (slot : Nat) (steps : List ConfigStep) :
    (desk.after steps).cached slot =
      ((desk.events slot steps).map ConfigEvent.config?).getLastD (desk.cached slot) := by
  induction steps generalizing desk with
  | nil => rfl
  | cons step steps ih =>
    rw [after_cons, ih, cached_perform, events]
    cases desk.event? slot step with
    | none => rfl
    | some e =>
      rw [Option.toList_some, List.singleton_append, List.map_cons, List.getLastD_cons]
      rfl

/-- A run that starts without handles keeps what was given or saved last and not forgotten. -/
theorem cached_eq_latest (disk : Disk) (slot : Nat) (steps : List ConfigStep) :
    ((start disk).after steps).cached slot =
      ConfigEvent.latest ((start disk).events slot steps) :=
  cached_after (start disk) slot steps

/-! ## What is given -/

/-- A handle gives what is kept for it, and else what its file holds at the moment, with the address
from the environment. -/
theorem reply_get (hn : desk.handles[n]? = some h) (env : Environment) :
    (desk.perform (.get n env)).1 = .config (match desk.cached h.slot with
      | some c => .ok c
      | none => ((desk.store h).onDisk env desk.disk).map (·.withBaseUrl env.apiUrl)) := by
  rw [perform_get hn]
  rcases (desk.store h).get_cases env desk.disk with
    ⟨c, hcached, heq⟩ | ⟨hcached, c, hdisk, heq⟩ | ⟨hcached, fault, hdisk, heq⟩
  · have hkept : desk.cached h.slot = some c := hcached
    rw [heq, hkept]
  · have hkept : desk.cached h.slot = none := hcached
    rw [heq, hkept, hdisk]
    rfl
  · have hkept : desk.cached h.slot = none := hcached
    rw [heq, hkept, hdisk]
    rfl

/-- Without an address from the environment a handle gives exactly what its file holds. -/
theorem reply_get_of_plain (hn : desk.handles[n]? = some h) {env : Environment}
    (hplain : Text.nonBlank? env.apiUrl = none) :
    (desk.perform (.get n env)).1 = .config (match desk.cached h.slot with
      | some c => .ok c
      | none => (desk.store h).onDisk env desk.disk) := by
  rw [reply_get hn]
  cases desk.cached h.slot with
  | some c => rfl
  | none =>
    cases (desk.store h).onDisk env desk.disk with
    | error fault => rfl
    | ok c =>
      rw [Except.map, Config.withBaseUrl_of_none hplain]

end ConfigDesk
end Composer
