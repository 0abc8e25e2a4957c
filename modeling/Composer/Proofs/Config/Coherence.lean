import Composer.Proofs.Config.History
set_option autoImplicit false

/-!
# One configuration for all copies of a handle

What was given or saved last is given again, whatever becomes of the file, until it is invalidated;
then the file decides. A failure leaves no trace, so a file that was put in order is loaded at the
next attempt. A copy of a handle can be used in place of its original at any time.
-/

namespace Composer

/-- Whether a use of the handles failed. -/
def ConfigReply.isFailure : ConfigReply → Bool
  | .config (.error _) => true
  | .saved (.error _) => true
  | _ => false

namespace ConfigDesk

variable {desk : ConfigDesk} {h : ConfigHandle} {n : Nat}

/-! ## Failures -/

/-- A handle that gives nothing keeps nothing, before and after. -/
theorem perform_get_of_error (hn : desk.handles[n]? = some h) {env : Environment} {fault : Fault}
    (hfault : (desk.perform (.get n env)).1 = .config (.error fault)) :
    desk.cached h.slot = none ∧ (desk.perform (.get n env)).2 = desk := by
  rw [perform_get hn] at hfault ⊢
  rcases (desk.store h).get_cases env desk.disk with
    ⟨c, -, heq⟩ | ⟨-, c, -, heq⟩ | ⟨hcached, fault', -, heq⟩
  · rw [heq] at hfault
    exact absurd hfault (by simp)
  · rw [heq] at hfault
    exact absurd hfault (by simp)
  · rw [heq]
    exact ⟨hcached, keep_cached (List.mem_of_getElem? hn)⟩

/-- A failure leaves all as it is but for folders on the disk. -/
theorem perform_of_isFailure {step : ConfigStep}
    (hfails : (desk.perform step).1.isFailure = true) :
    ∃ disk, (desk.perform step).2 = desk.withDisk disk ∧ desk.disk.Grows disk := by
  cases step with
  | openFile path => exact absurd hfails (by simp [perform, ConfigReply.isFailure])
  | changeDisk disk => exact absurd hfails (by simp [perform, ConfigReply.isFailure])
  | copy n =>
    cases hn : desk.handles[n]? <;>
      exact absurd hfails (by simp [perform, hn, ConfigReply.isFailure])
  | invalidate n =>
    cases hn : desk.handles[n]? <;>
      exact absurd hfails (by simp [perform, hn, ConfigReply.isFailure])
  | get n env =>
    cases hn : desk.handles[n]? with
    | none => exact absurd hfails (by simp [perform, hn, ConfigReply.isFailure])
    | some h =>
      cases hreply : (desk.perform (.get n env)).1 with
      | config r =>
        cases r with
        | error fault => exact ⟨desk.disk, (perform_get_of_error hn hreply).2, .refl _⟩
        | ok c => exact absurd hfails (by simp [hreply, ConfigReply.isFailure])
      | _ => exact absurd hreply (by simp [perform_get hn])
  | save n env c now =>
    cases hn : desk.handles[n]? with
    | none => exact absurd hfails (by simp [perform, hn, ConfigReply.isFailure])
    | some h =>
      rw [perform_save hn] at hfails ⊢
      rcases (desk.store h).save_cases env desk.disk c now with
        ⟨fault, disk, heq, hgrows⟩ | ⟨-, disk, heq⟩
      · rw [heq]
        refine ⟨disk, ?_, hgrows⟩
        exact congrArg (fun d => d.withDisk disk) (keep_cached (List.mem_of_getElem? hn))
      · rw [heq] at hfails
        exact absurd hfails (by simp [ConfigReply.isFailure])

/-! ## Copies -/

theorem getElem?_perform (hn : desk.handles[n]? = some h) (step : ConfigStep) :
    (desk.perform step).2.handles[n]? = some h := by
  have happend : ∀ more : List ConfigHandle, (desk.handles ++ more)[n]? = some h := by
    intro more
    obtain ⟨hlt, -⟩ := List.getElem?_eq_some_iff.mp hn
    rw [List.getElem?_append_left hlt, hn]
  cases step with
  | openFile path => exact happend _
  | copy m =>
    simp only [perform]
    split
    · exact happend _
    · exact hn
  | changeDisk disk => rw [perform, handles_withDisk, hn]
  | get m env =>
    cases hm : desk.handles[m]? with
    | none => simpa only [perform, hm] using hn
    | some other =>
      rw [perform_get hm, handles_keep, hn]
  | save m env c now =>
    cases hm : desk.handles[m]? with
    | none => simpa only [perform, hm] using hn
    | some other =>
      rw [perform_save hm, handles_withDisk, handles_keep, hn]
  | invalidate m =>
    cases hm : desk.handles[m]? with
    | none => simpa only [perform, hm] using hn
    | some other =>
      rw [perform_invalidate hm, handles_keep, hn]

/-- A handle stays what it is along a run. -/
theorem getElem?_after (hn : desk.handles[n]? = some h) (steps : List ConfigStep) :
    (desk.after steps).handles[n]? = some h := by
  induction steps generalizing desk with
  | nil => exact hn
  | cons step steps ih => exact ih (getElem?_perform hn step)

/-- Whether two numbers can be exchanged in every use. -/
def Interchangeable (desk : ConfigDesk) (n m : Nat) : Prop :=
  (∀ env, desk.perform (.get n env) = desk.perform (.get m env)) ∧
  (∀ env c now, desk.perform (.save n env c now) = desk.perform (.save m env c now)) ∧
  desk.perform (.invalidate n) = desk.perform (.invalidate m)

theorem interchangeable_of_eq {m : Nat} (heq : desk.handles[n]? = desk.handles[m]?) :
    desk.Interchangeable n m := by
  refine ⟨?_, ?_, ?_⟩
  · intro env
    simp only [perform, heq]
  · intro env c now
    simp only [perform, heq]
  · simp only [perform, heq]

/-- A copy can always be used in place of its original. -/
theorem interchangeable_after_copy (hn : desk.handles[n]? = some h) (steps : List ConfigStep) :
    ((desk.perform (.copy n)).2.after steps).Interchangeable n desk.handles.length := by
  have hcopied : (desk.perform (.copy n)).2.handles = desk.handles ++ [h] := by
    simp [perform, hn, addCopy]
  have hold : (desk.perform (.copy n)).2.handles[n]? = some h := getElem?_perform hn _
  have hnew : (desk.perform (.copy n)).2.handles[desk.handles.length]? = some h := by
    rw [hcopied]
    simp
  apply interchangeable_of_eq
  rw [getElem?_after hold, getElem?_after hnew]

/-- A handle that is opened shares what it keeps with no other. -/
theorem slot_openFile_ne (desk : ConfigDesk) (path : Option String) :
    ∃ own : ConfigHandle, (desk.openFile path).handles = desk.handles ++ [own] ∧
      ∀ h ∈ desk.handles, own.slot ≠ h.slot := by
  refine ⟨{ path, slot := desk.kept.length }, rfl, ?_⟩
  intro h hmem
  exact (Nat.ne_of_lt (desk.slot_lt h hmem)).symm

/-! ## Coherence -/

/-- In every run, however many handles are in use and whatever others do to the disk, a handle gives
what was given or saved last through it and its copies, unless it was invalidated since, and else
exactly what its file holds at the moment, which is the default configuration for a file that is
missing or blank. What fails changes neither what is kept nor any file, so that the next attempt
finds what was repaired. A copy and its original stay the same in every use, and handles that are
opened apart keep apart. -/
theorem config_kept_until_invalidated (disk : Disk) (steps : List ConfigStep) :
    let desk := (start disk).after steps
    (∀ n h env, desk.handles[n]? = some h → Text.nonBlank? env.apiUrl = none →
      (desk.perform (.get n env)).1 =
        .config (match ConfigEvent.latest ((start disk).events h.slot steps) with
          | some c => .ok c
          | none => (desk.store h).onDisk env desk.disk)) ∧
    (∀ path, (∃ o, desk.disk.find path = .error o) ∨
        (∃ text, desk.disk.readText path = .ok text ∧ Text.isBlank text = true) →
      ConfigStore.load desk.disk path = .ok {}) ∧
    (∀ step, (desk.perform step).1.isFailure = true →
      let later := (desk.perform step).2
      later.handles = desk.handles ∧ later.kept = desk.kept ∧
      (∀ place content modified, later.disk.node? place = some (.file content modified) ↔
        desk.disk.node? place = some (.file content modified)) ∧
      ∀ path content, desk.disk.read path = .ok content → later.disk.read path = .ok content) ∧
    (∀ n h env fault, desk.handles[n]? = some h →
      (desk.perform (.get n env)).1 = .config (.error fault) →
      ∀ repaired m other env', desk.handles[m]? = some other → other.slot = h.slot →
        Text.nonBlank? env'.apiUrl = none →
        ((desk.after [.get n env, .changeDisk repaired]).perform (.get m env')).1 =
          .config ((desk.store other).onDisk env' repaired)) ∧
    (∀ n h more, desk.handles[n]? = some h →
      (desk.perform (.copy n)).1 = .handle desk.handles.length ∧
      ((desk.perform (.copy n)).2.after more).Interchangeable n desk.handles.length) ∧
    ∀ path, ∃ own : ConfigHandle,
      (desk.perform (.openFile path)).2.handles = desk.handles ++ [own] ∧
      ∀ h ∈ desk.handles, own.slot ≠ h.slot := by
  intro desk
  refine ⟨?_, ?_, ?_, ?_, ?_, desk.slot_openFile_ne⟩
  · intro n h env hn hplain
    have hkept : desk.cached h.slot = ConfigEvent.latest ((start disk).events h.slot steps) :=
      cached_eq_latest disk h.slot steps
    have hreply := reply_get_of_plain hn hplain
    rw [hkept] at hreply
    exact hreply
  · intro path hdefault
    rcases hdefault with ⟨o, hmissing⟩ | ⟨text, hread, hblank⟩
    · exact ConfigStore.load_of_missing _ hmissing
    · exact ConfigStore.load_of_blank _ hread hblank
  · intro step hfails later
    obtain ⟨grown, hgrown, hgrows⟩ := perform_of_isFailure hfails
    have hlater : later = desk.withDisk grown := hgrown
    rw [hlater]
    exact ⟨rfl, rfl, hgrows.node?_eq_file_iff, fun path content hread => hgrows.read hread⟩
  · intro n h env fault hn hfault repaired m other env' hm hslot hplain
    obtain ⟨hcached, hkept⟩ := perform_get_of_error hn hfault
    have hlater : desk.after [.get n env, .changeDisk repaired] = desk.withDisk repaired := by
      rw [after_cons, hkept]
      rfl
    have hnone : (desk.withDisk repaired).cached other.slot = none := by
      rw [cached_withDisk, hslot, hcached]
    have hother : (desk.withDisk repaired).handles[m]? = some other := hm
    rw [hlater, reply_get_of_plain hother hplain, hnone]
    rfl
  · intro n h more hn
    exact ⟨by simp only [perform, hn], interchangeable_after_copy hn more⟩

end ConfigDesk
end Composer
