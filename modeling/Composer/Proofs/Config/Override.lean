import Composer.Proofs.Config.History
set_option autoImplicit false

/-!
# The address from the environment

An address in the environment takes the place of the configured one whenever a configuration is
loaded, and only then: what was saved is given as it was saved until it is forgotten. It is taken
as it is, so a configuration that is given can be unusable, but only by an address that came from
the environment.
-/

namespace Composer

namespace ConfigEvent

/-- Whether a configuration was given, by which nothing is saved and nothing forgotten. -/
def isGot : ConfigEvent → Bool
  | got _ => true
  | _ => false

/-- The configuration that was saved last, unless it was forgotten since. -/
def latestSaved (es : List ConfigEvent) : Option Config := latest (es.filter fun e => !e.isGot)

/-- The same, if something stood saved before. -/
def latestSavedAfter (saved : Option Config) (es : List ConfigEvent) : Option Config :=
  ((es.filter fun e => !e.isGot).map config?).getLastD saved

theorem latestSavedAfter_append (saved : Option Config) (e : Option ConfigEvent)
    (es : List ConfigEvent) :
    latestSavedAfter saved (e.toList ++ es) =
      latestSavedAfter (latestSavedAfter saved e.toList) es := by
  cases e with
  | none => rfl
  | some e =>
    cases e with
    | got c => rfl
    | saved c => exact List.getLastD_cons
    | forgotten => exact List.getLastD_cons

end ConfigEvent

namespace ConfigDesk

variable {desk : ConfigDesk} {h : ConfigHandle} {slot n : Nat} {env : Environment} {c : Config}

/-- Every configuration that is given along a run has a property. -/
def Gives (desk : ConfigDesk) (steps : List ConfigStep) (P : Config → Prop) : Prop :=
  ∀ earlier n env later c, steps = earlier ++ .get n env :: later →
    ((desk.after earlier).perform (.get n env)).1 = .config (.ok c) → P c

/-! ## Where a configuration comes from -/

/-- What is given is what was kept, or comes from the file with the address from the environment. -/
theorem given_cases (hn : desk.handles[n]? = some h)
    (hgiven : (desk.perform (.get n env)).1 = .config (.ok c)) :
    desk.cached h.slot = some c ∨
    desk.cached h.slot = none ∧ ∃ loaded, (desk.store h).onDisk env desk.disk = .ok loaded ∧
      c = loaded.withBaseUrl env.apiUrl := by
  rw [reply_get hn] at hgiven
  have hresult := ConfigReply.config.inj hgiven
  cases hcached : desk.cached h.slot with
  | some kept =>
    rw [hcached] at hresult
    exact .inl (congrArg some (Except.ok.inj hresult))
  | none =>
    rw [hcached] at hresult
    cases hdisk : (desk.store h).onDisk env desk.disk with
    | error fault =>
      rw [hdisk] at hresult
      exact absurd hresult (by simp [Except.map])
    | ok loaded =>
      rw [hdisk] at hresult
      exact .inr ⟨rfl, loaded, rfl, (Except.ok.inj hresult).symm⟩

/-- A handle whose file can be loaded gives what it loads. -/
theorem reply_get_of_loaded (hn : desk.handles[n]? = some h) (hcached : desk.cached h.slot = none)
    (hdisk : (desk.store h).onDisk env desk.disk = .ok c) :
    (desk.perform (.get n env)).1 = .config (.ok (c.withBaseUrl env.apiUrl)) := by
  rw [reply_get hn, hcached, hdisk]
  rfl

theorem event?_eq_some {step : ConfigStep} {e : ConfigEvent} (h : desk.event? slot step = some e) :
    desk.slot? step = some slot ∧ eventOf step (desk.perform step).1 = some e := by
  unfold event? at h
  split at h
  · exact ⟨‹_›, h⟩
  · exact absurd h (by simp)

theorem get_of_event? {step : ConfigStep} (hevent : desk.event? slot step = some (.got c)) :
    ∃ n h env, step = .get n env ∧ desk.handles[n]? = some h ∧ h.slot = slot ∧
      (desk.perform (.get n env)).1 = .config (.ok c) := by
  obtain ⟨hslot, heq⟩ := event?_eq_some hevent
  unfold eventOf at heq
  split at heq
  · rename_i n env given hreply
    obtain ⟨h, hn, hsame⟩ := Option.map_eq_some_iff.mp hslot
    obtain rfl := ConfigEvent.got.inj (Option.some.inj heq)
    exact ⟨n, h, env, rfl, hn, hsame, hreply⟩
  all_goals exact absurd heq (by simp)

/-- Only usable configurations are saved. -/
theorem fault?_of_event? {step : ConfigStep} (hevent : desk.event? slot step = some (.saved c)) :
    c.fault? = none := by
  obtain ⟨hslot, heq⟩ := event?_eq_some hevent
  unfold eventOf at heq
  split at heq
  · exact absurd heq (by simp)
  · rename_i n env saved now u hreply
    obtain ⟨h, hn, -⟩ := Option.map_eq_some_iff.mp hslot
    obtain rfl := ConfigEvent.saved.inj (Option.some.inj heq)
    rw [perform_save hn] at hreply
    rcases (desk.store h).save_cases env desk.disk saved now with
      ⟨fault, disk, hsave, -⟩ | ⟨husable, -⟩
    · rw [hsave] at hreply
      exact absurd hreply (by simp)
    · exact husable
  all_goals exact absurd heq (by simp)

/-! ## A property of all that is kept -/

/-- Every configuration that is kept has a property. -/
def Keeps (desk : ConfigDesk) (P : Config → Prop) : Prop :=
  ∀ slot c, desk.cached slot = some c → P c

/-- Every configuration that a step loads has a property. -/
def Loads (desk : ConfigDesk) (step : ConfigStep) (P : Config → Prop) : Prop :=
  ∀ n h env c, step = .get n env → desk.handles[n]? = some h → desk.cached h.slot = none →
    (desk.store h).onDisk env desk.disk = .ok c → P (c.withBaseUrl env.apiUrl)

variable {P : Config → Prop}

/-- What is given has the property that all that is kept and loaded has. -/
theorem Keeps.given (hkeeps : desk.Keeps P) (hloads : desk.Loads (.get n env) P)
    (hn : desk.handles[n]? = some h)
    (hgiven : (desk.perform (.get n env)).1 = .config (.ok c)) : P c := by
  rcases given_cases hn hgiven with hcached | ⟨hcached, loaded, hdisk, rfl⟩
  · exact hkeeps h.slot c hcached
  · exact hloads n h env loaded rfl hn hcached hdisk

/-- The step lemma. -/
theorem Keeps.perform (hkeeps : desk.Keeps P) {step : ConfigStep} (hloads : desk.Loads step P)
    (husable : ∀ c, c.fault? = none → P c) : (desk.perform step).2.Keeps P := by
  intro slot c hcached
  rw [cached_perform] at hcached
  cases hevent : desk.event? slot step with
  | none =>
    rw [hevent] at hcached
    exact hkeeps slot c hcached
  | some e =>
    rw [hevent] at hcached
    cases e with
    | got given =>
      obtain rfl := Option.some.inj hcached
      obtain ⟨n, h, env, rfl, hn, -, hgiven⟩ := get_of_event? hevent
      exact hkeeps.given hloads hn hgiven
    | saved saved =>
      obtain rfl := Option.some.inj hcached
      exact husable saved (fault?_of_event? hevent)
    | forgotten => exact absurd hcached (by simp [ConfigEvent.config?])

/-- The run lemma. -/
theorem Keeps.after (hkeeps : desk.Keeps P) (steps : List ConfigStep)
    (hloads : ∀ earlier step later, steps = earlier ++ step :: later →
      (desk.after earlier).Loads step P)
    (husable : ∀ c, c.fault? = none → P c) : (desk.after steps).Keeps P := by
  induction steps generalizing desk with
  | nil => exact hkeeps
  | cons step steps ih =>
    refine ih (hkeeps.perform (hloads [] step steps rfl) husable) ?_
    intro earlier next later hsteps
    exact hloads (step :: earlier) next later (by rw [hsteps, List.cons_append])

/-- Along a run from nothing, what is given has each property that usable configurations have and
all that is loaded. -/
theorem gives_of_loads (disk : Disk) (steps : List ConfigStep)
    (hloads : ∀ earlier step later, steps = earlier ++ step :: later →
      ((start disk).after earlier).Loads step P)
    (husable : ∀ c, c.fault? = none → P c) : (start disk).Gives steps P := by
  intro earlier n env later c hsteps hgiven
  have hstart : (start disk).Keeps P := by
    intro slot c hcached
    exact absurd hcached (by simp)
  have hkeeps : ((start disk).after earlier).Keeps P := by
    refine hstart.after earlier ?_ husable
    intro front step back hearlier
    exact hloads front step (back ++ .get n env :: later) (by rw [hsteps, hearlier]; simp)
  cases hn : ((start disk).after earlier).handles[n]? with
  | none => exact absurd hgiven (by simp [ConfigDesk.perform, hn])
  | some h => exact hkeeps.given (hloads earlier _ later hsteps) hn hgiven

/-! ## Unusable addresses -/

/-- In every run the thresholds of what is given are positive. It is usable as a whole exactly if,
whenever a configuration is loaded, the address that the environment puts into it is one of the
web. -/
theorem given_usable_iff (disk : Disk) (steps : List ConfigStep) :
    (start disk).Gives steps (fun c => 0 < c.paste.charThreshold ∧ 0 < c.paste.lineThreshold) ∧
    ((start disk).Gives steps (fun c => c.fault? = none) ↔
      ∀ earlier n h env later c u, steps = earlier ++ .get n env :: later →
        ((start disk).after earlier).handles[n]? = some h →
        ConfigEvent.latest ((start disk).events h.slot earlier) = none →
        (((start disk).after earlier).perform (.get n env)).1 = .config (.ok c) →
        Text.nonBlank? env.apiUrl = some u → Config.isWebUrl u = true) := by
  refine ⟨?_, ?_, ?_⟩
  · refine gives_of_loads disk steps ?_ ?_
    · intro earlier step later hsteps n h env c hstep hn hcached hdisk
      rw [Config.paste_withBaseUrl]
      exact (Config.fault?_eq_none_iff.mp (ConfigStore.fault?_of_onDisk _ _ _ hdisk)).2
    · intro c husable
      exact (Config.fault?_eq_none_iff.mp husable).2
  · intro hgives earlier n h env later c u hsteps hn hlatest hgiven hurl
    have husable : c.fault? = none := hgives earlier n env later c hsteps hgiven
    have hnone : ((start disk).after earlier).cached h.slot = none :=
      (cached_eq_latest disk h.slot earlier).trans hlatest
    rcases given_cases hn hgiven with hcached | ⟨-, loaded, hdisk, rfl⟩
    · rw [hnone] at hcached
      exact absurd hcached (by simp)
    · have hloaded := ConfigStore.fault?_of_onDisk _ _ _ hdisk
      exact (Config.fault?_withBaseUrl_iff hloaded env.apiUrl).mp husable u hurl
  · intro hweb
    refine gives_of_loads disk steps ?_ ?_
    · intro earlier step later hsteps n h env c hstep hn hcached hdisk
      subst hstep
      have hloaded := ConfigStore.fault?_of_onDisk _ _ _ hdisk
      have hlatest : ConfigEvent.latest ((start disk).events h.slot earlier) = none :=
        (cached_eq_latest disk h.slot earlier).symm.trans hcached
      apply (Config.fault?_withBaseUrl_iff hloaded env.apiUrl).mpr
      intro u hurl
      exact hweb earlier n h env later _ u hsteps hn hlatest
        (reply_get_of_loaded hn hcached hdisk) hurl
    · exact fun c husable => husable

/-- An address that is not one of the web gets into a configuration from the environment. -/
theorem unusable_address_given :
    let desk := (start {}).after [.openFile (some "c")]
    ∃ c, (desk.perform (.get 0 { apiUrl := some "ftp://x" })).1 = .config (.ok c) ∧
      c.fault? ≠ none :=
  ⟨{ api := { baseUrl := "ftp://x" } }, rfl, by decide⟩

/-! ## Saved addresses -/

/-- What is kept is what stands saved, if anything does, and has a certain address if nothing does.
-/
structure Overridden (u : String) (kept saved : Option Config) : Prop where
  kept_of_saved : ∀ c, saved = some c → kept = some c
  baseUrl_eq : ∀ c, saved = none → kept = some c → c.api.baseUrl = u

/-- A step with an address in the environment. -/
theorem Overridden.perform {u : String} {saved : Option Config} (hu : Text.isBlank u = false)
    (h : Overridden u (desk.cached slot) saved) {step : ConfigStep}
    (hstep : ∀ n env, step = .get n env → env.apiUrl = some u) :
    Overridden u ((desk.perform step).2.cached slot)
      (ConfigEvent.latestSavedAfter saved (desk.event? slot step).toList) := by
  rw [cached_perform]
  cases hevent : desk.event? slot step with
  | none => exact h
  | some e =>
    cases e with
    | got c =>
      obtain ⟨n, handle, env, rfl, hn, rfl, hgiven⟩ := get_of_event? hevent
      rcases given_cases hn hgiven with hkept | ⟨hkept, loaded, -, rfl⟩
      · rw [hkept] at h
        exact h
      · rw [hkept] at h
        refine ⟨fun c hsaved => absurd (h.kept_of_saved c hsaved) (by simp), ?_⟩
        intro c hsaved hloaded
        have hurl : Text.nonBlank? env.apiUrl = some u := by
          rw [hstep n env rfl, Text.nonBlank?_of_not_isBlank hu]
        rw [← Option.some.inj hloaded, Config.withBaseUrl_of_some hurl]
    | saved c =>
      change Overridden u (some c) (some c)
      exact ⟨fun c hsaved => hsaved, fun c hsaved => absurd hsaved (by simp)⟩
    | forgotten =>
      change Overridden u none none
      exact ⟨fun c hsaved => hsaved, fun c _ hkept => absurd hkept (by simp)⟩

/-- The run lemma: along a run with an address in the environment, only what stands saved can have
another one. -/
theorem Overridden.after {u : String} {saved : Option Config} (hu : Text.isBlank u = false)
    (h : Overridden u (desk.cached slot) saved) (steps : List ConfigStep)
    (hsteps : ∀ n env, ConfigStep.get n env ∈ steps → env.apiUrl = some u) :
    Overridden u ((desk.after steps).cached slot)
      (ConfigEvent.latestSavedAfter saved (desk.events slot steps)) := by
  induction steps generalizing desk saved with
  | nil => exact h
  | cons step steps ih =>
    have hstep : ∀ n env, step = .get n env → env.apiUrl = some u := by
      intro n env heq
      exact hsteps n env (heq ▸ List.mem_cons_self)
    rw [after_cons, events, ConfigEvent.latestSavedAfter_append]
    refine ih (h.perform hu hstep) ?_
    intro n env hmem
    exact hsteps n env (List.mem_cons_of_mem step hmem)

/-- In every run with an address in the environment, this address is in all that is given exactly
if, whenever a configuration is asked for, none stands saved for the handle with another address. -/
theorem override_in_force_iff (disk : Disk) (steps : List ConfigStep) (u : String)
    (hu : Text.isBlank u = false)
    (hsteps : ∀ n env, ConfigStep.get n env ∈ steps → env.apiUrl = some u) :
    (start disk).Gives steps (fun c => c.api.baseUrl = u) ↔
      ∀ earlier n h env later c, steps = earlier ++ .get n env :: later →
        ((start disk).after earlier).handles[n]? = some h →
        ConfigEvent.latestSaved ((start disk).events h.slot earlier) = some c →
          c.api.baseUrl = u := by
  have hkept : ∀ earlier n env later slot, steps = earlier ++ .get n env :: later →
      Overridden u (((start disk).after earlier).cached slot)
        (ConfigEvent.latestSaved ((start disk).events slot earlier)) := by
    intro earlier n env later slot hsplit
    have hstart : Overridden u ((start disk).cached slot) none :=
      ⟨fun c hsaved => absurd hsaved (by simp),
        fun c _ hcached => absurd hcached (by simp)⟩
    refine hstart.after hu earlier ?_
    intro m other hmem
    exact hsteps m other (by rw [hsplit]; exact List.mem_append_left _ hmem)
  constructor
  · intro hgives earlier n h env later c hsplit hn hsaved
    have hcached := (hkept earlier n env later h.slot hsplit).kept_of_saved c hsaved
    apply hgives earlier n env later c hsplit
    rw [reply_get hn, hcached]
  · intro hsame earlier n env later c hsplit hgiven
    have hurl : Text.nonBlank? env.apiUrl = some u := by
      rw [hsteps n env (by rw [hsplit]; simp), Text.nonBlank?_of_not_isBlank hu]
    cases hn : ((start disk).after earlier).handles[n]? with
    | none => exact absurd hgiven (by simp [ConfigDesk.perform, hn])
    | some h =>
      have hover := hkept earlier n env later h.slot hsplit
      rcases given_cases hn hgiven with hcached | ⟨-, loaded, -, rfl⟩
      · cases hsaved : ConfigEvent.latestSaved ((start disk).events h.slot earlier) with
        | none => exact hover.baseUrl_eq c hsaved hcached
        | some saved =>
          have hthis := (hover.kept_of_saved saved hsaved).symm.trans hcached
          rw [← Option.some.inj hthis]
          exact hsame earlier n h env later saved hsplit hn hsaved
      · rw [Config.withBaseUrl_of_some hurl]

/-- After what was saved is forgotten the address from the environment is in force again. -/
theorem override_back_after_invalidation :
    let env : Environment := { apiUrl := some "http://u" }
    let steps : List ConfigStep :=
      [.openFile (some "c"), .save 0 env {} 0, .invalidate 0, .get 0 env]
    Text.isBlank "http://u" = false ∧
      (∀ n e, ConfigStep.get n e ∈ steps → e.apiUrl = some "http://u") ∧
      (start {}).Gives steps (fun c => c.api.baseUrl = "http://u") := by
  intro env steps
  have hurl : Text.isBlank "http://u" = false := by decide
  have hsteps : ∀ n e, ConfigStep.get n e ∈ steps → e.apiUrl = some "http://u" := by
    intro n e hmem
    simp only [steps, List.mem_cons, reduceCtorEq, ConfigStep.get.injEq, List.not_mem_nil,
      false_or, or_false] at hmem
    rw [hmem.2]
  refine ⟨hurl, hsteps, (override_in_force_iff {} steps "http://u" hurl hsteps).mpr ?_⟩
  intro earlier n h env' later c hsplit hn hsaved
  -- the only request is the last step, and what comes before it leaves nothing saved
  rcases earlier with _ | ⟨first, _ | ⟨second, _ | ⟨third, _ | ⟨fourth, rest⟩⟩⟩⟩ <;>
    simp only [steps, List.nil_append, List.cons_append, List.cons.injEq, reduceCtorEq, false_and,
      and_false, List.append_eq_nil_iff, List.nil_eq] at hsplit
  obtain ⟨rfl, rfl, rfl, hget, -⟩ := hsplit
  obtain ⟨rfl, -⟩ := ConfigStep.get.inj hget
  obtain rfl : ({ path := some "c", slot := 0 } : ConfigHandle) = h := Option.some.inj hn
  have hnone : (none : Option Config) = some c := hsaved
  exact absurd hnone (by simp)

/-- A saved configuration is given with the address that it was saved with. -/
theorem saved_address_given :
    let env : Environment := { apiUrl := some "http://u" }
    let desk := (start {}).after [.openFile (some "c"), .save 0 env {} 0]
    Text.isBlank "http://u" = false ∧
      ∃ c, (desk.perform (.get 0 env)).1 = .config (.ok c) ∧ c.api.baseUrl ≠ "http://u" :=
  ⟨by decide, {}, rfl, by decide⟩

end ConfigDesk
end Composer
