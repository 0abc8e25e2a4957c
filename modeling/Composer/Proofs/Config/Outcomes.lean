import Composer.Config.Store
import Composer.Proofs.Disk.Growth
set_option autoImplicit false

/-!
# What a configuration store can do

A store gives what it keeps, or loads and keeps it, or fails; it saves and keeps what it saved, or
fails. A failure leaves what is kept as it is, and at most makes folders. What is loaded, and what
is saved, is usable; only the address from the environment is taken as it is.
-/

namespace Composer

namespace Config

/-- A configuration is usable if its address is one of the web and both thresholds are positive. -/
theorem fault?_eq_none_iff {c : Config} :
    c.fault? = none ↔
      isWebUrl c.api.baseUrl = true ∧ 0 < c.paste.charThreshold ∧ 0 < c.paste.lineThreshold := by
  cases hurl : isWebUrl c.api.baseUrl with
  | false => simp [fault?, hurl]
  | true =>
    by_cases hzero : c.paste.charThreshold = 0 ∨ c.paste.lineThreshold = 0
    · have hnot : ¬(0 < c.paste.charThreshold ∧ 0 < c.paste.lineThreshold) := by omega
      simp [fault?, hurl, hzero, hnot]
    · have hpos : 0 < c.paste.charThreshold ∧ 0 < c.paste.lineThreshold := by omega
      simp [fault?, hurl, hzero, hpos]

theorem fault?_default : fault? {} = none := by
  decide

theorem fault?_of_checked {c c' : Config} (h : c.checked = .ok c') : c'.fault? = none := by
  unfold checked at h
  cases hfault : c.fault? with
  | none =>
    rw [hfault] at h
    rw [← Except.ok.inj h, hfault]
  | some fault =>
    rw [hfault] at h
    exact absurd h (by simp)

/-- Only usable configurations are read. -/
theorem fault?_of_parse {text : String} {c : Config} (h : parse text = .ok c) :
    c.fault? = none := by
  unfold parse at h
  split at h
  · rw [← Except.ok.inj h]
    exact fault?_default
  · split at h
    · exact absurd h (by simp)
    · split at h
      · exact absurd h (by simp)
      · exact fault?_of_checked h

theorem withBaseUrl_of_none {url : Option String} (h : Text.nonBlank? url = none) (c : Config) :
    c.withBaseUrl url = c := by
  rw [withBaseUrl, h]

theorem withBaseUrl_of_some {url : Option String} {u : String} (h : Text.nonBlank? url = some u)
    (c : Config) : c.withBaseUrl url = { c with api := { c.api with baseUrl := u } } := by
  rw [withBaseUrl, h]

theorem paste_withBaseUrl (c : Config) (url : Option String) :
    (c.withBaseUrl url).paste = c.paste := by
  unfold withBaseUrl
  split <;> rfl

/-- With the address from the environment a usable configuration stays usable exactly if that
address is one of the web. -/
theorem fault?_withBaseUrl_iff {c : Config} (h : c.fault? = none) (url : Option String) :
    (c.withBaseUrl url).fault? = none ↔
      ∀ u, Text.nonBlank? url = some u → isWebUrl u = true := by
  cases hurl : Text.nonBlank? url with
  | none => simp [withBaseUrl_of_none hurl, h]
  | some u =>
    rw [fault?_eq_none_iff] at h
    rw [withBaseUrl_of_some hurl, fault?_eq_none_iff]
    simp [h.2]

end Config

namespace ConfigStore

variable (s : ConfigStore) (e : Environment) (d : Disk)

/-- The configuration that the file of a store holds at the moment. -/
def onDisk : Except Fault Config :=
  match s.file e with
  | .ok path => load d path
  | .error fault => .error fault

/-! ## Loading -/

/-- Without the file the configuration is the default one. -/
theorem load_of_missing {path : String} {o : Obstacle} (h : d.find path = .error o) :
    load d path = .ok {} := by
  rw [load, h]

/-- With a blank file the configuration is the default one. -/
theorem load_of_blank {path text : String} (h : d.readText path = .ok text)
    (hblank : Text.isBlank text = true) : load d path = .ok {} := by
  unfold load
  rw [h]
  cases d.find path with
  | error o => rfl
  | ok node => simp [Config.parse, hblank]

theorem fault?_of_load {path : String} {c : Config} (h : load d path = .ok c) :
    c.fault? = none := by
  unfold load at h
  split at h
  · rw [← Except.ok.inj h]
    exact Config.fault?_default
  · split at h
    · exact absurd h (by simp)
    · exact Config.fault?_of_parse h

/-- What is loaded is usable. -/
theorem fault?_of_onDisk {c : Config} (h : s.onDisk e d = .ok c) : c.fault? = none := by
  unfold onDisk at h
  split at h
  · exact fault?_of_load d h
  · exact absurd h (by simp)

/-! ## Reading and saving -/

/-- A store gives what it keeps, or what the file holds, with the address from the environment, and
keeps that, or it fails. -/
theorem get_cases :
    (∃ c, s.cached = some c ∧ s.get e d = (.ok c, s)) ∨
    (s.cached = none ∧ ∃ c, s.onDisk e d = .ok c ∧
      s.get e d =
        (.ok (c.withBaseUrl e.apiUrl), { s with cached := some (c.withBaseUrl e.apiUrl) })) ∨
    (s.cached = none ∧ ∃ fault, s.onDisk e d = .error fault ∧ s.get e d = (.error fault, s)) := by
  cases hcached : s.cached with
  | some c => exact .inl ⟨c, rfl, by simp [get, hcached]⟩
  | none =>
    cases hfile : s.file e with
    | error fault =>
      exact .inr (.inr ⟨rfl, fault, by simp [onDisk, hfile], by simp [get, hcached, hfile]⟩)
    | ok path =>
      cases hload : load d path with
      | error fault =>
        exact .inr (.inr ⟨rfl, fault, by simp [onDisk, hfile, hload],
          by simp [get, hcached, hfile, hload]⟩)
      | ok c =>
        exact .inr (.inl ⟨rfl, c, by simp [onDisk, hfile, hload],
          by simp [get, hcached, hfile, hload]⟩)

/-- A usable configuration that can be written is saved and kept, unless the disk refuses a folder
or the file; then at most folders are new. -/
theorem save_of_usable {s : ConfigStore} {e : Environment} {c : Config} {path text : String}
    (husable : c.fault? = none) (hfile : s.file e = .ok path) (htext : c.write = .ok text)
    (d : Disk) (now : Int) :
    (∃ (o : Obstacle) (d' : Disk), s.save e d c now = (.error o.fault, s, d') ∧ d.Grows d' ∧
      ((d.makeParents path).1 = .error o ∨
        ((d.makeParents path).2.write path (Utf8.encode text) now).1 = .error o)) ∨
    (∃ d', s.save e d c now = (.ok (), { s with cached := some c }, d') ∧
      (d.makeParents path).2.write path (Utf8.encode text) now = (.ok (), d')) := by
  have hgrows := Disk.grows_makeParents d path
  rcases hparents : d.makeParents path with ⟨o | _, made⟩
  · rw [hparents] at hgrows
    exact .inl ⟨o, made, by simp [save, husable, hfile, hparents], hgrows, .inl rfl⟩
  · rw [hparents] at hgrows
    rcases hwrite : made.write path (Utf8.encode text) now with ⟨o | _, written⟩
    · have hsame : written = made := by
        have hsnd := Disk.write_of_error (congrArg Prod.fst hwrite)
        rw [hwrite] at hsnd
        exact hsnd
      rw [← hsame] at hgrows
      exact .inl ⟨o, written, by simp [save, husable, hfile, hparents, htext, hwrite], hgrows,
        .inr rfl⟩
    · exact .inr ⟨written, by simp [save, husable, hfile, hparents, htext, hwrite], rfl⟩

/-- What is saved is usable and kept; a save that fails keeps what was kept, and leaves the disk as
it is but for folders. -/
theorem save_cases (c : Config) (now : Int) :
    (∃ fault d', s.save e d c now = (.error fault, s, d') ∧ d.Grows d') ∨
    (c.fault? = none ∧ ∃ d', s.save e d c now = (.ok (), { s with cached := some c }, d')) := by
  cases hfault : c.fault? with
  | some fault => exact .inl ⟨fault, d, by simp [save, hfault], .refl d⟩
  | none =>
    cases hfile : s.file e with
    | error fault => exact .inl ⟨fault, d, by simp [save, hfault, hfile], .refl d⟩
    | ok path =>
      cases htext : c.write with
      | error fault =>
        have hgrows := Disk.grows_makeParents d path
        rcases hparents : d.makeParents path with ⟨o | _, made⟩
        · rw [hparents] at hgrows
          exact .inl ⟨o.fault, made, by simp [save, hfault, hfile, hparents], hgrows⟩
        · rw [hparents] at hgrows
          exact .inl ⟨fault, made, by simp [save, hfault, hfile, hparents, htext], hgrows⟩
      | ok text =>
        rcases save_of_usable hfault hfile htext d now with
          ⟨o, d', hsave, hgrows, -⟩ | ⟨d', hsave, -⟩
        · exact .inl ⟨o.fault, d', hsave, hgrows⟩
        · exact .inr ⟨rfl, d', hsave⟩

end ConfigStore
end Composer
