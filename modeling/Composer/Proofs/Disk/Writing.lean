import Composer.Proofs.Disk.Growth
import Composer.Proofs.Text.Encoding
set_option autoImplicit false

/-!
# What is written is there

A file that was written is found under its path and read back. The way to it goes through folders
only, and a file is never put in the place of one, so the way is still the same afterwards. Only
what is written to a device is gone.
-/

namespace Composer.Disk

variable {d d' : Disk}

/-! ## Ways go through folders -/

/-- Everything above a place is a folder. -/
def IsBelowFolders (d : Disk) (here : Place) : Prop :=
  ∀ above, above <+: here → above ≠ here → d.node? above = some .folder

theorem isBelowFolders_startOf (d : Disk) (p : Path) : d.IsBelowFolders (d.startOf p) := by
  intro above hfront hne
  unfold startOf at hfront hne
  cases habsolute : p.absolute with
  | true =>
    rw [habsolute, if_pos rfl] at hfront hne
    exact absurd (List.prefix_nil.mp hfront) hne
  | false =>
    rw [habsolute, if_neg (by simp)] at hfront
    rw [node?, if_pos (List.isPrefixOf_iff_prefix.mpr hfront)]

theorem IsBelowFolders.step {here there : Place} {name : String} (h : d.IsBelowFolders here)
    (hstep : d.step here name = .ok there) : d.IsBelowFolders there := by
  obtain ⟨hfolder, ⟨-, rfl⟩ | ⟨-, rfl⟩ | ⟨-, -, -, rfl⟩⟩ := step_eq_ok_iff.mp hstep
  · exact h
  · intro above hfront hne
    apply h above (hfront.trans (List.dropLast_prefix here))
    intro hall
    rw [hall] at hfront hne
    exact hne (hfront.eq_of_length_le (by simp)).symm.symm
  · intro above hfront hne
    rcases List.prefix_concat_iff.mp hfront with hall | hbefore
    · exact absurd hall hne
    · by_cases hhere : above = here
      · rw [hhere]
        exact hfolder
      · exact h above hbefore hhere

theorem IsBelowFolders.foldlM_step {here there : Place} {names : List String}
    (h : d.IsBelowFolders here) (hfold : names.foldlM d.step here = .ok there) :
    d.IsBelowFolders there := by
  induction names generalizing here with
  | nil =>
    rw [← Except.ok.inj hfold]
    exact h
  | cons name names ih =>
    rw [List.foldlM_cons] at hfold
    cases hstep : d.step here name with
    | error o =>
      rw [hstep] at hfold
      exact absurd hfold (by simp [bind, Except.bind])
    | ok next =>
      rw [hstep] at hfold
      exact ih (h.step hstep) hfold

/-- A name that does not lead to a folder leads to what has that name. -/
theorem step_eq_ok_of_not_folder {here there : Place} {name : String} (h : d.IsBelowFolders here)
    (hstep : d.step here name = .ok there) (hnot : d.node? there ≠ some .folder) :
    d.node? here = some .folder ∧ (name ≠ "." ∧ name ≠ "..") ∧ isTooLong name = false ∧
      there = here ++ [name] := by
  obtain ⟨hfolder, ⟨-, rfl⟩ | ⟨-, rfl⟩ | ⟨hname, hfits, -, rfl⟩⟩ := step_eq_ok_iff.mp hstep
  · exact absurd hfolder hnot
  · by_cases htop : here.dropLast = here
    · rw [htop] at hnot
      exact absurd hfolder hnot
    · exact absurd (h _ (List.dropLast_prefix here) htop) hnot
  · exact ⟨hfolder, hname, hfits, rfl⟩

/-! ## Finding by steps -/

theorem find_of_place {path : String} {place : Place} {node : Node}
    (hplace : d.place path = .ok place) (hnode : d.node? place = some node) :
    d.find path = .ok node := by
  unfold find
  rw [hplace]
  simp only [bind, Except.bind, pure, Except.pure, hnode]

/-- A path leads where its last name leads from where the names before it lead. -/
theorem place_of_steps {path : String} {here there : Place} {names : List String} {name : String}
    (hpath : pathObstacle? path = none) (hparts : (Path.ofString path).parts = names ++ [name])
    (hway : names.foldlM d.step (d.startOf (Path.ofString path)) = .ok here)
    (hlast : d.step here name = .ok there) : d.place path = .ok there := by
  unfold place
  rw [hpath]
  dsimp only
  rw [hparts, List.foldlM_append, hway]
  simp only [bind, Except.bind, pure, Except.pure, List.foldlM_cons, List.foldlM_nil, hlast]

/-! ## Putting a file -/

theorem extends_put {place : Place} (hfree : d.node? place ≠ some .folder) (node : Node) :
    Extends d (d.put place node) := by
  refine ⟨rfl, ?_, ?_⟩
  · intro other hfolder
    have hother : other ≠ place := by
      intro hsame
      exact hfree (hsame ▸ hfolder)
    rw [node?_put hfree, if_neg hother, hfolder]
  · intro other found hfound
    rw [node?_put hfree]
    by_cases hother : other = place
    · exact ⟨node, if_pos hother⟩
    · exact ⟨found, by rw [if_neg hother, hfound]⟩

/-- What is put under a name in a folder is found under that name. -/
theorem find_put {path : String} {here : Place} {names : List String} {name : String}
    (hpath : pathObstacle? path = none) (hparts : (Path.ofString path).parts = names ++ [name])
    (hway : names.foldlM d.step (d.startOf (Path.ofString path)) = .ok here)
    (hfolder : d.node? here = some .folder) (hname : name ≠ "." ∧ name ≠ "..")
    (hfits : isTooLong name = false) (hfree : d.node? (here ++ [name]) ≠ some .folder)
    (node : Node) : (d.put (here ++ [name]) node).find path = .ok node := by
  have hextends := extends_put hfree node
  have hthere : (d.put (here ++ [name]) node).node? (here ++ [name]) = some node := by
    rw [node?_put hfree, if_pos rfl]
  have hlast : (d.put (here ++ [name]) node).step here name = .ok (here ++ [name]) :=
    step_eq_ok_iff.mpr
      ⟨hextends.folder_of_folder hfolder, .inr (.inr ⟨hname, hfits, ⟨node, hthere⟩, rfl⟩)⟩
  exact find_of_place (place_of_steps hpath hparts (hextends.foldlM_step hway) hlast) hthere

/-! ## Writing -/

/-- A file that was written is found under its path, unless the path leads to a device. -/
theorem find_of_write {path : String} {content : List UInt8} {modified : Int}
    (h : d.write path content modified = (.ok (), d')) :
    d'.find path = .ok (.file content modified) ∨
      ∃ bytes, d'.find path = .ok (.device bytes) := by
  unfold write at h
  dsimp only at h
  split at h
  · exact absurd h (by simp)
  rename_i hpath
  split at h
  · split at h <;> exact absurd h (by simp)
  split at h
  · exact absurd h (by simp)
  · exact absurd h (by simp)
  rename_i here name hway hlast
  obtain ⟨names, hparts⟩ := List.getLast?_eq_some_iff.mp hlast
  rw [hparts, List.dropLast_concat] at hway
  have hbelow := (isBelowFolders_startOf d (Path.ofString path)).foldlM_step hway
  unfold writeAt at h
  split at h
  · rename_i there hstep
    split at h
    · exact absurd h (by simp)
    · rename_i bytes hdevice
      obtain ⟨-, rfl⟩ := Prod.mk.inj h
      exact .inr ⟨bytes, find_of_place (place_of_steps hpath hparts hway hstep) hdevice⟩
    · rename_i hfree hnoDevice
      obtain ⟨-, rfl⟩ := Prod.mk.inj h
      obtain ⟨hfolder, hname, hfits, rfl⟩ := step_eq_ok_of_not_folder hbelow hstep hfree
      exact .inl (find_put hpath hparts hway hfolder hname hfits hfree _)
  · rename_i hstep
    obtain ⟨-, rfl⟩ := Prod.mk.inj h
    obtain ⟨hfolder, hname, hfits, hnone⟩ := step_eq_notFound hstep
    exact .inl (find_put hpath hparts hway hfolder hname hfits (by simp [hnone]) _)
  · exact absurd h (by simp)

/-- A text that was written is read back from its file. -/
theorem readText_of_find {path text : String} {modified : Int}
    (h : d.find path = .ok (.file (Utf8.encode text) modified)) : d.readText path = .ok text := by
  unfold readText read
  rw [h]
  simp only [bind, Except.bind, pure, Except.pure, Utf8.decode?_encode]

end Composer.Disk
