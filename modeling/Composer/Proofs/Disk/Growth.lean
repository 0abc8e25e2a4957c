import Composer.Disk
set_option autoImplicit false

/-!
# What making folders leaves alone

Folders are made only where nothing is. So every file stays where it is with what it holds, whatever
could be read is read as before, and this also when an obstacle is met on the way. A file that could
not be written leaves the disk as it is. A way that can be followed depends on the folders alone, so
it leads to the same place on every disk that has these and what they hold.
-/

namespace Composer.Disk

/-- One disk comes from another by putting folders where nothing was. -/
structure Grows (d d' : Disk) : Prop where
  workingFolder_eq : d'.workingFolder = d.workingFolder
  node?_eq_or : ∀ place,
    d'.node? place = d.node? place ∨ d.node? place = none ∧ d'.node? place = some .folder

/-- One disk has what another has, though a file or a device may hold something else. -/
structure Extends (d d' : Disk) : Prop where
  workingFolder_eq : d'.workingFolder = d.workingFolder
  folder_of_folder : ∀ {place}, d.node? place = some .folder → d'.node? place = some .folder
  exists_of_some : ∀ {place node}, d.node? place = some node → ∃ node', d'.node? place = some node'

variable {d d' d'' : Disk}

/-! ## Putting a node -/

theorem lookup_filter_of_ne {place other : Place} (h : other ≠ place)
    (nodes : List (Place × Node)) :
    (nodes.filter fun n => n.1 != place).lookup other = nodes.lookup other := by
  induction nodes with
  | nil => rfl
  | cons n nodes ih =>
    obtain ⟨here, node⟩ := n
    by_cases hhere : here = place
    · have hother : (other == here) = false := by simpa [hhere] using h
      rw [List.filter_cons_of_neg (by simp [hhere]), ih, List.lookup_cons, hother]
    · rw [List.filter_cons_of_pos (by simpa using hhere), List.lookup_cons, List.lookup_cons, ih]

theorem node?_put {place : Place} (hfree : d.node? place ≠ some .folder) (node : Node)
    (other : Place) :
    (d.put place node).node? other = if other = place then some node else d.node? other := by
  by_cases hother : other = place
  · have hfar : place.isPrefixOf d.workingFolder = false := by
      cases hprefix : place.isPrefixOf d.workingFolder with
      | false => rfl
      | true => exact absurd (by simp [node?, hprefix]) hfree
    simp [node?, put, hother, hfar]
  · have hne : (other == place) = false := by simpa using hother
    simp only [node?, put, List.lookup_cons, hne, lookup_filter_of_ne hother, if_neg hother]

/-! ## One name of a path -/

/-- Where a name leads from a folder: nowhere else, up, or to what has that name. -/
theorem step_eq_ok_iff {here there : Place} {name : String} :
    d.step here name = .ok there ↔
      d.node? here = some .folder ∧
        (name = "." ∧ here = there ∨ name = ".." ∧ here.dropLast = there ∨
          (name ≠ "." ∧ name ≠ "..") ∧ isTooLong name = false ∧
            (∃ node, d.node? (here ++ [name]) = some node) ∧ here ++ [name] = there) := by
  by_cases hfolder : d.node? here = some .folder
  · by_cases hhere : name = "."
    · simp [step, hfolder, hhere]
    · by_cases hup : name = ".."
      · simp [step, hfolder, hup]
      · cases hlong : isTooLong name with
        | true => simp [step, hfolder, hhere, hup, hlong]
        | false =>
          cases hnode : d.node? (here ++ [name]) with
          | none => simp [step, hfolder, hhere, hup, hlong, hnode]
          | some node => simp [step, hfolder, hhere, hup, hlong, hnode]
  · simp [step, hfolder]

/-- A name leads nowhere from a folder in which nothing has it. -/
theorem step_eq_notFound {here : Place} {name : String} (h : d.step here name = .error .notFound) :
    d.node? here = some .folder ∧ (name ≠ "." ∧ name ≠ "..") ∧ isTooLong name = false ∧
      d.node? (here ++ [name]) = none := by
  unfold step at h
  repeat' split at h
  all_goals simp_all

/-! ## Ways that stay -/

namespace Extends

theorem step (h : Extends d d') {here there : Place} {name : String}
    (hstep : d.step here name = .ok there) : d'.step here name = .ok there := by
  rw [step_eq_ok_iff] at hstep ⊢
  obtain ⟨hfolder, hleads⟩ := hstep
  refine ⟨h.folder_of_folder hfolder, ?_⟩
  rcases hleads with hhere | hup | ⟨hname, hfits, ⟨node, hnode⟩, hthere⟩
  · exact .inl hhere
  · exact .inr (.inl hup)
  · exact .inr (.inr ⟨hname, hfits, h.exists_of_some hnode, hthere⟩)

theorem foldlM_step (h : Extends d d') {here there : Place} {names : List String}
    (hfold : names.foldlM d.step here = .ok there) : names.foldlM d'.step here = .ok there := by
  induction names generalizing here with
  | nil => exact hfold
  | cons name names ih =>
    rw [List.foldlM_cons] at hfold ⊢
    cases hstep : d.step here name with
    | error o =>
      rw [hstep] at hfold
      exact absurd hfold (by simp [bind, Except.bind])
    | ok next =>
      rw [hstep] at hfold
      rw [h.step hstep]
      exact ih hfold

theorem place (h : Extends d d') {path : String} {place : Place}
    (hplace : d.place path = .ok place) : d'.place path = .ok place := by
  have hstart : d'.startOf (Path.ofString path) = d.startOf (Path.ofString path) := by
    rw [startOf, startOf, h.workingFolder_eq]
  unfold Disk.place at hplace ⊢
  split at hplace
  · exact absurd hplace (by simp)
  · rw [hstart]
    exact h.foldlM_step hplace

end Extends

/-! ## Growth -/

namespace Grows

theorem refl (d : Disk) : Grows d d := ⟨rfl, fun _ => .inl rfl⟩

theorem trans (h : Grows d d') (h' : Grows d' d'') : Grows d d'' := by
  refine ⟨h'.workingFolder_eq.trans h.workingFolder_eq, ?_⟩
  intro place
  rcases h.node?_eq_or place with hsame | ⟨hnone, hmade⟩
  · rw [← hsame]
    exact h'.node?_eq_or place
  · rcases h'.node?_eq_or place with hsame | ⟨hgone, -⟩
    · exact .inr ⟨hnone, hsame.trans hmade⟩
    · rw [hmade] at hgone
      exact absurd hgone (by simp)

theorem put_folder {place : Place} (hnew : d.node? place = none) :
    Grows d (d.put place .folder) := by
  refine ⟨rfl, ?_⟩
  intro other
  rw [node?_put (by simp [hnew])]
  by_cases hother : other = place
  · rw [if_pos hother, hother]
    exact .inr ⟨hnew, rfl⟩
  · rw [if_neg hother]
    exact .inl rfl

/-- What was there is still there. -/
theorem node?_of_some (h : Grows d d') {place : Place} {node : Node}
    (hnode : d.node? place = some node) : d'.node? place = some node := by
  rcases h.node?_eq_or place with hsame | ⟨hnone, -⟩
  · exact hsame.trans hnode
  · rw [hnode] at hnone
    exact absurd hnone (by simp)

/-- No file is new, gone or changed. -/
theorem node?_eq_file_iff (h : Grows d d') (place : Place) (content : List UInt8) (modified : Int) :
    d'.node? place = some (.file content modified) ↔
      d.node? place = some (.file content modified) := by
  rcases h.node?_eq_or place with hsame | ⟨hnone, hmade⟩
  · rw [hsame]
  · simp [hnone, hmade]

theorem toExtends (h : Grows d d') : Extends d d' :=
  ⟨h.workingFolder_eq, h.node?_of_some, fun hnode => ⟨_, h.node?_of_some hnode⟩⟩

/-! ## Finding on a disk that grows -/

theorem find (h : Grows d d') {path : String} {node : Node} (hfind : d.find path = .ok node) :
    d'.find path = .ok node := by
  unfold Disk.find at hfind ⊢
  cases hplace : d.place path with
  | error o =>
    rw [hplace] at hfind
    exact absurd hfind (by simp [bind, Except.bind])
  | ok place =>
    rw [hplace] at hfind
    rw [h.toExtends.place hplace]
    cases hnode : d.node? place with
    | none =>
      simp only [bind, Except.bind, hnode] at hfind
      exact absurd hfind (by simp)
    | some found =>
      simp only [bind, Except.bind, hnode] at hfind
      simp only [bind, Except.bind, h.node?_of_some hnode]
      exact hfind

/-- What could be read is read as before. -/
theorem read (h : Grows d d') {path : String} {content : List UInt8}
    (hread : d.read path = .ok content) : d'.read path = .ok content := by
  unfold Disk.read at hread ⊢
  cases hfind : d.find path with
  | error o =>
    rw [hfind] at hread
    exact absurd hread (by simp [bind, Except.bind])
  | ok node =>
    rw [hfind] at hread
    rw [h.find hfind]
    exact hread

end Grows

/-! ## Making folders, and writing -/

theorem grows_makeFolders (names : List String) (d : Disk) (here : Place) :
    Grows d (d.makeFolders here names).2 := by
  induction names generalizing d here with
  | nil => exact .refl d
  | cons name names ih =>
    unfold makeFolders
    split
    · split
      · exact ih d _
      · exact .refl d
    · rename_i hmissing
      exact (Grows.put_folder (step_eq_notFound hmissing).2.2.2).trans (ih _ _)
    · exact .refl d

theorem grows_makeParents (d : Disk) (path : String) : Grows d (d.makeParents path).2 := by
  unfold makeParents
  dsimp only
  split
  · exact .refl d
  · exact grows_makeFolders _ d _

theorem writeAt_of_error {here : Place} {name : String} {file : Node} {o : Obstacle}
    (h : (d.writeAt here name file).1 = .error o) : (d.writeAt here name file).2 = d := by
  unfold writeAt at h ⊢
  cases hstep : d.step here name with
  | error obstacle => cases obstacle <;> simp_all
  | ok there =>
    cases hnode : d.node? there with
    | none => simp_all
    | some node => cases node <;> simp_all

/-- A file that could not be written leaves the disk as it is. -/
theorem write_of_error {path : String} {content : List UInt8} {modified : Int} {o : Obstacle}
    (h : (d.write path content modified).1 = .error o) :
    (d.write path content modified).2 = d := by
  unfold write at h ⊢
  dsimp only at h ⊢
  cases hpath : pathObstacle? path with
  | some obstacle => rfl
  | none =>
    rw [hpath] at h
    dsimp only at h ⊢
    by_cases hslash : Text.endsWith path "/" = true
    · rw [if_pos hslash]
      split <;> rfl
    · rw [if_neg hslash] at h ⊢
      split at h
      · rfl
      · rfl
      · exact writeAt_of_error h

end Composer.Disk
