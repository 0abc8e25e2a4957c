import Composer.Attachment
import Mathlib.Data.List.Nodup
set_option autoImplicit false

/-!
# Merging files

A merge appends the incoming files that are new, in their order: of several with one key the first,
and none whose key is selected already. So a selection holds each key once.
-/

namespace Composer.Selection

/-- The files whose keys were not seen before, neither in `seen` nor earlier in the list. -/
def unseen (seen : List FileKey) : List Attachment → List Attachment
  | [] => []
  | f :: incoming =>
    if f.key ∈ seen then unseen seen incoming else f :: unseen (seen ++ [f.key]) incoming

/-- The incoming files that are new to a selection. -/
def fresh (s : Selection) (incoming : List Attachment) : List Attachment :=
  unseen (s.files.map Attachment.key) incoming

theorem has_iff {s : Selection} {key : FileKey} :
    s.has key = true ↔ key ∈ s.files.map Attachment.key := by
  simp [has]

theorem files_merge (s : Selection) (incoming : List Attachment) :
    (s.merge incoming).files = s.files ++ s.fresh incoming := by
  induction incoming generalizing s with
  | nil => simp [merge, fresh, unseen]
  | cons f incoming ih =>
    have hstep : s.merge (f :: incoming) = (s.add f).merge incoming := rfl
    rw [hstep, ih]
    by_cases hkey : f.key ∈ s.files.map Attachment.key
    · have hadd : s.add f = s := by simp [add, has_iff.mpr hkey]
      rw [hadd, fresh, fresh, unseen, if_pos hkey]
    · have hadd : s.add f = { files := s.files ++ [f] } := by
        simp only [add, if_neg (mt has_iff.mp hkey)]
      rw [hadd, fresh, fresh, unseen, if_neg hkey]
      simp

theorem length_add (s : Selection) (f : Attachment) :
    (s.add f).files.length = s.files.length + if s.has f.key then 0 else 1 := by
  unfold add
  split <;> simp [*]

/-- What a merge counts is how far the selection grows. -/
theorem length_merge (s : Selection) (incoming : List Attachment) :
    (s.merge incoming).files.length = s.files.length + s.added incoming := by
  induction incoming generalizing s with
  | nil => rfl
  | cons f incoming ih =>
    have hstep : s.merge (f :: incoming) = (s.add f).merge incoming := rfl
    rw [hstep, ih, length_add, added, Nat.add_assoc]

theorem added_eq (s : Selection) (incoming : List Attachment) :
    s.added incoming = (s.fresh incoming).length := by
  have hgrown := s.length_merge incoming
  rw [files_merge, List.length_append] at hgrown
  exact (Nat.add_left_cancel hgrown).symm

/-- Files that are all selected are not counted. -/
theorem added_eq_zero {s : Selection} {incoming : List Attachment}
    (h : s.merge incoming = s) : s.added incoming = 0 := by
  have hgrown := s.length_merge incoming
  rw [h] at hgrown
  exact Nat.left_eq_add.mp hgrown

/-- A new file's key was not seen. -/
theorem key_not_mem_of_mem_unseen {seen : List FileKey} {incoming : List Attachment}
    {f : Attachment} (h : f ∈ unseen seen incoming) : f.key ∉ seen := by
  induction incoming generalizing seen with
  | nil => simp [unseen] at h
  | cons g incoming ih =>
    unfold unseen at h
    split at h
    · exact ih h
    · rename_i hg
      rcases List.mem_cons.mp h with rfl | h
      · exact hg
      · exact fun hseen => ih h (List.mem_append_left _ hseen)

theorem nodup_keys_unseen (seen : List FileKey) (incoming : List Attachment) :
    ((unseen seen incoming).map Attachment.key).Nodup := by
  induction incoming generalizing seen with
  | nil => simp [unseen]
  | cons g incoming ih =>
    unfold unseen
    split
    · exact ih seen
    · rw [List.map_cons, List.nodup_cons]
      refine ⟨?_, ih _⟩
      intro hmem
      obtain ⟨f, hf, hkey⟩ := List.mem_map.mp hmem
      have habsent := key_not_mem_of_mem_unseen hf
      rw [hkey] at habsent
      exact habsent (by simp)

/-- Nothing is new among files whose keys were all seen. -/
theorem unseen_eq_nil_iff {seen : List FileKey} {incoming : List Attachment} :
    unseen seen incoming = [] ↔ ∀ f ∈ incoming, f.key ∈ seen := by
  induction incoming with
  | nil => simp [unseen]
  | cons g incoming ih =>
    rw [unseen, List.forall_mem_cons]
    split
    · rename_i hg
      rw [ih, and_iff_right hg]
    · rename_i hg
      exact iff_of_false (by simp) fun h => hg h.1

/-- Files that are all selected change nothing. -/
theorem merge_eq_self_iff {s : Selection} {incoming : List Attachment} :
    s.merge incoming = s ↔ ∀ f ∈ incoming, f.key ∈ s.files.map Attachment.key := by
  rw [← unseen_eq_nil_iff]
  constructor
  · intro hsame
    have hfiles := s.files_merge incoming
    rw [hsame] at hfiles
    exact List.self_eq_append_right.mp hfiles
  · intro hfresh
    have hfiles := s.files_merge incoming
    rw [fresh, hfresh, List.append_nil] at hfiles
    exact congrArg Selection.mk hfiles

/-- No new file is among those that are selected. -/
theorem disjoint_fresh (s : Selection) (incoming : List Attachment) :
    s.files.Disjoint (s.fresh incoming) := by
  intro f hselected hfresh
  exact key_not_mem_of_mem_unseen hfresh (List.mem_map_of_mem hselected)

theorem nodup_fresh (s : Selection) (incoming : List Attachment) : (s.fresh incoming).Nodup :=
  (nodup_keys_unseen _ incoming).of_map Attachment.key

theorem nodup_keys_merge {s : Selection} (h : (s.files.map Attachment.key).Nodup)
    (incoming : List Attachment) : ((s.merge incoming).files.map Attachment.key).Nodup := by
  rw [files_merge, List.map_append, List.nodup_append]
  refine ⟨h, nodup_keys_unseen _ _, ?_⟩
  intro key hselected key' hfresh
  obtain ⟨f, hf, rfl⟩ := List.mem_map.mp hfresh
  rintro rfl
  exact key_not_mem_of_mem_unseen hf hselected

end Composer.Selection
