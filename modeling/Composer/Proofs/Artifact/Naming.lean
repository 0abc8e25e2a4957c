import Composer.Artifact
import Composer.Proofs.Text.Trimming
set_option autoImplicit false

/-!
# Names of stored pastes

A pasted text is stored under its title, with the extension of its MIME type. The extension is added
once only: a name that has it is its own title, so the upload with the name for a title is the same.
-/

namespace Composer

namespace Text

theorem startsWith_iff {s start : String} :
    startsWith s start = true ↔ ∃ rest, s = start ++ rest := by
  rw [startsWith, List.isPrefixOf_iff_prefix]
  constructor
  · rintro ⟨rest, h⟩
    exact ⟨String.ofList rest, String.toList_injective (by simp [h])⟩
  · rintro ⟨rest, rfl⟩
    exact ⟨rest.toList, by simp⟩

theorem endsWith_iff {s tail : String} : endsWith s tail = true ↔ ∃ front, s = front ++ tail := by
  rw [endsWith, List.isSuffixOf_iff_suffix]
  constructor
  · rintro ⟨front, h⟩
    exact ⟨String.ofList front, String.toList_injective (by simp [h])⟩
  · rintro ⟨front, rfl⟩
    exact ⟨front.toList, by simp⟩

end Text

namespace ArtifactUpload

/-! ## Extensions -/

/-- An extension has characters and no white space. -/
theorem isWord_extensionOf (mime : String) : Chars.IsWord (extensionOf mime).toList := by
  -- in Booleans, to be evaluated entry by entry and not over all characters
  have hword : ∀ cs : List Char,
      (!cs.isEmpty && !cs.any Chars.isSpace) = true → Chars.IsWord cs := by
    intro cs h
    simpa [Chars.IsWord, List.isEmpty_eq_false_iff] using h
  have hall : (extensions.all fun entry =>
      !entry.2.toList.isEmpty && !entry.2.toList.any Chars.isSpace) = true := by decide
  have hplain : Chars.IsWord "txt".toList := hword _ (by decide)
  unfold extensionOf
  cases hlookup : extensions.lookup mime with
  | none => exact hplain
  | some extension =>
    obtain ⟨before, after, hentries, -⟩ := List.lookup_eq_some_iff.mp hlookup
    exact hword _ (List.all_eq_true.mp hall (mime, extension) (by simp [hentries]))

/-! ## Titles -/

/-- What a name begins with. -/
def stemOf (title : String) : String :=
  if Text.isBlank title then "pasted-text" else Text.trim title

theorem nameFor_eq (title extension : String) :
    nameFor title extension =
      if Text.endsWith (stemOf title) ("." ++ extension) then stemOf title
      else stemOf title ++ "." ++ extension := rfl

theorem isTrimmed_stemOf (title : String) : Chars.IsTrimmed (stemOf title).toList := by
  unfold stemOf
  split
  · unfold Chars.IsTrimmed
    decide
  · rw [Text.toList_trim]
    exact Chars.isTrimmed_trim title.toList

/-- A text that is trimmed and not empty is its own stem. -/
theorem stemOf_of_isTrimmed {s : String} (h : Chars.IsTrimmed s.toList) (hne : s.toList ≠ []) :
    stemOf s = s := by
  have htrim : Text.trim s = s := by rw [Text.trim, h, String.ofList_toList]
  have hblank : Text.isBlank s = false := by
    have hleft : Chars.trim s.toList ≠ [] := by rwa [h]
    have hboth := Chars.isBlank_trim hleft
    rwa [h] at hboth
  rw [stemOf, hblank, htrim]
  rfl

theorem stemOf_ne_nil (title : String) : (stemOf title).toList ≠ [] := by
  unfold stemOf
  split
  · decide
  · rename_i hblank
    rw [Text.toList_trim]
    exact mt Chars.trim_eq_nil_iff.mp hblank

/-! ## Names -/

theorem startsWith_nameFor (title extension : String) :
    Text.startsWith (nameFor title extension) (stemOf title) = true := by
  rw [Text.startsWith_iff, nameFor_eq]
  split
  · exact ⟨"", by simp⟩
  · exact ⟨"." ++ extension, String.append_assoc⟩

theorem endsWith_nameFor (title extension : String) :
    Text.endsWith (nameFor title extension) ("." ++ extension) = true := by
  rw [nameFor_eq]
  split
  · assumption
  · exact Text.endsWith_iff.mpr ⟨stemOf title, String.append_assoc⟩

theorem isTrimmed_nameFor (title : String) {extension : String}
    (hword : Chars.IsWord extension.toList) :
    Chars.IsTrimmed (nameFor title extension).toList := by
  have hstem := isTrimmed_stemOf title
  rw [nameFor_eq]
  split
  · exact hstem
  · rw [String.toList_append, String.toList_append]
    exact hstem.append hword.isTrimmed (stemOf_ne_nil title) hword.1 _

theorem nameFor_ne_nil (title extension : String) : (nameFor title extension).toList ≠ [] := by
  obtain ⟨rest, hname⟩ := Text.startsWith_iff.mp (startsWith_nameFor title extension)
  rw [hname, String.toList_append]
  exact List.append_ne_nil_of_left_ne_nil (stemOf_ne_nil title) _

/-- A name is its own title. -/
theorem nameFor_nameFor (title : String) {extension : String}
    (hword : Chars.IsWord extension.toList) :
    nameFor (nameFor title extension) extension = nameFor title extension := by
  have hstem : stemOf (nameFor title extension) = nameFor title extension :=
    stemOf_of_isTrimmed (isTrimmed_nameFor title hword) (nameFor_ne_nil title extension)
  rw [nameFor_eq (nameFor title extension), hstem, if_pos (endsWith_nameFor title extension)]

end ArtifactUpload
end Composer
