import Composer.Text.Utf8
set_option autoImplicit false

/-!
# Slices of a text

A slice of a text is taken at a position in bytes. It can be had only where the position is a
boundary: within the text, and not inside the bytes of a character. Positions that come from
counting characters or from a search among them are such boundaries, and the slice is the
characters before or behind.
-/

namespace Composer

/-! ## Sizes -/

namespace Utf8

@[simp] theorem size_append (front back : List Char) :
    size (front ++ back) = size front + size back := by
  induction front with
  | nil => simp [size]
  | cons c front ih =>
    rw [List.cons_append, size, size, ih]
    omega

theorem utf8ByteSize_ofList (cs : List Char) : (String.ofList cs).utf8ByteSize = size cs := by
  induction cs with
  | nil => rfl
  | cons c cs ih =>
    have hcons : String.ofList (c :: cs) = String.singleton c ++ String.ofList cs := by
      apply String.toList_injective
      simp
    rw [hcons, String.utf8ByteSize_append, String.utf8ByteSize_singleton, ih, size]

theorem size_toList (s : String) : size s.toList = s.utf8ByteSize := by
  rw [← utf8ByteSize_ofList, String.ofList_toList]

end Utf8

namespace Sliced

/-! ## Slices -/

/-- Whether a text may be cut at a position in bytes. -/
def IsBoundary (text : String) (position : Nat) : Prop :=
  String.Pos.Raw.IsValid text ⟨position⟩

instance (text : String) (position : Nat) : Decidable (IsBoundary text position) :=
  inferInstanceAs (Decidable (String.Pos.Raw.IsValid text ⟨position⟩))

/-- The part of a text before a position, if the text may be cut there. -/
def upTo? (text : String) (position : Nat) : Option String :=
  if h : IsBoundary text position then some (text.sliceTo (text.pos ⟨position⟩ h)).copy else none

/-- The part of a text from a position on, if the text may be cut there. -/
def from? (text : String) (position : Nat) : Option String :=
  if h : IsBoundary text position then some (text.sliceFrom (text.pos ⟨position⟩ h)).copy else none

variable {text : String} {front back : List Char} {position : Nat}

theorem isBoundary_iff :
    IsBoundary text position ↔
      ∃ front back, text = front ++ back ∧ front.utf8ByteSize = position := by
  rw [IsBoundary, String.Pos.Raw.isValid_iff_exists_append]
  simp only [String.Pos.Raw.ext_iff, String.byteIdx_rawEndPos, eq_comm]

theorem IsBoundary.le (h : IsBoundary text position) : position ≤ text.utf8ByteSize := by
  obtain ⟨front, back, rfl, rfl⟩ := isBoundary_iff.mp h
  rw [String.utf8ByteSize_append]
  omega

/-- A text falls apart into strings where its characters do. -/
theorem eq_append_of_toList (h : text.toList = front ++ back) :
    text = String.ofList front ++ String.ofList back := by
  apply String.toList_injective
  simp [h]

/-- Behind any of its characters a text may be cut. -/
theorem isBoundary_of_toList (h : text.toList = front ++ back) :
    IsBoundary text (Utf8.size front) :=
  isBoundary_iff.mpr ⟨_, _, eq_append_of_toList h, Utf8.utf8ByteSize_ofList front⟩

theorem splits_pos (h : text.toList = front ++ back)
    (hboundary : IsBoundary text (Utf8.size front)) :
    (text.pos ⟨Utf8.size front⟩ hboundary).Splits (String.ofList front) (String.ofList back) where
  eq_append := eq_append_of_toList h
  offset_eq_rawEndPos := by
    apply String.Pos.Raw.ext
    exact (Utf8.utf8ByteSize_ofList front).symm

/-- The slice before a boundary is the characters before it. -/
theorem upTo?_of_toList (h : text.toList = front ++ back) :
    upTo? text (Utf8.size front) = some (String.ofList front) := by
  have hboundary := isBoundary_of_toList h
  rw [upTo?, dif_pos hboundary, (splits_pos h hboundary).copy_sliceTo_eq]

/-- The slice from a boundary on is the characters behind it. -/
theorem from?_of_toList (h : text.toList = front ++ back) :
    from? text (Utf8.size front) = some (String.ofList back) := by
  have hboundary := isBoundary_of_toList h
  rw [from?, dif_pos hboundary, (splits_pos h hboundary).copy_sliceFrom_eq]

/-! ## Positions of characters -/

/-- Characters with their positions in bytes, of which the first is given. -/
def charPositions : (position : Nat) → List Char → List (Nat × Char)
  | _, [] => []
  | position, c :: cs => (position, c) :: charPositions (position + c.utf8Size) cs

theorem charPositions_append (position : Nat) (front back : List Char) :
    charPositions position (front ++ back) =
      charPositions position front ++ charPositions (position + Utf8.size front) back := by
  induction front generalizing position with
  | nil => rfl
  | cons c front ih =>
    rw [List.cons_append, charPositions, charPositions, ih, Utf8.size, Nat.add_assoc,
      List.cons_append]

theorem map_snd_charPositions (position : Nat) (cs : List Char) :
    (charPositions position cs).map Prod.snd = cs := by
  induction cs generalizing position with
  | nil => rfl
  | cons c cs ih => rw [charPositions, List.map_cons, ih]

/-- A character's position is the size of what stands before it. -/
theorem getElem?_charPositions (position : Nat) (cs : List Char) (offset : Nat) :
    (charPositions position cs)[offset]? =
      cs[offset]?.map fun c => (position + Utf8.size (cs.take offset), c) := by
  induction cs generalizing position offset with
  | nil => simp [charPositions]
  | cons c cs ih =>
    cases offset with
    | zero => rfl
    | succ offset =>
      rw [charPositions, List.getElem?_cons_succ, List.getElem?_cons_succ, ih, List.take_succ_cons,
        Utf8.size, Nat.add_assoc]

/-- The position of the character at an offset in characters, or the end of the text. -/
def byteIndex (text : String) (offset : Nat) : Nat :=
  match (charPositions 0 text.toList)[offset]? with
  | some (position, _) => position
  | none => text.utf8ByteSize

theorem byteIndex_eq (text : String) (offset : Nat) :
    byteIndex text offset = Utf8.size (text.toList.take offset) := by
  rw [byteIndex, getElem?_charPositions]
  cases hc : text.toList[offset]? with
  | some c => exact Nat.zero_add _
  | none =>
    rw [List.take_of_length_le (List.getElem?_eq_none_iff.mp hc)]
    exact (Utf8.size_toList text).symm

/-- The slice before the position of an offset has as many characters as the offset counts. -/
theorem upTo?_byteIndex (text : String) (offset : Nat) :
    upTo? text (byteIndex text offset) = some (String.ofList (text.toList.take offset)) := by
  rw [byteIndex_eq]
  exact upTo?_of_toList (List.take_append_drop offset text.toList).symm

theorem from?_byteIndex (text : String) (offset : Nat) :
    from? text (byteIndex text offset) = some (String.ofList (text.toList.drop offset)) := by
  rw [byteIndex_eq]
  exact from?_of_toList (List.take_append_drop offset text.toList).symm

theorem isBoundary_byteIndex (text : String) (offset : Nat) :
    IsBoundary text (byteIndex text offset) := by
  rw [byteIndex_eq]
  exact isBoundary_of_toList (List.take_append_drop offset text.toList).symm

theorem byteIndex_mono (text : String) {offset offset' : Nat} (h : offset ≤ offset') :
    byteIndex text offset ≤ byteIndex text offset' := by
  rw [byteIndex_eq, byteIndex_eq, ← Nat.add_sub_cancel' h, List.take_add, Utf8.size_append]
  exact Nat.le_add_right _ _

/-- The last character of a kind, with its position. -/
def findLast? (p : Char → Bool) (text : String) : Option (Nat × Char) :=
  (charPositions 0 text.toList).reverse.find? fun found => p found.2

variable {p : Char → Bool} {c : Char}

theorem findLast?_of_toList (h : text.toList = front ++ c :: back) (hc : p c = true)
    (hback : ∀ d ∈ back, p d = false) : findLast? p text = some (Utf8.size front, c) := by
  have hnone : (charPositions (Utf8.size front + c.utf8Size) back).reverse.find?
      (fun found => p found.2) = none := by
    rw [List.find?_eq_none]
    intro found hfound
    have hmem : found.2 ∈ back := by
      rw [← map_snd_charPositions (Utf8.size front + c.utf8Size) back]
      exact List.mem_map_of_mem (List.mem_reverse.mp hfound)
    simp [hback _ hmem]
  rw [findLast?, h, charPositions_append, Nat.zero_add, charPositions, List.reverse_append,
    List.reverse_cons, List.append_assoc, List.find?_append, hnone]
  simp [hc]

theorem findLast?_eq_none (h : ∀ d ∈ text.toList, p d = false) : findLast? p text = none := by
  rw [findLast?, List.find?_eq_none]
  intro found hfound
  have hmem : found.2 ∈ text.toList := by
    rw [← map_snd_charPositions 0 text.toList]
    exact List.mem_map_of_mem (List.mem_reverse.mp hfound)
  simp [h _ hmem]

end Sliced
end Composer
