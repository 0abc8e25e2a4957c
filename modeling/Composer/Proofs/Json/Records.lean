import Composer.Proofs.Json.Preservation
set_option autoImplicit false

/-!
# Objects and records

The members of an object that was read stand in the order of their keys, and each key stands there
once. A record is decoded from an object if every member with a field's key decodes and no required
field is missing, and from a list if the items fill its fields and none is left.
-/

namespace Composer.Json

/-! ## Keys -/

/-- Members in the order of their keys, each key once. -/
def Ascending (members : List (String × Json)) : Prop := members.Pairwise fun m n => m.1 < n.1

variable {members : List (String × Json)}

theorem Ascending.insertMember (h : Ascending members) (key : String) (v : Json) :
    Ascending (insertMember key v members) := by
  induction members with
  | nil => exact List.pairwise_singleton _ _
  | cons m members ih =>
    obtain ⟨hfirst, hothers⟩ := List.pairwise_cons.mp h
    rw [Json.insertMember]
    split
    next hbefore =>
      refine List.pairwise_cons.mpr ⟨List.forall_mem_cons.mpr ⟨hbefore, ?_⟩, h⟩
      exact fun n hn => String.lt_trans hbefore (hfirst n hn)
    next hnot =>
      split
      next hsame =>
        refine List.pairwise_cons.mpr ⟨fun n hn => ?_, hothers⟩
        rw [hsame]
        exact hfirst n hn
      next hother =>
        have hbehind : m.1 < key := Std.lt_of_le_of_ne (String.not_lt.mp hnot) (Ne.symm hother)
        exact List.pairwise_cons.mpr ⟨forall_insertMember hbehind hfirst, ih hothers⟩

theorem ascending_ofMembers {written : List (String × Json)}
    (h : ofMembers written = .object members) : Ascending members := by
  obtain rfl := object.inj h
  have hfold : ∀ placed : List (String × Json), Ascending placed →
      Ascending (written.foldl (fun sorted m => Json.insertMember m.1 m.2 sorted) placed) := by
    clear h
    induction written with
    | nil => exact fun _ hplaced => hplaced
    | cons m written ih => exact fun placed hplaced => ih _ (hplaced.insertMember m.1 m.2)
  exact hfold [] List.Pairwise.nil

/-- Only what stands between braces is read as an object. -/
theorem ascending_of_value {depth : Nat} {cs rest : List Char}
    (h : value depth cs = .ok (.object members, rest)) : Ascending members := by
  unfold value at h
  split at h
  · cases h
  · obtain ⟨a, -, h⟩ := map_eq_ok_iff.mp h
    cases h
  · obtain ⟨a, -, h⟩ := map_eq_ok_iff.mp h
    cases h
  · obtain ⟨a, -, h⟩ := map_eq_ok_iff.mp h
    cases h
  · simp only [bind_eq_ok_iff, Prod.exists] at h
    obtain ⟨x, behind, -, h⟩ := h
    cases h
  · simp only [bind_eq_ok_iff, Prod.exists] at h
    obtain ⟨s, behind, -, h⟩ := h
    cases h
  · split at h
    · cases h
    · simp only [bind_eq_ok_iff, Prod.exists] at h
      obtain ⟨items, behind, -, h⟩ := h
      cases h
  · split at h
    · cases h
    · simp only [bind_eq_ok_iff, Prod.exists] at h
      obtain ⟨written, behind, -, h⟩ := h
      exact ascending_ofMembers (Prod.mk.inj (Except.ok.inj h)).1
  · split at h
    · simp only [bind_eq_ok_iff, Prod.exists] at h
      obtain ⟨x, behind, -, h⟩ := h
      cases h
    · cases h

/-- The members of an object that was read are in order. -/
theorem ascending_of_parse {s : String} (h : parse s = .ok (.object members)) :
    Ascending members := by
  obtain ⟨rest, hvalue⟩ := value_of_parse h
  exact ascending_of_value hvalue

theorem Ascending.nodup_keys (h : Ascending members) : (members.map Prod.fst).Nodup := by
  refine List.Pairwise.map Prod.fst (fun m n hlt heq => ?_) h
  rw [heq] at hlt
  exact String.lt_irrefl _ hlt

/-! ## Records -/

theorem asText_eq_ok_iff {v : Json} {s : String} : asText v = .ok s ↔ v = .string s := by
  cases v with
  | string t => simp [asText]
  | null => simp [asText]
  | bool b => simp [asText]
  | number n => simp [asText]
  | array items => simp [asText]
  | object members => simp [asText]

/-- A text that may be missing is there as a text or as nothing. -/
theorem asOptional_asText_eq_ok_iff {v : Json} {s : Option String} :
    asOptional asText v = .ok s ↔ v = optional s := by
  cases v with
  | null => cases s <;> simp [asOptional, optional]
  | string t => cases s <;> simp [asOptional, asText, optional, Except.map]
  | bool b => cases s <;> simp [asOptional, asText, optional, Except.map]
  | number n => cases s <;> simp [asOptional, asText, optional, Except.map]
  | array items => cases s <;> simp [asOptional, asText, optional, Except.map]
  | object members => cases s <;> simp [asOptional, asText, optional, Except.map]

theorem null_eq_optional_iff {s : Option String} : null = optional s ↔ s = none := by
  cases s <;> simp [optional]

namespace Record

variable {σ : Type} {r : Record σ} {s : σ}

/-- Puts a member into the field with its key, if there is one. -/
def take (r : Record σ) (s : σ) (m : String × Json) : Decoded σ :=
  (r.fields.find? fun f => f.name == m.1).elim (.ok s) fun f => f.put m.2 s

theorem putMembers_eq (members : List (String × Json)) :
    r.putMembers members = members.foldlM r.take r.start := by
  unfold putMembers
  congr 1
  funext s ⟨key, v⟩
  simp only [take]
  cases r.fields.find? fun f => f.name == key <;> rfl

/-- An object is decoded if its members can be put and no required field is missing. -/
theorem ofMembers_eq_ok_iff {members : List (String × Json)} :
    r.ofMembers members = .ok s ↔ r.putMembers members = .ok s ∧
      ∀ f ∈ r.fields, f.presence = .required → ∃ m ∈ members, m.1 = f.name := by
  have hmissing : (r.fields.find? fun f =>
        f.presence == .required && !(members.any fun m => m.1 == f.name)) = none ↔
      ∀ f ∈ r.fields, f.presence = .required → ∃ m ∈ members, m.1 = f.name := by
    simp [List.find?_eq_none]
  simp only [ofMembers, bind_eq_ok_iff, ← hmissing]
  constructor
  · rintro ⟨taken, hput, hchecked⟩
    split at hchecked
    next => cases hchecked
    next hnone =>
      cases hchecked
      exact ⟨hput, hnone⟩
  · rintro ⟨hput, hnone⟩
    exact ⟨s, hput, by rw [hnone]; rfl⟩

/-- A list is decoded if its items can be put and none is left. -/
theorem ofItems_eq_ok_iff {surplus : String} {items : List Json} :
    r.ofItems surplus items = .ok s ↔ r.putItems r.fields items 0 r.start = .ok (s, []) := by
  simp only [ofItems, bind_eq_ok_iff, Prod.exists]
  constructor
  · rintro ⟨taken, rest, hput, hchecked⟩
    split at hchecked
    next hempty =>
      cases hchecked
      rwa [List.isEmpty_iff.mp hempty] at hput
    next => cases hchecked
  · exact fun hput => ⟨s, [], hput, rfl⟩

end Record

end Composer.Json
