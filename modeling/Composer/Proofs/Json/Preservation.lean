import Composer.Json.Decode
import Composer.Json.Reader
import Composer.Proofs.Text.Reading
import Mathlib.Logic.Basic
set_option autoImplicit false

/-!
# What reading and decoding preserve

The integers of a value that is read have at most 64 bits. What a record is decoded to from such a
value satisfies everything that its fields preserve.
-/

namespace Composer.Json

/-- A value whose integers have at most 64 bits. -/
inductive Proper : Json → Prop where
  | null : Proper .null
  | bool (b : Bool) : Proper (.bool b)
  | natural {n : Nat} (h : n ≤ Numeral.maxUnsigned) : Proper (.number (.natural n))
  | negative {n : Nat} (hpos : n ≠ 0) (h : n ≤ Numeral.maxSigned + 1) :
      Proper (.number (.negative n))
  | float (minus : Bool) (x : Binary64) : Proper (.number (.float minus x))
  | string (s : String) : Proper (.string s)
  | array {items : List Json} (h : ∀ v ∈ items, Proper v) : Proper (.array items)
  | object {members : List (String × Json)} (h : ∀ m ∈ members, Proper m.2) :
      Proper (.object members)

/-! ## Reading -/

section Numbers

variable {minus : Bool} {n : Nat} {start : Int} {cs rest : List Char} {x : Number}

theorem wordDigits_le {count : Nat} (h : n ≤ Numeral.maxUnsigned) :
    (wordDigits n count cs).1 ≤ Numeral.maxUnsigned := by
  induction cs generalizing n count with
  | nil => exact h
  | cons c cs ih =>
    rw [wordDigits]
    split
    next hnext =>
      simp only [Bool.and_eq_true, decide_eq_true_eq] at hnext
      exact ih hnext.2
    next => exact h

theorem proper_floatOf (h : floatOf minus n start cs = .ok (x, rest)) : Proper (.number x) := by
  unfold floatOf at h
  split at h
  next y _ =>
    cases h
    exact .float minus y
  next => cases h

theorem proper_exponentPart (h : exponentPart minus n start cs = .ok (x, rest)) :
    Proper (.number x) := by
  unfold exponentPart at h
  dsimp only at h
  split at h
  · cases h
  · split at h
    · cases h
    · split at h
      · obtain ⟨-, h⟩ | ⟨-, h⟩ := ite_eq_iff.mp h
        · cases h
        · cases h
          exact .float minus _
      · exact proper_floatOf h

theorem proper_fractionPart (h : fractionPart minus n start cs = .ok (x, rest)) :
    Proper (.number x) := by
  unfold fractionPart at h
  dsimp only at h
  split at h
  · split at h <;> cases h
  · split at h
    · exact proper_exponentPart h
    · exact proper_exponentPart h
    · exact proper_floatOf h

/-- Only numbers without fraction and exponent are integers, and these are kept within bounds. -/
theorem proper_afterDigits (hn : n ≤ Numeral.maxUnsigned)
    (h : afterDigits minus n cs = .ok (x, rest)) : Proper (.number x) := by
  unfold afterDigits at h
  dsimp only at h
  split at h
  · exact proper_fractionPart h
  · exact proper_exponentPart h
  · exact proper_exponentPart h
  · split at h
    · exact proper_floatOf h
    · split at h
      · cases h
        exact .natural hn
      · split at h
        · exact proper_floatOf h
        next hfits =>
          cases h
          rw [not_or, Nat.not_lt] at hfits
          exact .negative hfits.1 hfits.2

theorem proper_numeral (h : numeral minus cs = .ok (x, rest)) : Proper (.number x) := by
  unfold numeral at h
  split at h
  · cases h
  · split at h
    · cases h
    · exact proper_afterDigits (Nat.zero_le _) h
  next c cs _ =>
    split at h
    next hdigit =>
      have hvalue := Numeral.digitValue_le hdigit
      have hword : (9 : Nat) ≤ Numeral.maxUnsigned := by decide
      exact proper_afterDigits (wordDigits_le (Nat.le_trans hvalue hword)) h
    · cases h

end Numbers

section Lists

variable {α : Type} {p : α → Prop} {item : List Char → Read (α × List Char)}

/-- Every item that is read satisfies what each reading gives. -/
theorem forall_of_itemsWithin (hitem : ∀ {cs x rest}, item cs = .ok (x, rest) → p x) {n : Nat}
    {first : Bool} {cs rest : List Char} {xs : List α}
    (h : itemsWithin item n first cs = .ok (xs, rest)) : ∀ x ∈ xs, p x := by
  induction n generalizing first cs rest xs with
  | zero => cases h
  | succ n ih =>
    have hnext : ∀ {cs}, (item cs >>= fun r => itemsWithin item n false r.2 >>= fun s =>
        pure (r.1 :: s.1, s.2)) = .ok (xs, rest) → ∀ x ∈ xs, p x := by
      intro cs h
      simp only [bind_eq_ok_iff, Prod.exists] at h
      obtain ⟨x, behind, hfirst, others, after, hothers, h⟩ := h
      cases h
      exact List.forall_mem_cons.mpr ⟨hitem hfirst, ih hothers⟩
    rw [itemsWithin] at h
    split at h
    · cases h
    · cases h
      exact fun x hx => nomatch hx
    · split at h
      · exact hnext h
      · split at h
        · cases h
        · split at h
          · cases h
          · cases h
          · exact hnext h

theorem forall_of_membersWithin (hitem : ∀ {cs x rest}, item cs = .ok (x, rest) → p x) {n : Nat}
    {first : Bool} {cs rest : List Char} {ms : List (String × α)}
    (h : membersWithin item n first cs = .ok (ms, rest)) : ∀ m ∈ ms, p m.2 := by
  induction n generalizing first cs rest ms with
  | zero => cases h
  | succ n ih =>
    have hnext : ∀ {cs}, (stringBody cs >>= fun k => colon k.2 >>= fun cs => item cs >>= fun r =>
        membersWithin item n false r.2 >>= fun s => pure ((k.1, r.1) :: s.1, s.2)) =
          .ok (ms, rest) → ∀ m ∈ ms, p m.2 := by
      intro cs h
      simp only [bind_eq_ok_iff, Prod.exists] at h
      obtain ⟨key, behind, -, start, -, x, after, hfirst, others, last, hothers, h⟩ := h
      cases h
      exact List.forall_mem_cons.mpr ⟨hitem hfirst, ih hothers⟩
    rw [membersWithin] at h
    split at h
    · cases h
    · cases h
      exact fun m hm => nomatch hm
    · split at h
      · split at h
        · exact hnext h
        · cases h
      · split at h
        · cases h
        · split at h
          · cases h
          · exact hnext h
          · cases h
          · cases h

end Lists

/-- What holds of the new member and of all that are there holds of all members afterwards. -/
theorem forall_insertMember {p : String × Json → Prop} {key : String} {v : Json}
    {members : List (String × Json)} (hnew : p (key, v)) (h : ∀ m ∈ members, p m) :
    ∀ m ∈ insertMember key v members, p m := by
  induction members with
  | nil => exact List.forall_mem_singleton.mpr hnew
  | cons m members ih =>
    obtain ⟨hm, hothers⟩ := List.forall_mem_cons.mp h
    rw [insertMember]
    split
    · exact List.forall_mem_cons.mpr ⟨hnew, h⟩
    split
    · exact List.forall_mem_cons.mpr ⟨hnew, hothers⟩
    · exact List.forall_mem_cons.mpr ⟨hm, ih hothers⟩

theorem proper_ofMembers {members : List (String × Json)} (h : ∀ m ∈ members, m.2.Proper) :
    (ofMembers members).Proper := by
  have hfold : ∀ placed : List (String × Json), (∀ m ∈ placed, m.2.Proper) →
      ∀ m ∈ members.foldl (fun sorted m => insertMember m.1 m.2 sorted) placed, m.2.Proper := by
    induction members with
    | nil => exact fun _ hplaced => hplaced
    | cons m members ih =>
      intro placed hplaced
      obtain ⟨hm, hothers⟩ := List.forall_mem_cons.mp h
      exact ih hothers _ (forall_insertMember hm hplaced)
  exact .object (hfold [] fun m hm => nomatch hm)

theorem proper_value {depth : Nat} {cs rest : List Char} {v : Json}
    (h : value depth cs = .ok (v, rest)) : v.Proper := by
  induction depth using Nat.strongRecOn generalizing cs rest v with
  | ind depth ih =>
    unfold value at h
    split at h
    · cases h
    · obtain ⟨a, -, h⟩ := map_eq_ok_iff.mp h
      cases h
      exact .null
    · obtain ⟨a, -, h⟩ := map_eq_ok_iff.mp h
      cases h
      exact .bool true
    · obtain ⟨a, -, h⟩ := map_eq_ok_iff.mp h
      cases h
      exact .bool false
    · simp only [bind_eq_ok_iff, Prod.exists] at h
      obtain ⟨x, behind, hread, h⟩ := h
      cases h
      exact proper_numeral hread
    · simp only [bind_eq_ok_iff, Prod.exists] at h
      obtain ⟨s, behind, hread, h⟩ := h
      cases h
      exact .string s
    · split at h
      · cases h
      next inner =>
        simp only [bind_eq_ok_iff, Prod.exists] at h
        obtain ⟨items, behind, hread, h⟩ := h
        cases h
        exact .array (forall_of_itemsWithin (ih inner (Nat.lt_succ_self inner)) hread)
    · split at h
      · cases h
      next inner =>
        simp only [bind_eq_ok_iff, Prod.exists] at h
        obtain ⟨members, behind, hread, h⟩ := h
        cases h
        exact proper_ofMembers
          (forall_of_membersWithin (ih inner (Nat.lt_succ_self inner)) hread)
    · split at h
      · simp only [bind_eq_ok_iff, Prod.exists] at h
        obtain ⟨x, behind, hread, h⟩ := h
        cases h
        exact proper_numeral hread
      · cases h

/-- The value of a text is read from its start. -/
theorem value_of_parse {s : String} {v : Json} (h : parse s = .ok v) :
    ∃ rest, value maxDepth s.toList = .ok (v, rest) := by
  rw [parse] at h
  split at h
  next v hread =>
    cases h
    simp only [readChars, bind_eq_ok_iff, Prod.exists] at hread
    obtain ⟨v, rest, hvalue, _, -, hread⟩ := hread
    cases hread
    exact ⟨rest, hvalue⟩
  next => cases h

/-- The value of a text is proper. -/
theorem proper_of_parse {s : String} {v : Json} (h : parse s = .ok v) : v.Proper := by
  obtain ⟨rest, hvalue⟩ := value_of_parse h
  exact proper_value hvalue

/-! ## Decoding -/

theorem le_of_asCount {v : Json} {n : Nat} (hv : v.Proper) (h : asCount v = .ok n) :
    n ≤ Numeral.maxUnsigned := by
  cases hv with
  | natural hn =>
    cases h
    exact hn
  | _ => cases h

section Preservation

variable {σ : Type} {r : Record σ} {p : σ → Prop}

/-- What every field preserves when it takes a proper value. -/
def Preserved (fields : List (Field σ)) (p : σ → Prop) : Prop :=
  ∀ f ∈ fields, ∀ v s s', v.Proper → p s → f.put v s = .ok s' → p s'

theorem preserved_nil : Preserved [] p := fun _ hf => nomatch hf

/-- A field preserves what holds of the record whenever the field's value is put into it. -/
theorem Preserved.cons {α : Type} {name : String} {presence : Presence} {decode : Json → Decoded α}
    {set : α → σ → σ} {fields : List (Field σ)}
    (hset : ∀ v a s, v.Proper → decode v = .ok a → p s → p (set a s)) (h : Preserved fields p) :
    Preserved (Field.of name presence decode set :: fields) p := by
  refine List.forall_mem_cons.mpr ⟨?_, h⟩
  intro v s s' hv hs hput
  obtain ⟨a, hdecode, rfl⟩ := map_eq_ok_iff.mp hput
  exact hset v a s hv hdecode hs

theorem of_putMembers (hfields : Preserved r.fields p) (members : List (String × Json))
    (hproper : ∀ m ∈ members, m.2.Proper) {s s' : σ} (hs : p s)
    (h : members.foldlM (fun s (key, v) =>
      match r.fields.find? fun f => f.name == key with
      | some f => f.put v s
      | none => .ok s) s = Except.ok (ε := Misfit) s') : p s' := by
  induction members generalizing s with
  | nil =>
    cases h
    exact hs
  | cons m members ih =>
    obtain ⟨hm, hothers⟩ := List.forall_mem_cons.mp hproper
    rw [List.foldlM_cons] at h
    obtain ⟨next, hput, h⟩ := bind_eq_ok_iff.mp h
    refine ih hothers ?_ h
    dsimp only at hput
    split at hput
    next f hf => exact hfields f (List.mem_of_find?_eq_some hf) m.2 s next hm hs hput
    next =>
      cases hput
      exact hs

theorem of_putItems (fields : List (Field σ)) (hfields : Preserved fields p) (items : List Json)
    (hproper : ∀ v ∈ items, v.Proper) (read : Nat) {s s' : σ} {rest : List Json} (hs : p s)
    (h : r.putItems fields items read s = .ok (s', rest)) : p s' := by
  induction fields generalizing items read s with
  | nil =>
    cases h
    exact hs
  | cons f fields ih =>
    obtain ⟨hf, hothers⟩ := List.forall_mem_cons.mp hfields
    cases items with
    | nil =>
      rw [Record.putItems] at h
      split at h
      · exact ih hothers [] hproper read hs h
      · cases h
    | cons v items =>
      obtain ⟨hv, hlater⟩ := List.forall_mem_cons.mp hproper
      rw [Record.putItems] at h
      obtain ⟨next, hput, h⟩ := bind_eq_ok_iff.mp h
      exact ih hothers items hlater (read + 1) (hf v s next hv hs hput) h

/-- A record that is decoded satisfies what its fields preserve. -/
theorem of_decode (hstart : p r.start) (hfields : Preserved r.fields p) {v : Json}
    (hv : v.Proper) {s : σ} (h : r.decode v = .ok s) : p s := by
  cases hv with
  | @object members hmembers =>
    rw [Record.decode, Record.ofMembers] at h
    obtain ⟨whole, hput, h⟩ := bind_eq_ok_iff.mp h
    dsimp only at h
    split at h
    · cases h
    · cases h
      exact of_putMembers hfields members hmembers hstart hput
  | @array items hitems =>
    rw [Record.decode, Record.ofItems] at h
    obtain ⟨whole, hput, h⟩ := bind_eq_ok_iff.mp h
    dsimp only at h
    split at h
    · cases h
      exact of_putItems r.fields hfields items hitems 0 hstart hput
    · cases h
  | _ => cases h

end Preservation

end Composer.Json
