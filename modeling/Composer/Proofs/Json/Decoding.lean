import Composer.Json.Decode
import Composer.Proofs.Json.Values
set_option autoImplicit false

/-!
# Decoding what was written

Each decoder gives back the value whose JSON form it is given, whatever the order of the members.
-/

namespace Composer.Json

/-! ## Evaluation -/

section Evaluation

variable {α β : Type}

@[simp] theorem ok_bind (a : α) (f : α → Decoded β) : (Except.ok a >>= f) = f a := rfl

@[simp] theorem ok_map (a : α) (f : α → β) :
    Except.map f (Except.ok a : Decoded α) = .ok (f a) := rfl

@[simp] theorem pure_eq (a : α) : (pure a : Decoded α) = .ok a := rfl

end Evaluation

attribute [simp] ofMembers Field.of Record.putMembers Record.ofMembers Record.decode

/-! ## Order -/

section Order

variable {key k : String}

@[simp] theorem insertMember_nil (key : String) (v : Json) :
    insertMember key v [] = [(key, v)] := rfl

/-- A member stands before those with later keys. -/
@[simp] theorem insertMember_before (h : key < k) (v w : Json) (rest : List (String × Json)) :
    insertMember key v ((k, w) :: rest) = (key, v) :: (k, w) :: rest := by
  rw [insertMember, if_pos h]

/-- A member stands behind those with earlier keys. -/
@[simp] theorem insertMember_behind (hlt : ¬ key < k) (hne : key ≠ k) (v w : Json)
    (rest : List (String × Json)) :
    insertMember key v ((k, w) :: rest) = (k, w) :: insertMember key v rest := by
  rw [insertMember, if_neg hlt, if_neg hne]

end Order

@[simp] theorem sorted_string (s : String) : sorted (.string s) = .string s := rfl

@[simp] theorem sorted_bool (b : Bool) : sorted (.bool b) = .bool b := rfl

@[simp] theorem sorted_nat (n : Nat) : sorted (nat n) = nat n := rfl

@[simp] theorem sorted_int (n : Int) : sorted (int n) = int n := rfl

@[simp] theorem sorted_optional (s : Option String) : sorted (optional s) = optional s := by
  cases s <;> rfl

@[simp] theorem sorted_array (items : List Json) :
    sorted (.array items) = .array (items.map sorted) := by
  rw [sorted, sortedItems_eq]

@[simp] theorem sorted_object (members : List (String × Json)) :
    sorted (.object members) = ofMembers (members.map fun m => (m.1, sorted m.2)) := by
  rw [sorted, sortedMembers_eq]

/-! ## Simple values -/

@[simp] theorem asText_string (s : String) : asText (.string s) = .ok s := rfl

@[simp] theorem asBool_bool (b : Bool) : asBool (.bool b) = .ok b := rfl

@[simp] theorem asCount_nat (n : Nat) : asCount (nat n) = .ok n := rfl

@[simp] theorem asUnsigned_nat (n : UInt64) : asUnsigned (nat n.toNat) = .ok n := by
  rw [asUnsigned, nat, asNatural]
  exact congrArg Except.ok n.ofNat_toNat

@[simp] theorem asSigned_int (n : Int64) : asSigned (int n.toInt) = .ok n := by
  have hlt : n.toInt < 9223372036854775808 := n.toInt_lt
  by_cases hneg : n.toInt < 0
  · have habs : -(n.toInt.natAbs : Int) = n.toInt := by omega
    rw [int, if_pos hneg, asSigned, habs, Int64.ofInt_toInt]
  · have habs : (n.toInt.natAbs : Int) = n.toInt := by omega
    have hsize : n.toInt.natAbs ≤ Numeral.maxSigned := by
      rw [Numeral.maxSigned]
      omega
    have hof : Int64.ofNat n.toInt.natAbs = n := by
      rw [← Int64.ofInt_eq_ofNat, habs, Int64.ofInt_toInt]
    rw [int, if_neg hneg, asSigned, if_pos hsize, hof]

@[simp] theorem asOptional_optional (s : Option String) :
    asOptional asText (optional s) = .ok s := by
  cases s <;> rfl

@[simp] theorem asOptional_string (s : String) :
    asOptional asText (.string s) = .ok (some s) := rfl

/-- A list is decoded if each of its items is. -/
theorem asList_map {α : Type} {decode : Json → Decoded α} {form : α → Json}
    (h : ∀ x, decode (form x) = .ok x) (xs : List α) :
    asList decode (.array (xs.map form)) = .ok xs := by
  rw [asList]
  induction xs with
  | nil => rfl
  | cons x xs ih =>
    rw [List.map_cons, List.mapM_cons, h, ih]
    rfl

/-! ## Values that fit -/

@[simp] theorem fits_string (depth : Nat) (s : String) : Fits depth (.string s) := .string s

@[simp] theorem fits_bool (depth : Nat) (b : Bool) : Fits depth (.bool b) := .bool b

@[simp] theorem fits_optional (depth : Nat) (s : Option String) : Fits depth (optional s) := by
  cases s with
  | none => exact .null
  | some s => exact .string s

@[simp] theorem fits_nat_iff (depth n : Nat) : Fits depth (nat n) ↔ n ≤ Numeral.maxUnsigned := by
  constructor
  · intro h
    cases h with
    | natural h => exact h
  · exact .natural

@[simp] theorem toNat_le_maxUnsigned (n : UInt64) : n.toNat ≤ Numeral.maxUnsigned :=
  Nat.le_of_lt_succ n.toNat_lt

@[simp] theorem fits_signed (depth : Nat) (n : Int64) : Fits depth (int n.toInt) := by
  have hlow : -9223372036854775808 ≤ n.toInt := n.le_toInt
  have hhigh : n.toInt < 9223372036854775808 := n.toInt_lt
  rw [int]
  split
  · refine .negative (by omega) ?_
    rw [Numeral.maxSigned]
    omega
  · refine .natural ?_
    rw [Numeral.maxUnsigned]
    omega

@[simp] theorem fits_array_iff (depth : Nat) (items : List Json) :
    Fits (depth + 1) (.array items) ↔ ∀ v ∈ items, Fits depth v := by
  constructor
  · intro h
    cases h with
    | array h => exact h
  · exact .array

@[simp] theorem fits_object_iff (depth : Nat) (members : List (String × Json)) :
    Fits (depth + 1) (.object members) ↔ ∀ m ∈ members, Fits depth m.2 := by
  constructor
  · intro h
    cases h with
    | object h => exact h
  · exact .object

end Composer.Json
