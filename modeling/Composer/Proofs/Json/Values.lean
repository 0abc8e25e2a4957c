import Composer.Proofs.Json.Scalars
set_option autoImplicit false

/-!
# Values are read as they were written

A value without floating-point numbers whose numbers fit, and which is not nested too deep, is read
back from its compact text. Reading puts the members of an object in order, so what is read is the
value with all its members in order.
-/

namespace Composer.Json

/-! ## Values that can be read back -/

mutual

/-- The value with the members of all its objects in order. -/
def sorted : Json → Json
  | .null => .null
  | .bool b => .bool b
  | .number n => .number n
  | .string s => .string s
  | .array items => .array (sortedItems items)
  | .object members => ofMembers (sortedMembers members)

/-- The items of an array, each of them sorted. -/
def sortedItems : List Json → List Json
  | [] => []
  | v :: rest => sorted v :: sortedItems rest

/-- The members of an object as they were written, the value of each sorted. -/
def sortedMembers : List (String × Json) → List (String × Json)
  | [] => []
  | (k, v) :: rest => (k, sorted v) :: sortedMembers rest

end

/-- A value that is read back: its numbers are integers of 64 bits, and it is nested at most so
deep. -/
inductive Fits : (depth : Nat) → Json → Prop where
  | null {depth : Nat} : Fits depth .null
  | bool {depth : Nat} (b : Bool) : Fits depth (.bool b)
  | natural {depth n : Nat} (h : n ≤ Numeral.maxUnsigned) : Fits depth (.number (.natural n))
  | negative {depth n : Nat} (hpos : n ≠ 0) (h : n ≤ Numeral.maxSigned + 1) :
      Fits depth (.number (.negative n))
  | string {depth : Nat} (s : String) : Fits depth (.string s)
  | array {depth : Nat} {items : List Json} (h : ∀ v ∈ items, Fits depth v) :
      Fits (depth + 1) (.array items)
  | object {depth : Nat} {members : List (String × Json)} (h : ∀ m ∈ members, Fits depth m.2) :
      Fits (depth + 1) (.object members)

theorem itemTexts_eq (items : List Json) : itemTexts items = items.map text := by
  induction items with
  | nil => rfl
  | cons v items ih => rw [itemTexts, ih, List.map_cons]

theorem sortedItems_eq (items : List Json) : sortedItems items = items.map sorted := by
  induction items with
  | nil => rfl
  | cons v items ih => rw [sortedItems, ih, List.map_cons]

/-- The text of a member whose value is written in some way. -/
def memberOf {β : Type} (written : β → List Char) (m : String × β) : List Char :=
  quote m.1.toList ++ ':' :: written m.2

theorem memberTexts_eq (members : List (String × Json)) :
    memberTexts members = members.map (memberOf text) := by
  induction members with
  | nil => rfl
  | cons m members ih => rw [memberTexts, ih, List.map_cons, memberOf]

theorem sortedMembers_eq (members : List (String × Json)) :
    sortedMembers members = members.map fun m => (m.1, sorted m.2) := by
  induction members with
  | nil => rfl
  | cons m members ih => rw [sortedMembers, ih, List.map_cons]

theorem commaSeparated_cons (t : List Char) (ts : List (List Char)) :
    commaSeparated (t :: ts) = t ++ ts.flatMap (',' :: ·) := by
  induction ts generalizing t with
  | nil => simp [commaSeparated]
  | cons u ts ih =>
    rw [commaSeparated, ih u, List.flatMap_cons, List.cons_append]
    exact List.cons_ne_nil u ts

/-! ## First characters -/

/-- A text begins with something that is neither layout nor the end of an array. -/
def Starts (t : List Char) : Prop := ∃ c cs, t = c :: cs ∧ isLayout c = false ∧ c ≠ ']'

theorem starts_cons {c : Char} (h : isLayout c = false ∧ c ≠ ']') (cs : List Char) :
    Starts (c :: cs) := ⟨c, cs, rfl, h⟩

theorem Starts.append {t : List Char} (h : Starts t) (rest : List Char) : Starts (t ++ rest) := by
  obtain ⟨c, cs, rfl, hc⟩ := h
  exact ⟨c, cs ++ rest, rfl, hc⟩

theorem Starts.skipLayout_eq {t : List Char} (h : Starts t) : skipLayout t = t := by
  obtain ⟨c, cs, rfl, hlayout, -⟩ := h
  rw [skipLayout, List.dropWhile_cons, hlayout]
  rfl

/-- A digit is none of the other characters that a value can begin with. -/
theorem ne_of_isDigit {c x : Char} (h : Numeral.isDigit c = true)
    (hx : Numeral.isDigit x = false) : c ≠ x := by
  intro heq
  rw [heq, hx] at h
  cases h

theorem isLayout_of_isDigit {c : Char} (h : Numeral.isDigit c = true) : isLayout c = false := by
  have hne : ∀ x, Numeral.isDigit x = false → (c == x) = false := by
    intro x hx
    simpa using ne_of_isDigit h hx
  rw [isLayout, hne ' ' (by decide), hne '\n' (by decide), hne '\t' (by decide),
    hne '\r' (by decide)]
  rfl

theorem starts_digits (n : Nat) : Starts (Numeral.digits n) := by
  obtain ⟨c, cs, hdigits, -⟩ := Numeral.exists_digits_eq_cons n
  have hdigit := Numeral.isDigit_of_mem_digits n c (hdigits ▸ List.mem_cons_self)
  rw [hdigits]
  exact starts_cons ⟨isLayout_of_isDigit hdigit, ne_of_isDigit hdigit (by decide)⟩ cs

theorem Fits.starts_text {depth : Nat} {v : Json} (h : Fits depth v) : Starts (text v) := by
  cases h with
  | null => exact starts_cons (by decide) _
  | bool b => cases b <;> exact starts_cons (by decide) _
  | natural => exact starts_digits _
  | negative => exact starts_cons (by decide) _
  | string => exact starts_cons (by decide) _
  | array => exact starts_cons (by decide) _
  | object => exact starts_cons (by decide) _

/-! ## Lists -/

section Lists

variable {α β : Type} {item : List Char → Read (α × List Char)} {written : β → List Char}
  {result : β → α}

/-- Behind an item comes a comma or the end, either of which ends a number. -/
theorem endsNumber_tail {ts : List (List Char)} {close : Char} (h : close = ']' ∨ close = '}')
    (rest : List Char) : EndsNumber (ts.flatMap (',' :: ·) ++ close :: rest) := by
  cases ts with
  | nil => exact endsNumber_cons (.inr h) rest
  | cons t ts => exact endsNumber_cons (.inl rfl) _

/-- The reader reads everything that is written of some values. -/
def ReadsAll (item : List Char → Read (α × List Char)) (written : β → List Char) (result : β → α)
    (xs : List β) : Prop :=
  ∀ x ∈ xs, Starts (written x) ∧
    ∀ rest, EndsNumber rest → item (written x ++ rest) = .ok (result x, rest)

section Items

variable {t tail rest : List Char} {x : α} {xs : List α} {n : Nat}

/-- The first item, and then the others. -/
theorem itemsWithin_first (ht : Starts t) (hitem : item (t ++ tail) = .ok (x, tail))
    (htail : itemsWithin item n false tail = .ok (xs, rest)) :
    itemsWithin item (n + 1) true (t ++ tail) = .ok (x :: xs, rest) := by
  have hskip := (ht.append tail).skipLayout_eq
  obtain ⟨c, cs, rfl, -, hclose⟩ := ht
  rw [itemsWithin, hskip]
  split
  next heq => cases heq
  next heq => exact absurd (List.cons.inj heq).1 hclose
  next heq =>
    rw [← heq, if_pos rfl]
    simp only [hitem, htail, bind, Except.bind]
    rfl

/-- A later item behind its comma, and then the others. -/
theorem itemsWithin_later (ht : Starts t) (hitem : item (t ++ tail) = .ok (x, tail))
    (htail : itemsWithin item n false tail = .ok (xs, rest)) :
    itemsWithin item (n + 1) false (',' :: (t ++ tail)) = .ok (x :: xs, rest) := by
  have hcomma : skipLayout (',' :: (t ++ tail)) = ',' :: (t ++ tail) := rfl
  have hskip := (ht.append tail).skipLayout_eq
  obtain ⟨c, cs, rfl, -, hclose⟩ := ht
  rw [itemsWithin, hcomma]
  split
  next heq => cases heq
  next heq => cases heq
  next heq =>
    cases heq
    rw [if_neg (by decide), if_neg (by decide), hskip]
    split
    next heq => cases heq
    next heq => exact absurd (List.cons.inj heq).1 hclose
    next =>
      simp only [hitem, htail, bind, Except.bind]
      rfl

end Items

theorem itemsWithin_behind (xs : List β) (hitem : ReadsAll item written result xs)
    (rest : List Char) {n : Nat} (hn : xs.length < n) :
    itemsWithin item n false ((xs.map written).flatMap (',' :: ·) ++ ']' :: rest) =
      .ok (xs.map result, rest) := by
  induction xs generalizing n with
  | nil =>
    obtain ⟨n, rfl⟩ : ∃ k, n = k + 1 := ⟨n - 1, by omega⟩
    rfl
  | cons x xs ih =>
    obtain ⟨n, rfl⟩ : ∃ k, n = k + 1 := ⟨n - 1, by omega⟩
    obtain ⟨⟨hstarts, hread⟩, hothers⟩ := List.forall_mem_cons.mp hitem
    rw [List.map_cons, List.flatMap_cons, List.append_assoc, List.cons_append]
    exact itemsWithin_later hstarts (hread _ (endsNumber_tail (.inl rfl) rest))
      (ih hothers (Nat.lt_of_succ_lt_succ hn))

/-- The items of an array are read. -/
theorem itemsWithin_all (xs : List β) (hitem : ReadsAll item written result xs)
    (rest : List Char) {n : Nat} (hn : xs.length < n) :
    itemsWithin item n true (commaSeparated (xs.map written) ++ ']' :: rest) =
      .ok (xs.map result, rest) := by
  obtain ⟨n, rfl⟩ : ∃ k, n = k + 1 := ⟨n - 1, by omega⟩
  cases xs with
  | nil => rfl
  | cons x xs =>
    obtain ⟨⟨hstarts, hread⟩, hothers⟩ := List.forall_mem_cons.mp hitem
    rw [List.map_cons, commaSeparated_cons, List.append_assoc]
    exact itemsWithin_first hstarts (hread _ (endsNumber_tail (.inl rfl) rest))
      (itemsWithin_behind xs hothers rest (Nat.lt_of_succ_lt_succ hn))

section Members

variable {t tail rest : List Char} {x : α} {xs : List (String × α)} {n : Nat}

theorem quote_append (cs rest : List Char) :
    quote cs ++ rest = '"' :: (cs.flatMap escapeChar ++ '"' :: rest) := by
  rw [quote, List.cons_append, List.cons_append, List.append_assoc, List.singleton_append]

/-- The first member, and then the others. -/
theorem membersWithin_first (key : String) (hitem : item (t ++ tail) = .ok (x, tail))
    (htail : membersWithin item n false tail = .ok (xs, rest)) :
    membersWithin item (n + 1) true (quote key.toList ++ ':' :: (t ++ tail)) =
      .ok ((key, x) :: xs, rest) := by
  have hskip : ∀ cs, skipLayout ('"' :: cs) = '"' :: cs := fun _ => rfl
  have hcolon : colon (':' :: (t ++ tail)) = .ok (t ++ tail) := rfl
  rw [quote_append, membersWithin, hskip]
  split
  next heq => cases heq
  next heq => cases heq
  next heq =>
    cases heq
    rw [if_pos rfl, if_pos rfl]
    simp only [stringBody_quoted, hcolon, hitem, htail, bind, Except.bind]
    rfl

/-- A later member behind its comma, and then the others. -/
theorem membersWithin_later (key : String) (hitem : item (t ++ tail) = .ok (x, tail))
    (htail : membersWithin item n false tail = .ok (xs, rest)) :
    membersWithin item (n + 1) false (',' :: (quote key.toList ++ ':' :: (t ++ tail))) =
      .ok ((key, x) :: xs, rest) := by
  have hcomma : ∀ cs, skipLayout (',' :: cs) = ',' :: cs := fun _ => rfl
  have hskip : ∀ cs, skipLayout ('"' :: cs) = '"' :: cs := fun _ => rfl
  have hcolon : colon (':' :: (t ++ tail)) = .ok (t ++ tail) := rfl
  rw [quote_append, membersWithin, hcomma]
  split
  next heq => cases heq
  next heq => cases heq
  next heq =>
    cases heq
    rw [if_neg (by decide), if_neg (by decide), hskip]
    dsimp only
    simp only [stringBody_quoted, hcolon, hitem, htail, bind, Except.bind]
    rfl

end Members

theorem membersWithin_behind (ms : List (String × β))
    (hitem : ReadsAll item written result (ms.map (·.2))) (rest : List Char) {n : Nat}
    (hn : ms.length < n) :
    membersWithin item n false ((ms.map (memberOf written)).flatMap (',' :: ·) ++ '}' :: rest) =
      .ok (ms.map fun m => (m.1, result m.2), rest) := by
  induction ms generalizing n with
  | nil =>
    obtain ⟨n, rfl⟩ : ∃ k, n = k + 1 := ⟨n - 1, by omega⟩
    rfl
  | cons m ms ih =>
    obtain ⟨n, rfl⟩ : ∃ k, n = k + 1 := ⟨n - 1, by omega⟩
    obtain ⟨⟨-, hread⟩, hothers⟩ := List.forall_mem_cons.mp hitem
    rw [List.map_cons, List.flatMap_cons, List.append_assoc, List.cons_append, memberOf,
      List.append_assoc, List.cons_append]
    exact membersWithin_later m.1 (hread _ (endsNumber_tail (.inr rfl) rest))
      (ih hothers (Nat.lt_of_succ_lt_succ hn))

/-- The members of an object are read. -/
theorem membersWithin_all (ms : List (String × β))
    (hitem : ReadsAll item written result (ms.map (·.2))) (rest : List Char) {n : Nat}
    (hn : ms.length < n) :
    membersWithin item n true (commaSeparated (ms.map (memberOf written)) ++ '}' :: rest) =
      .ok (ms.map fun m => (m.1, result m.2), rest) := by
  obtain ⟨n, rfl⟩ : ∃ k, n = k + 1 := ⟨n - 1, by omega⟩
  cases ms with
  | nil => rfl
  | cons m ms =>
    obtain ⟨⟨-, hread⟩, hothers⟩ := List.forall_mem_cons.mp hitem
    rw [List.map_cons, commaSeparated_cons, List.append_assoc, memberOf, List.append_assoc,
      List.cons_append]
    exact membersWithin_first m.1 (hread _ (endsNumber_tail (.inr rfl) rest))
      (membersWithin_behind ms hothers rest (Nat.lt_of_succ_lt_succ hn))

end Lists

/-! ## Values -/

theorem length_le_commaSeparated {ts : List (List Char)} (h : ∀ t ∈ ts, t ≠ []) :
    ts.length ≤ (commaSeparated ts).length := by
  have hothers : ∀ ts : List (List Char), ts.length ≤ (ts.flatMap (',' :: ·)).length := by
    intro ts
    induction ts with
    | nil => exact Nat.le_refl _
    | cons t ts ih =>
      rw [List.flatMap_cons, List.length_append, List.length_cons, List.length_cons]
      omega
  cases ts with
  | nil => exact Nat.zero_le _
  | cons t ts =>
    have hfirst := List.length_pos_iff.mpr (h t List.mem_cons_self)
    have hlater := hothers ts
    rw [commaSeparated_cons, List.length_append, List.length_cons]
    omega

/-- A digit begins a number without a sign. -/
theorem value_of_isDigit {c : Char} (h : Numeral.isDigit c = true) (depth : Nat)
    (cs : List Char) :
    value depth (c :: cs) = (numeral false (c :: cs)).map fun (n, rest) => (.number n, rest) := by
  have hskip : skipLayout (c :: cs) = c :: cs := by
    rw [skipLayout, List.dropWhile_cons, isLayout_of_isDigit h]
    rfl
  have hne : ∀ {x}, Numeral.isDigit x = false → c ≠ x := fun hx => ne_of_isDigit h hx
  unfold value
  rw [hskip]
  split
  next heq => cases heq
  next heq => exact absurd (List.cons.inj heq).1 (hne (by decide))
  next heq => exact absurd (List.cons.inj heq).1 (hne (by decide))
  next heq => exact absurd (List.cons.inj heq).1 (hne (by decide))
  next heq => exact absurd (List.cons.inj heq).1 (hne (by decide))
  next heq => exact absurd (List.cons.inj heq).1 (hne (by decide))
  next heq => exact absurd (List.cons.inj heq).1 (hne (by decide))
  next heq => exact absurd (List.cons.inj heq).1 (hne (by decide))
  next heq =>
    cases heq
    rw [if_pos h]
    cases numeral false (c :: cs) <;> rfl

/-- Values that are read as they are written. -/
theorem readsAll_of_forall {depth : Nat} {vs : List Json} (hfits : ∀ v ∈ vs, Fits depth v)
    (hread : ∀ v ∈ vs, ∀ {rest}, EndsNumber rest →
      value depth (text v ++ rest) = .ok (sorted v, rest)) :
    ReadsAll (value depth) text sorted vs := by
  intro v hv
  exact ⟨(hfits v hv).starts_text, fun _ hrest => hread v hv hrest⟩

/-- What is written of a value is read up to its end. -/
theorem Fits.value_text {depth : Nat} {v : Json} (h : Fits depth v) :
    ∀ {rest : List Char}, EndsNumber rest →
      value depth (text v ++ rest) = .ok (sorted v, rest) := by
  induction h with
  | null =>
    intro rest _
    unfold value
    rfl
  | bool b =>
    intro rest _
    unfold value
    cases b <;> rfl
  | @natural depth n hn =>
    intro rest hrest
    obtain ⟨c, cs, hdigits, -⟩ := Numeral.exists_digits_eq_cons n
    have hdigit := Numeral.isDigit_of_mem_digits n c (hdigits ▸ List.mem_cons_self)
    have hnumeral := numeral_natural hrest hn
    rw [hdigits, List.cons_append] at hnumeral
    rw [text, Number.text, hdigits, List.cons_append, value_of_isDigit hdigit, hnumeral]
    rfl
  | negative hpos hn =>
    intro rest hrest
    have hskip : ∀ cs, skipLayout ('-' :: cs) = '-' :: cs := fun _ => rfl
    rw [text, Number.text, List.cons_append, value, hskip]
    simp only [numeral_negative hrest hpos hn, bind, Except.bind]
    rfl
  | string s =>
    intro rest _
    have hskip : ∀ cs, skipLayout ('"' :: cs) = '"' :: cs := fun _ => rfl
    rw [text, quote_append, value, hskip]
    simp only [stringBody_quoted, bind, Except.bind]
    rfl
  | @array depth items hfits ih =>
    intro rest _
    have hall := readsAll_of_forall hfits ih
    have hlength : items.length ≤ (commaSeparated (items.map text)).length := by
      have hstarts : ∀ t ∈ items.map text, t ≠ [] := by
        intro t ht
        obtain ⟨v, hv, rfl⟩ := List.mem_map.mp ht
        obtain ⟨c, cs, htext, -⟩ := (hfits v hv).starts_text
        rw [htext]
        exact List.cons_ne_nil c cs
      simpa using length_le_commaSeparated hstarts
    have hskip : ∀ cs, skipLayout ('[' :: cs) = '[' :: cs := fun _ => rfl
    rw [text, itemTexts_eq, List.cons_append, List.cons_append, List.append_assoc,
      List.singleton_append, value, hskip]
    have hread := itemsWithin_all items hall rest
      (n := (commaSeparated (items.map text) ++ ']' :: rest).length + 1)
      (by rw [List.length_append]; omega)
    simp only [hread, bind, Except.bind]
    rw [sorted, sortedItems_eq]
    rfl
  | @object depth members hfits ih =>
    intro rest _
    have hall : ReadsAll (value depth) text sorted (members.map (·.2)) := by
      apply readsAll_of_forall
      · exact List.forall_mem_map.mpr hfits
      · exact List.forall_mem_map.mpr ih
    have hlength : members.length ≤ (commaSeparated (members.map (memberOf text))).length := by
      have hstarts : ∀ t ∈ members.map (memberOf text), t ≠ [] := by
        intro t ht
        obtain ⟨m, -, rfl⟩ := List.mem_map.mp ht
        rw [memberOf, quote_append]
        exact List.cons_ne_nil _ _
      simpa using length_le_commaSeparated hstarts
    have hskip : ∀ cs, skipLayout ('{' :: cs) = '{' :: cs := fun _ => rfl
    rw [text, memberTexts_eq, List.cons_append, List.cons_append, List.append_assoc,
      List.singleton_append, value, hskip]
    have hread := membersWithin_all members hall rest
      (n := (commaSeparated (members.map (memberOf text)) ++ '}' :: rest).length + 1)
      (by rw [List.length_append]; omega)
    simp only [hread, bind, Except.bind]
    rw [sorted, sortedMembers_eq]
    rfl

/-- The compact text of a value is read as that value in order. -/
theorem Fits.parse_render {v : Json} (h : Fits maxDepth v) : parse v.render = .ok (sorted v) := by
  have hvalue := h.value_text endsNumber_nil
  rw [List.append_nil] at hvalue
  have hread : readChars (text v) = .ok (sorted v) := by
    rw [readChars, hvalue]
    rfl
  rw [parse, render, String.toList_ofList, hread]

end Composer.Json
