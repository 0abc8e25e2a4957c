import Composer.Toml.Reader
set_option autoImplicit false

/-!
# What a document can hold

The integers that are read from a text are at most the largest signed 64-bit number, wherever they
stand. The reader sees to it where it reads a run of digits; putting tables together only moves
values.
-/

namespace Composer.Toml

/-- No integer in a value is too large. -/
inductive Bounded : Toml → Prop
  | string (s : String) : Bounded (.string s)
  | integer {n : Int} (h : n ≤ Numeral.maxSigned) : Bounded (.integer n)
  | float (written : String) : Bounded (.float written)
  | boolean (b : Bool) : Bounded (.boolean b)
  | dateTime (written : String) : Bounded (.dateTime written)
  | array {items : List Toml} (h : ∀ t ∈ items, Bounded t) : Bounded (.array items)
  | table {members : List (String × Toml)} (h : ∀ m ∈ members, Bounded m.2) :
      Bounded (.table members)

/-- No integer below an entry is too large. -/
inductive Entry.Bounded : Entry → Prop
  | value {v : Toml} (h : v.Bounded) : Entry.Bounded (.value v)
  | table {origin : Origin} {entries : Entries} (h : ∀ e ∈ entries, Entry.Bounded e.2) :
      Entry.Bounded (.table origin entries)
  | tables {items : List Entries} (h : ∀ entries ∈ items, ∀ e ∈ entries, Entry.Bounded e.2) :
      Entry.Bounded (.tables items)

/-- No integer below one of the entries is too large. -/
def AllBounded (entries : Entries) : Prop := ∀ e ∈ entries, e.2.Bounded

/-- No integer that a statement assigns is too large. -/
def Statement.Bounded : Statement → Prop
  | .assign _ v => v.Bounded
  | .openTable _ => True
  | .openItem _ => True

/-- A member that is looked up is one of the members. -/
theorem mem_of_lookup {α : Type} {key : String} {x : α} {members : List (String × α)}
    (h : members.lookup key = some x) : (key, x) ∈ members := by
  obtain ⟨before, after, rfl, -⟩ := List.lookup_eq_some_iff.mp h
  simp

/-! ## Putting tables together -/

section Assembling

variable {entries entries' : Entries}

theorem allBounded_nil : AllBounded [] := by
  intro e he
  exact absurd he List.not_mem_nil

theorem AllBounded.put (h : AllBounded entries) (key : String) {e : Entry} (he : e.Bounded) :
    AllBounded (put key e entries) := by
  induction entries with
  | nil =>
    intro entry hentry
    rw [Toml.put, List.mem_singleton] at hentry
    rw [hentry]
    exact he
  | cons first rest ih =>
    obtain ⟨hfirst, hrest⟩ := List.forall_mem_cons.mp h
    unfold Toml.put
    split
    · exact List.forall_mem_cons.mpr ⟨he, hrest⟩
    · exact List.forall_mem_cons.mpr ⟨hfirst, ih hrest⟩

theorem AllBounded.of_lookup (h : AllBounded entries) {key : String} {e : Entry}
    (hfound : entries.lookup key = some e) : e.Bounded :=
  h _ (mem_of_lookup hfound)

/-- A table that is found holds no integer that is too large. -/
theorem AllBounded.of_table (h : AllBounded entries) {key : String} {origin : Origin}
    {inner : Entries} (hfound : entries.lookup key = some (.table origin inner)) :
    AllBounded inner := by
  cases h.of_lookup hfound with
  | table hinner => exact hinner

/-- The items of a list that is found hold no integer that is too large. -/
theorem AllBounded.of_tables (h : AllBounded entries) {key : String} {items : List Entries}
    (hfound : entries.lookup key = some (.tables items)) : ∀ item ∈ items, AllBounded item := by
  cases h.of_lookup hfound with
  | tables hitems => exact hitems

/-- A change somewhere below keeps the bounds if it keeps them where it is made. -/
theorem AllBounded.descend {dotted : Bool} {change : Origin → Entries → Option Entries}
    (hchange : ∀ origin inner inner', AllBounded inner → change origin inner = some inner' →
      AllBounded inner')
    {path : List String} {origin : Origin} (h : AllBounded entries)
    (hdescend : descend dotted change path origin entries = some entries') :
    AllBounded entries' := by
  induction path generalizing origin entries entries' with
  | nil => exact hchange origin entries entries' h hdescend
  | cons key path ih =>
    unfold Toml.descend at hdescend
    split at hdescend
    · simp only [Option.bind_eq_bind, Option.bind_eq_some_iff, Option.pure_def,
        Option.some.injEq] at hdescend
      obtain ⟨inner, hinner, rfl⟩ := hdescend
      exact h.put key (.table (ih allBounded_nil hinner))
    · exact absurd hdescend (by simp)
    · rename_i hfound
      split at hdescend
      · exact absurd hdescend (by simp)
      · simp only [Option.bind_eq_bind, Option.bind_eq_some_iff, Option.pure_def,
          Option.some.injEq] at hdescend
        obtain ⟨inner', hinner, rfl⟩ := hdescend
        exact h.put key (.table (ih (h.of_table hfound) hinner))
    · rename_i items hfound
      simp only [Option.bind_eq_bind, Option.bind_eq_some_iff, Option.pure_def,
        Option.some.injEq] at hdescend
      obtain ⟨last, hlast, last', hchanged, rfl⟩ := hdescend
      have hitems := h.of_tables hfound
      have hlast' := ih (hitems last (List.mem_of_getLast? hlast)) hchanged
      refine h.put key (.tables ?_)
      intro item hitem
      rcases List.mem_append.mp hitem with hbefore | hnew
      · exact hitems item ((List.dropLast_prefix items).subset hbefore)
      · rw [List.mem_singleton.mp hnew]
        exact hlast'

theorem AllBounded.addValue (h : AllBounded entries) {key : String} {v : Toml} (hv : v.Bounded)
    (hadd : addValue key v entries = some entries') : AllBounded entries' := by
  unfold Toml.addValue at hadd
  split at hadd
  · exact absurd hadd (by simp)
  · rw [← Option.some.inj hadd]
    exact h.put key (.value hv)

theorem AllBounded.assign (h : AllBounded entries) {path : List String} {v : Toml}
    (hv : v.Bounded) (hassign : assign path v entries = some entries') : AllBounded entries' := by
  simp only [Toml.assign, Option.bind_eq_bind, Option.bind_eq_some_iff] at hassign
  obtain ⟨key, -, hdescend⟩ := hassign
  refine h.descend ?_ hdescend
  intro origin inner inner' hinner hchange
  split at hchange
  · exact absurd hchange (by simp)
  · exact hinner.addValue hv hchange

theorem AllBounded.openTable (h : AllBounded entries) {path : List String}
    (hopen : openTable path entries = some entries') : AllBounded entries' := by
  simp only [Toml.openTable, Option.bind_eq_bind, Option.bind_eq_some_iff] at hopen
  obtain ⟨key, -, hdescend⟩ := hopen
  refine h.descend ?_ hdescend
  intro origin inner inner' hinner hchange
  split at hchange
  · rw [← Option.some.inj hchange]
    exact hinner.put key (.table allBounded_nil)
  · rename_i implied hfound
    rw [← Option.some.inj hchange]
    exact hinner.put key (.table (hinner.of_table hfound))
  · exact absurd hchange (by simp)

theorem AllBounded.openItem (h : AllBounded entries) {path : List String}
    (hopen : openItem path entries = some entries') : AllBounded entries' := by
  simp only [Toml.openItem, Option.bind_eq_bind, Option.bind_eq_some_iff] at hopen
  obtain ⟨key, -, hdescend⟩ := hopen
  refine h.descend ?_ hdescend
  intro origin inner inner' hinner hchange
  split at hchange
  · rw [← Option.some.inj hchange]
    refine hinner.put key (.tables ?_)
    intro item hitem
    rw [List.mem_singleton.mp hitem]
    exact allBounded_nil
  · rename_i items hfound
    rw [← Option.some.inj hchange]
    refine hinner.put key (.tables ?_)
    intro item hitem
    rcases List.mem_append.mp hitem with hbefore | hnew
    · exact hinner.of_tables hfound item hbefore
    · rw [List.mem_singleton.mp hnew]
      exact allBounded_nil
  · exact absurd hchange (by simp)

/-- A statement that assigns no integer that is too large adds none. -/
theorem AllBounded.apply {a a' : Assembly} (h : AllBounded a.root) {s : Statement}
    (hs : s.Bounded) (happly : a.apply s = some a') : AllBounded a'.root := by
  cases s with
  | assign path v =>
    simp only [Assembly.apply, Option.bind_eq_bind, Option.bind_eq_some_iff, Option.pure_def,
      Option.some.injEq] at happly
    obtain ⟨root, hroot, rfl⟩ := happly
    exact h.descend (fun _ _ _ hinner hchange => hinner.assign hs hchange) hroot
  | openTable path =>
    simp only [Assembly.apply, Option.bind_eq_bind, Option.bind_eq_some_iff, Option.pure_def,
      Option.some.injEq] at happly
    obtain ⟨root, hroot, rfl⟩ := happly
    exact h.openTable hroot
  | openItem path =>
    simp only [Assembly.apply, Option.bind_eq_bind, Option.bind_eq_some_iff, Option.pure_def,
      Option.some.injEq] at happly
    obtain ⟨root, hroot, rfl⟩ := happly
    exact h.openItem hroot

end Assembling

mutual

/-- The value of an entry holds what the entry holds. -/
theorem Entry.Bounded.toToml : ∀ {e : Entry}, e.Bounded → e.toToml.Bounded
  | .value _, .value hv => by
    rw [Entry.toToml]
    exact hv
  | .table _ entries, .table hentries => by
    rw [Entry.toToml]
    exact .table (bounded_membersOf entries hentries)
  | .tables items, .tables hitems => by
    rw [Entry.toToml]
    exact .array (bounded_tablesOf items hitems)

theorem bounded_membersOf : ∀ entries : List (String × Entry), (∀ e ∈ entries, e.2.Bounded) →
    ∀ m ∈ membersOf entries, m.2.Bounded
  | [], _ => by
    intro m hm
    rw [membersOf] at hm
    exact absurd hm List.not_mem_nil
  | (key, e) :: rest, h => by
    rw [List.forall_mem_cons] at h
    rw [membersOf, List.forall_mem_cons]
    exact ⟨Entry.Bounded.toToml h.1, bounded_membersOf rest h.2⟩

theorem bounded_tablesOf : ∀ items : List (List (String × Entry)),
    (∀ entries ∈ items, ∀ e ∈ entries, e.2.Bounded) → ∀ t ∈ tablesOf items, t.Bounded
  | [], _ => by
    intro t ht
    rw [tablesOf] at ht
    exact absurd ht List.not_mem_nil
  | entries :: rest, h => by
    rw [List.forall_mem_cons] at h
    rw [tablesOf, List.forall_mem_cons]
    exact ⟨.table (bounded_membersOf entries h.1), bounded_tablesOf rest h.2⟩

end

/-- What every step keeps is kept along the way. -/
theorem foldlM_keeps {α β : Type} {f : β → α → Option β} {p : β → Prop} {xs : List α}
    (hstep : ∀ x ∈ xs, ∀ b b', p b → f b x = some b' → p b') {b b' : β} (hb : p b)
    (h : xs.foldlM f b = some b') : p b' := by
  induction xs generalizing b with
  | nil =>
    rw [← Option.some.inj h]
    exact hb
  | cons x xs ih =>
    rw [List.foldlM_cons, Option.bind_eq_bind, Option.bind_eq_some_iff] at h
    obtain ⟨next, hnext, h⟩ := h
    rw [List.forall_mem_cons] at hstep
    exact ih hstep.2 (hstep.1 _ _ hb hnext) h

/-- Statements that assign no integer that is too large describe a table that holds none. -/
theorem bounded_of_ofStatements {statements : List Statement} (hs : ∀ s ∈ statements, s.Bounded)
    {t : Toml} (h : ofStatements statements = some t) : t.Bounded := by
  simp only [ofStatements, Option.bind_eq_bind, Option.bind_eq_some_iff, Option.pure_def,
    Option.some.injEq] at h
  obtain ⟨a, ha, rfl⟩ := h
  have hroot := foldlM_keeps (p := fun a : Assembly => AllBounded a.root)
    (fun s hmem _ _ hkept happly => hkept.apply (hs s hmem) happly) allBounded_nil ha
  exact .table (bounded_membersOf a.root hroot)

/-- The same holds of the assignments between two braces. -/
theorem bounded_of_ofPairs {pairs : List (List String × Toml)} (hp : ∀ p ∈ pairs, p.2.Bounded)
    {t : Toml} (h : ofPairs pairs = some t) : t.Bounded := by
  simp only [ofPairs, Option.bind_eq_bind, Option.bind_eq_some_iff, Option.pure_def,
    Option.some.injEq] at h
  obtain ⟨entries, hentries, rfl⟩ := h
  have hroot := foldlM_keeps (p := AllBounded)
    (fun pair hmem _ _ hkept hassign => hkept.assign (hp pair hmem) hassign) allBounded_nil hentries
  exact .table (bounded_membersOf entries hroot)

/-! ## Reading values -/

/-- What is read as an integer is not too large. -/
theorem le_of_integer? {run : List Char} {n : Int} (h : integer? run = some n) :
    n ≤ Numeral.maxSigned := by
  simp only [integer?, Option.bind_eq_bind, Option.bind_eq_some_iff, Option.pure_def] at h
  obtain ⟨⟨minus, size⟩, -, h⟩ := h
  dsimp only at h
  split at h
  · split at h
    · rw [← Option.some.inj h]
      omega
    · exact absurd h (by simp)
  · split at h
    · rw [← Option.some.inj h]
      omega
    · exact absurd h (by simp)

theorem bounded_of_ofRun {run : List Char} {v : Toml} (h : ofRun run = some v) : v.Bounded := by
  unfold ofRun at h
  split at h
  · rw [← Option.some.inj h]
    exact .boolean true
  split at h
  · rw [← Option.some.inj h]
    exact .boolean false
  split at h
  · rename_i n hn
    rw [← Option.some.inj h]
    exact .integer (le_of_integer? hn)
  split at h
  · rw [← Option.some.inj h]
    exact .float _
  split at h
  · rw [← Option.some.inj h]
    exact .dateTime _
  · exact absurd h (by simp)

section Nested

variable {item : List Char → Option (Toml × List Char)}
  (hitem : ∀ {cs rest v}, item cs = some (v, rest) → v.Bounded)

include hitem

theorem bounded_of_itemsWithin {n : Nat} {cs rest : List Char} {items : List Toml}
    (h : itemsWithin item n cs = some (items, rest)) : ∀ v ∈ items, v.Bounded := by
  induction n generalizing cs rest items with
  | zero => exact absurd h (by simp [itemsWithin])
  | succ n ih =>
    unfold itemsWithin at h
    split at h
    · rw [← (Prod.mk.inj (Option.some.inj h)).1]
      exact fun v hv => absurd hv List.not_mem_nil
    · simp only [Option.bind_eq_bind, Option.bind_eq_some_iff] at h
      obtain ⟨⟨x, after⟩, hx, h⟩ := h
      split at h
      · rw [← (Prod.mk.inj (Option.some.inj h)).1, List.forall_mem_singleton]
        exact hitem hx
      · simp only [Option.bind_eq_some_iff, Option.pure_def, Option.some.injEq,
          Prod.mk.injEq] at h
        obtain ⟨⟨xs, last⟩, hxs, rfl, -⟩ := h
        exact List.forall_mem_cons.mpr ⟨hitem hx, ih hxs⟩
      · exact absurd h (by simp)

theorem bounded_of_pair? {cs rest : List Char} {pair : List String × Toml}
    (h : pair? item cs = some (pair, rest)) : pair.2.Bounded := by
  simp only [pair?, Option.bind_eq_bind, Option.bind_eq_some_iff] at h
  obtain ⟨⟨path, after⟩, -, h⟩ := h
  split at h
  · simp only [Option.bind_eq_some_iff, Option.pure_def, Option.some.injEq, Prod.mk.injEq] at h
    obtain ⟨⟨v, last⟩, hv, rfl, -⟩ := h
    exact hitem hv
  · exact absurd h (by simp)

theorem bounded_of_pairsWithin {n : Nat} {cs rest : List Char} {pairs : List (List String × Toml)}
    (h : pairsWithin item n cs = some (pairs, rest)) : ∀ p ∈ pairs, p.2.Bounded := by
  induction n generalizing cs rest pairs with
  | zero => exact absurd h (by simp [pairsWithin])
  | succ n ih =>
    simp only [pairsWithin, Option.bind_eq_bind, Option.bind_eq_some_iff] at h
    obtain ⟨⟨pair, after⟩, hpair, h⟩ := h
    split at h
    · rw [← (Prod.mk.inj (Option.some.inj h)).1, List.forall_mem_singleton]
      exact bounded_of_pair? hitem hpair
    · simp only [Option.bind_eq_some_iff, Option.pure_def, Option.some.injEq, Prod.mk.injEq] at h
      obtain ⟨⟨more, last⟩, hmore, rfl, -⟩ := h
      exact List.forall_mem_cons.mpr ⟨bounded_of_pair? hitem hpair, ih hmore⟩
    · exact absurd h (by simp)

end Nested

/-- What is read as a value holds no integer that is too large. -/
theorem bounded_of_value? {depth : Nat} {cs rest : List Char} {v : Toml}
    (h : value? depth cs = some (v, rest)) : v.Bounded := by
  -- Nested values are read with less depth.
  induction depth using Nat.strongRecOn generalizing cs rest v with
  | ind depth ih =>
    unfold value? at h
    split at h
    · split at h
      · exact absurd h (by simp)
      · rename_i depth
        simp only [Option.bind_eq_bind, Option.bind_eq_some_iff, Option.pure_def,
          Option.some.injEq, Prod.mk.injEq] at h
        obtain ⟨⟨items, after⟩, hitems, rfl, -⟩ := h
        exact .array (bounded_of_itemsWithin (ih depth (Nat.lt_succ_self depth)) hitems)
    · split at h
      · exact absurd h (by simp)
      · rename_i depth
        split at h
        · rw [← (Prod.mk.inj (Option.some.inj h)).1]
          exact .table (fun m hm => absurd hm List.not_mem_nil)
        · simp only [Option.bind_eq_bind, Option.bind_eq_some_iff, Option.pure_def,
            Option.some.injEq, Prod.mk.injEq] at h
          obtain ⟨⟨pairs, after⟩, hpairs, t, ht, rfl, -⟩ := h
          have hbounded := bounded_of_pairsWithin (ih depth (Nat.lt_succ_self depth)) hpairs
          exact bounded_of_ofPairs hbounded ht
    · split at h
      · obtain ⟨⟨s, after⟩, -, hs⟩ := Option.map_eq_some_iff.mp h
        rw [← (Prod.mk.inj hs).1]
        exact .string _
      · obtain ⟨x, hx, hv⟩ := Option.map_eq_some_iff.mp h
        rw [← (Prod.mk.inj hv).1]
        exact bounded_of_ofRun hx

/-! ## Reading documents -/

theorem bounded_of_statement? {cs rest : List Char} {s : Statement}
    (h : statement? cs = some (s, rest)) : s.Bounded := by
  unfold statement? at h
  split at h
  · simp only [Option.bind_eq_bind, Option.bind_eq_some_iff] at h
    obtain ⟨⟨path, after⟩, -, h⟩ := h
    split at h
    · rw [← (Prod.mk.inj (Option.some.inj h)).1]
      trivial
    · exact absurd h (by simp)
  · simp only [Option.bind_eq_bind, Option.bind_eq_some_iff] at h
    obtain ⟨⟨path, after⟩, -, h⟩ := h
    split at h
    · rw [← (Prod.mk.inj (Option.some.inj h)).1]
      trivial
    · exact absurd h (by simp)
  · simp only [Option.bind_eq_bind, Option.bind_eq_some_iff, Option.pure_def, Option.some.injEq,
      Prod.mk.injEq] at h
    obtain ⟨⟨⟨path, v⟩, after⟩, hpair, rfl, -⟩ := h
    exact bounded_of_pair? (fun hv => bounded_of_value? hv) hpair

theorem bounded_of_statementsWithin {n : Nat} {cs : List Char} {statements : List Statement}
    (h : statementsWithin n cs = some statements) : ∀ s ∈ statements, s.Bounded := by
  induction n generalizing cs statements with
  | zero =>
    cases cs with
    | nil =>
      rw [← Option.some.inj h]
      exact fun s hs => absurd hs List.not_mem_nil
    | cons c cs => exact absurd h (by simp [statementsWithin])
  | succ n ih =>
    cases cs with
    | nil =>
      rw [← Option.some.inj h]
      exact fun s hs => absurd hs List.not_mem_nil
    | cons c cs =>
      simp only [statementsWithin] at h
      split at h
      · exact ih h
      · simp only [Option.bind_eq_bind, Option.bind_eq_some_iff, Option.pure_def,
          Option.some.injEq] at h
        obtain ⟨⟨s, after⟩, hs, rest, -, more, hmore, rfl⟩ := h
        exact List.forall_mem_cons.mpr ⟨bounded_of_statement? hs, ih hmore⟩

/-- No integer in a document is too large. -/
theorem bounded_of_parse? {text : String} {t : Toml} (h : parse? text = some t) : t.Bounded := by
  simp only [parse?, Option.bind_eq_bind, Option.bind_eq_some_iff] at h
  obtain ⟨statements, hstatements, h⟩ := h
  exact bounded_of_ofStatements (bounded_of_statementsWithin hstatements) h

end Composer.Toml
