import Composer.Proofs.Toml.Documents
set_option autoImplicit false

/-!
# What sections describe

A document whose tables have different names, followed by the items of one list of tables, describes
the table that has each of them under its name. A header adds an empty table at the end, and the
assignments below it fill that table in their order, whether it stands by itself or is the last item
of a list.
-/

namespace Composer.Toml

/-- The entries that the assignments of a section add. -/
def Section.entries (s : Section) : Entries :=
  s.settings.map fun setting => (setting.1, .value setting.2.value)

/-- The table that a section describes. -/
def Section.table (s : Section) : Toml :=
  .table (s.settings.map fun setting => (setting.1, setting.2.value))

/-- Tables with different names and the items of one list, none of which assigns a key twice. -/
structure Layout (tables items : List Section) (name : String) : Prop where
  tables_isItem : ∀ s ∈ tables, s.isItem = false
  items_isItem : ∀ s ∈ items, s.isItem = true ∧ s.name = name
  names_nodup : (name :: tables.map Section.name).Nodup
  keys_nodup : ∀ s ∈ tables ++ items, (s.settings.map Prod.fst).Nodup

/-! ## Entries under new keys -/

section Entries

variable {key : String} {e old : Entry} {entries : Entries}

theorem lookup_of_not_mem (h : key ∉ entries.map Prod.fst) : entries.lookup key = none := by
  rw [List.lookup_eq_none_iff]
  intro entry hentry
  rw [bne_iff_ne]
  rintro rfl
  exact h (List.mem_map_of_mem hentry)

/-- What is put under a new key stands at the end. -/
theorem put_of_not_mem (h : key ∉ entries.map Prod.fst) :
    put key e entries = entries ++ [(key, e)] := by
  induction entries with
  | nil => rfl
  | cons entry entries ih =>
    rw [List.map_cons, List.mem_cons, not_or] at h
    rw [put, if_neg (Ne.symm h.1), ih h.2, List.cons_append]

theorem lookup_last (h : key ∉ entries.map Prod.fst) :
    (entries ++ [(key, e)]).lookup key = some e := by
  rw [List.lookup_append, lookup_of_not_mem h]
  simp

/-- What is put under the last key replaces what stands there. -/
theorem put_last (h : key ∉ entries.map Prod.fst) :
    put key e (entries ++ [(key, old)]) = entries ++ [(key, e)] := by
  induction entries with
  | nil => simp [put]
  | cons entry entries ih =>
    rw [List.map_cons, List.mem_cons, not_or] at h
    rw [List.cons_append, put, if_neg (Ne.symm h.1), ih h.2, List.cons_append]

/-- A value is assigned to a single key that is new. -/
theorem assign_of_not_mem (h : key ∉ entries.map Prod.fst) (v : Toml) :
    assign [key] v entries = some (entries ++ [(key, .value v)]) := by
  have hadd : addValue key v entries = some (entries ++ [(key, .value v)]) := by
    rw [addValue, lookup_of_not_mem h, put_of_not_mem h]
    simp
  simpa [assign, descend] using hadd

end Entries

/-! ## The assignments below a header -/

/-- Assignments below a name change one table, which stands in the rest in some place. -/
def Reaches (name : String) (place : Entries → Entries) : Prop :=
  ∀ (change : Entries → Option Entries) (inner : Entries),
    descend false (fun _ entries => change entries) [name] .opened (place inner)
      = (change inner).map place

/-- Below a header for a table they change the table that was added last. -/
theorem reaches_table {name : String} {entries : Entries} (h : name ∉ entries.map Prod.fst) :
    Reaches name fun inner => entries ++ [(name, .table .opened inner)] := by
  intro change inner
  simp only [descend, lookup_last h, Bool.false_and, put_last h]
  cases change inner <;> rfl

/-- Below a header for an item they change the last item. -/
theorem reaches_item {name : String} {entries : Entries} (h : name ∉ entries.map Prod.fst)
    (items : List Entries) :
    Reaches name fun inner => entries ++ [(name, .tables (items ++ [inner]))] := by
  intro change inner
  simp only [descend, lookup_last h, put_last h, List.getLast?_concat, List.dropLast_concat, bind,
    Option.bind]
  cases change inner <;> rfl

/-- Assignments to new keys add their entries to the table they change. -/
theorem foldlM_assign {name : String} {place : Entries → Entries} (hplace : Reaches name place)
    {settings : List (String × Setting)} {inner : Entries}
    (hnodup : (inner.map Prod.fst ++ settings.map Prod.fst).Nodup) :
    (settings.map fun setting => Statement.assign [setting.1] setting.2.value).foldlM Assembly.apply
        { root := place inner, current := [name] }
      = some { root := place (inner ++ settings.map fun setting =>
                 (setting.1, .value setting.2.value))
               current := [name] } := by
  -- An entry is added at the end of the table, so the keys that follow are still new.
  induction settings generalizing inner with
  | nil => simp
  | cons setting settings ih =>
    have hnew : setting.1 ∉ inner.map Prod.fst := by
      intro hmem
      rw [List.map_cons, List.nodup_append] at hnodup
      exact hnodup.2.2 _ hmem _ List.mem_cons_self rfl
    have hstep : Assembly.apply { root := place inner, current := [name] }
          (.assign [setting.1] setting.2.value)
        = some { root := place (inner ++ [(setting.1, .value setting.2.value)])
                 current := [name] } := by
      have hchange := hplace (assign [setting.1] setting.2.value) inner
      rw [assign_of_not_mem hnew] at hchange
      rw [Assembly.apply, hchange]
      rfl
    rw [List.map_cons, List.foldlM_cons, hstep]
    have hrest := @ih (inner ++ [(setting.1, .value setting.2.value)]) (by simpa using hnodup)
    rw [List.append_assoc] at hrest
    exact hrest

/-! ## Sections -/

/-- A section for a table with a new name adds its table. -/
theorem foldlM_table {s : Section} (hitem : s.isItem = false)
    (hkeys : (s.settings.map Prod.fst).Nodup) {a : Assembly}
    (hnew : s.name ∉ a.root.map Prod.fst) :
    s.statements.foldlM Assembly.apply a
      = some { root := a.root ++ [(s.name, .table .opened s.entries)], current := [s.name] } := by
  have hopen : a.apply s.header
      = some { root := a.root ++ [(s.name, .table .opened [])], current := [s.name] } := by
    simp [Section.header, hitem, Assembly.apply, openTable, descend, lookup_of_not_mem hnew,
      put_of_not_mem hnew]
  rw [Section.statements, List.foldlM_cons, hopen]
  exact foldlM_assign (reaches_table hnew) (by simpa using hkeys)

/-- Sections for tables with different new names add their tables. -/
theorem foldlM_tables {tables : List Section} (hitem : ∀ s ∈ tables, s.isItem = false)
    (hkeys : ∀ s ∈ tables, (s.settings.map Prod.fst).Nodup) {a : Assembly}
    (hnames : (a.root.map Prod.fst ++ tables.map Section.name).Nodup) :
    ∃ current, (tables.flatMap Section.statements).foldlM Assembly.apply a
      = some { root := a.root ++ tables.map fun s => (s.name, .table .opened s.entries)
               current } := by
  induction tables generalizing a with
  | nil => exact ⟨a.current, by simp⟩
  | cons s tables ih =>
    rw [List.forall_mem_cons] at hitem hkeys
    have hnew : s.name ∉ a.root.map Prod.fst := by
      intro hmem
      rw [List.map_cons, List.nodup_append] at hnames
      exact hnames.2.2 _ hmem _ List.mem_cons_self rfl
    obtain ⟨current, hrest⟩ := ih hitem.2 hkeys.2
      (a := { root := a.root ++ [(s.name, .table .opened s.entries)], current := [s.name] })
      (by simpa using hnames)
    refine ⟨current, ?_⟩
    rw [List.flatMap_cons, List.foldlM_append, foldlM_table hitem.1 hkeys.1 hnew]
    refine hrest.trans ?_
    simp

/-- The entry of a list of tables, if the list has any. -/
def listed (name : String) (items : List Entries) : Entries :=
  if items.isEmpty then [] else [(name, .tables items)]

/-- A section for an item adds its item at the end of the list. -/
theorem foldlM_item {s : Section} (hitem : s.isItem = true)
    (hkeys : (s.settings.map Prod.fst).Nodup) {before : Entries}
    (hnew : s.name ∉ before.map Prod.fst) (items : List Entries) (current : List String) :
    s.statements.foldlM Assembly.apply { root := before ++ listed s.name items, current }
      = some { root := before ++ listed s.name (items ++ [s.entries]), current := [s.name] } := by
  have hopen : Assembly.apply { root := before ++ listed s.name items, current } s.header
      = some { root := before ++ [(s.name, .tables (items ++ [[]]))], current := [s.name] } := by
    cases items with
    | nil =>
      simp [listed, Section.header, hitem, Assembly.apply, openItem, descend,
        lookup_of_not_mem hnew, put_of_not_mem hnew]
    | cons item items =>
      simp [listed, Section.header, hitem, Assembly.apply, openItem, descend, lookup_last hnew,
        put_last hnew]
  have hlisted : listed s.name (items ++ [s.entries])
      = [(s.name, .tables (items ++ [s.entries]))] := by
    simp [listed]
  rw [Section.statements, List.foldlM_cons, hopen, hlisted]
  exact foldlM_assign (reaches_item hnew items) (by simpa using hkeys)

/-- Sections for items add their items in their order. -/
theorem foldlM_items {name : String} {sections : List Section}
    (hitem : ∀ s ∈ sections, s.isItem = true ∧ s.name = name)
    (hkeys : ∀ s ∈ sections, (s.settings.map Prod.fst).Nodup) {before : Entries}
    (hnew : name ∉ before.map Prod.fst) (items : List Entries) (current : List String) :
    ∃ current', (sections.flatMap Section.statements).foldlM Assembly.apply
        { root := before ++ listed name items, current }
      = some { root := before ++ listed name (items ++ sections.map Section.entries)
               current := current' } := by
  induction sections generalizing items current with
  | nil => exact ⟨current, by simp⟩
  | cons s sections ih =>
    rw [List.forall_mem_cons] at hitem hkeys
    obtain ⟨⟨his, rfl⟩, hitem⟩ := hitem
    obtain ⟨current', hrest⟩ := ih hitem hkeys.2 (items ++ [s.entries]) [s.name]
    refine ⟨current', ?_⟩
    rw [List.flatMap_cons, List.foldlM_append, foldlM_item his hkeys.1 hnew]
    refine hrest.trans ?_
    simp

/-! ## Documents -/

theorem membersOf_append (entries more : Entries) :
    membersOf (entries ++ more) = membersOf entries ++ membersOf more := by
  induction entries with
  | nil => rfl
  | cons entry entries ih => rw [List.cons_append, membersOf, membersOf, ih, List.cons_append]

theorem membersOf_map {α : Type} (f : α → String × Entry) (xs : List α) :
    membersOf (xs.map f) = xs.map fun x => ((f x).1, (f x).2.toToml) := by
  induction xs with
  | nil => rfl
  | cons x xs ih => rw [List.map_cons, membersOf, ih, List.map_cons]

theorem membersOf_entries (s : Section) : .table (membersOf s.entries) = s.table := by
  rw [Section.entries, membersOf_map, Section.table]
  simp only [Entry.toToml]

theorem tablesOf_entries (sections : List Section) :
    tablesOf (sections.map Section.entries) = sections.map Section.table := by
  induction sections with
  | nil => rfl
  | cons s sections ih => rw [List.map_cons, tablesOf, membersOf_entries, ih, List.map_cons]

/-- The members of the table that a document describes. -/
def membersOfSections (tables items : List Section) (name : String) : List (String × Toml) :=
  tables.map (fun s => (s.name, s.table))
    ++ if items.isEmpty then [] else [(name, .array (items.map Section.table))]

/-- The statements of a document describe its tables and its list. -/
theorem ofStatements_sections {tables items : List Section} {name : String}
    (h : Layout tables items name) :
    ofStatements ((tables ++ items).flatMap Section.statements)
      = some (.table (membersOfSections tables items name)) := by
  have hnames := List.nodup_cons.mp h.names_nodup
  obtain ⟨current, htables⟩ := foldlM_tables h.tables_isItem
    (fun s hs => h.keys_nodup s (List.mem_append_left _ hs)) (a := {}) (by simpa using hnames.2)
  have hnew :
      name ∉ (tables.map fun s => (s.name, Entry.table .opened s.entries)).map Prod.fst := by
    simpa [Function.comp_def] using hnames.1
  obtain ⟨current', hitems⟩ := foldlM_items h.items_isItem
    (fun s hs => h.keys_nodup s (List.mem_append_right _ hs))
    hnew [] current
  have hlisted : membersOf (listed name (items.map Section.entries))
      = if items.isEmpty then [] else [(name, .array (items.map Section.table))] := by
    rw [listed, List.isEmpty_map]
    split
    · rfl
    · rw [membersOf, Entry.toToml, tablesOf_entries, membersOf]
  rw [ofStatements, List.flatMap_append, List.foldlM_append, htables]
  simp only [List.nil_append, listed, List.isEmpty_nil, if_true, List.append_nil] at hitems
  simp only [bind, Option.bind, List.nil_append, hitems]
  rw [← listed, membersOf_append, membersOf_map, hlisted]
  simp only [Entry.toToml, membersOf_entries]
  rfl

/-- A document that can be written is read back as the table that its sections describe. -/
theorem parse?_print {tables items : List Section} {name : String} (h : Layout tables items name)
    (hwritable : ∀ s ∈ tables ++ items, s.IsWritable) :
    parse? (print (tables ++ items)) = some (.table (membersOfSections tables items name)) := by
  rw [parse?, statements?_print hwritable]
  exact ofStatements_sections h

end Composer.Toml
