import Composer.Proofs.Terminal.CommandLine
import Composer.Proofs.Terminal.CommandText
set_option autoImplicit false

/-!
# Items by their number

What is attached is printed in two lists, of files and of badges, with numbers that count from one.
A command takes the item out that is printed with a number; the others keep their order and are
numbered anew. A text that is no number, and a number that nothing is printed with, change nothing.
-/

namespace Composer

/-! ## Numbers -/

namespace Numeral

/-- A text denotes a number: it holds an optional plus sign and decimal digits, and the number has
no more than 64 bits. -/
def Denotes (cs : List Char) (n : Nat) : Prop :=
  ∃ ds, (cs = ds ∨ cs = '+' :: ds) ∧ ds ≠ [] ∧ (∀ d ∈ ds, isDigit d = true) ∧ ofDigits ds = n ∧
    n ≤ maxUnsigned

/-- The number that is read is the one that the text denotes. -/
theorem unsigned?_eq_some_iff {cs : List Char} {n : Nat} :
    unsigned? cs = some n ↔ Denotes cs n := by
  have hplus : ¬ isDigit '+' = true := by decide
  have hdigits : ∀ ds : List Char,
      ((if ds.isEmpty || !ds.all isDigit then none
        else if ofDigits ds ≤ maxUnsigned then some (ofDigits ds) else none) = some n ↔
      ds ≠ [] ∧ (∀ d ∈ ds, isDigit d = true) ∧ ofDigits ds = n ∧ n ≤ maxUnsigned) := by
    intro ds
    by_cases hds : ds.isEmpty || !ds.all isDigit
    · rw [if_pos hds]
      simp only [Bool.or_eq_true, List.isEmpty_iff, Bool.not_eq_true', List.all_eq_false] at hds
      refine iff_of_false (by simp) ?_
      rintro ⟨hne, hall, -⟩
      rcases hds with hempty | ⟨d, hd, hnot⟩
      · exact hne hempty
      · exact hnot (hall d hd)
    · rw [if_neg hds]
      simp only [Bool.or_eq_true, List.isEmpty_iff, Bool.not_eq_true', List.all_eq_false, not_or,
        not_exists, not_and, not_not] at hds
      rw [Option.ite_none_right_eq_some, Option.some.injEq]
      constructor
      · rintro ⟨hle, rfl⟩
        exact ⟨hds.1, hds.2, rfl, hle⟩
      · rintro ⟨-, -, rfl, hle⟩
        exact ⟨hle, rfl⟩
  unfold unsigned?
  split
  · rename_i rest
    refine (hdigits rest).trans ⟨fun h => ⟨rest, .inr rfl, h⟩, ?_⟩
    rintro ⟨ds, rfl | hds, h⟩
    · exact absurd (h.2.1 '+' List.mem_cons_self) hplus
    · obtain rfl := (List.cons.inj hds).2
      exact h
  · rename_i hother
    refine (hdigits cs).trans ⟨fun h => ⟨cs, .inl rfl, h⟩, ?_⟩
    rintro ⟨ds, rfl | rfl, h⟩
    · exact h
    · exact absurd rfl (hother ds)

end Numeral

namespace Terminal

open Numeral (Denotes)

namespace Command

variable {cs : List Char}

/-- A position is counted from zero. -/
theorem position_of_denotes {index : Nat} (h : Denotes cs (index + 1)) (usage : String) :
    position usage cs = .ok index := by
  simp only [position, Numeral.unsigned?_eq_some_iff.mpr h]

theorem position_of_zero (h : Denotes cs 0) (usage : String) :
    position usage cs = .error .indexZero := by
  simp only [position, Numeral.unsigned?_eq_some_iff.mpr h]

theorem position_of_unread (h : ∀ n, ¬Denotes cs n) (usage : String) :
    position usage cs = .error (.usage usage) := by
  have hnone : Numeral.unsigned? cs = none :=
    Option.eq_none_iff_forall_ne_some.mpr fun n hn => h n (Numeral.unsigned?_eq_some_iff.mp hn)
  simp only [position, hnone]

end Command

/-! ## Lists -/

section Lists

variable {α κ : Type} {before after : List α} {x : α}

theorem exists_split {xs : List α} {index : Nat} (h : xs[index]? = some x) :
    ∃ before after, before.length = index ∧ xs = before ++ x :: after := by
  obtain ⟨hlt, rfl⟩ := List.getElem?_eq_some_iff.mp h
  refine ⟨xs.take index, xs.drop (index + 1), List.length_take_of_le (Nat.le_of_lt hlt), ?_⟩
  rw [← List.drop_eq_getElem_cons hlt, List.take_append_drop]

/-- Where no two have the same key, all but the one with a key are the others. -/
theorem filter_key_ne [DecidableEq κ] {key : α → κ}
    (hdistinct : ((before ++ x :: after).map key).Nodup) :
    (before ++ x :: after).filter (fun y => key y != key x) = before ++ after := by
  rw [List.map_append, List.map_cons, List.nodup_middle, List.nodup_cons, ← List.map_append]
    at hdistinct
  have hother : ∀ y ∈ before ++ after, (key y != key x) = true := by
    intro y hy
    rw [bne_iff_ne]
    intro hkey
    exact hdistinct.1 (List.mem_map.mpr ⟨y, hy, hkey⟩)
  rw [List.filter_append, List.filter_cons_of_neg (by simp), ← List.filter_append,
    List.filter_eq_self.mpr hother]

end Lists

/-! ## Items -/

/-- What is attached. -/
inductive Item where
  | file (f : Attachment)
  | badge (b : Badge)
  deriving DecidableEq, Repr

/-- The lists that items are taken out of. -/
inductive Shelf where
  | files
  | badges
  deriving DecidableEq, Repr

namespace Shelf

/-- What is on the list. -/
def items (r : Repl) : Shelf → List Item
  | files => r.input.files.files.map .file
  | badges => r.input.badges.map .badge

/-- The name of the command. -/
def name : Shelf → List Char
  | files => ['r', 'm']
  | badges => ['u', 'n', 'l', 'i', 'n', 'k']

/-- How the command is used. -/
def usage : Shelf → String
  | files => ":rm <n>"
  | badges => ":unlink <n>"

/-- The command that takes out the item at a position. -/
def remove : Shelf → Nat → Command
  | files => .remove
  | badges => .unlink

/-- No item is printed with the number. -/
def missing : Shelf → Nat → LineError
  | files => .noFile
  | badges => .noArtifact

theorem not_isSpace_of_mem_name (shelf : Shelf) : ∀ c ∈ shelf.name, Chars.isSpace c = false := by
  cases shelf <;> simp [name, Chars.isSpace]

theorem ofName_name (shelf : Shelf) (cs : List Char) :
    Command.ofName (String.ofList shelf.name) cs =
      (Command.position shelf.usage cs).map shelf.remove := by
  cases shelf <;> rfl

end Shelf

namespace Item

/-- The list that the item is on. -/
def shelf : Item → Shelf
  | file _ => .files
  | badge _ => .badges

/-- How the item is printed with a number. -/
def notice (n : Nat) : Item → Notice
  | file f => .file n f
  | badge b => .badge n b

/-- What is told when the item is taken out. -/
def farewell : Item → List Notice
  | file f => [.fileRemoved f.name]
  | badge _ => []

end Item

namespace Repl

variable {r : Repl}

/-- The item is printed with the number by the command that lists what is attached. -/
def Prints (r : Repl) (n : Nat) (item : Item) : Prop :=
  item.notice n ∈ (r.handleCommand .files).notices

theorem mem_numbered {α : Type} {xs : List α} {n : Nat} {x : α} :
    (n, x) ∈ numbered xs ↔ ∃ index, n = index + 1 ∧ xs[index]? = some x := by
  rw [numbered, List.mem_iff_getElem?]
  refine exists_congr fun index => ?_
  rw [List.getElem?_zip_eq_some, and_congr_left_iff]
  intro hx
  have hlt : index < xs.length := (List.getElem?_eq_some_iff.mp hx).1
  rw [List.getElem?_range' hlt, Option.some.injEq]
  omega

/-- The numbers count the items of either list from one. -/
theorem prints_iff {n : Nat} {item : Item} :
    r.Prints n item ↔ ∃ index, n = index + 1 ∧ (item.shelf.items r)[index]? = some item := by
  have hlisted : r.Prints n item ↔ item.notice n ∈ r.listing := Iff.rfl
  rw [hlisted, listing]
  split
  · rename_i hempty
    simp only [Selection.isEmpty, Bool.and_eq_true, List.isEmpty_iff] at hempty
    cases item <;> simp [Item.notice, Item.shelf, Shelf.items, hempty.1, hempty.2]
  · cases item with
    | file f => simp [Item.notice, Item.shelf, Shelf.items, mem_numbered]
    | badge b => simp [Item.notice, Item.shelf, Shelf.items, mem_numbered]

/-! ## Lines -/

/-- A line asks to take out what an argument addresses: there is a command in it, with the name for
the list and, behind white space, the argument. -/
def Asks (initial line : String) (shelf : Shelf) (argument : String) : Prop :=
  ∃ gap after, Chars.isBlank gap = true ∧ Chars.isBlank after = true ∧
    Chars.IsTrimmed argument.toList ∧ (gap = [] → argument = "") ∧
    commandIn? initial.toList line.toList =
      some (':' :: (shelf.name ++ gap ++ argument.toList ++ after))

/-- The name ends at the first white space, and the argument is what is left when the line is
trimmed. -/
theorem ofChars_asked {shelf : Shelf} {gap argument after : List Char}
    (hgap : Chars.isBlank gap = true) (hafter : Chars.isBlank after = true)
    (htrimmed : Chars.IsTrimmed argument) (hbare : gap = [] → argument = []) :
    Command.ofChars (':' :: (shelf.name ++ gap ++ argument ++ after)) =
      (Command.position shelf.usage argument).map shelf.remove := by
  have hcolon : Chars.isSpace ':' = false := by decide
  have hname := shelf.not_isSpace_of_mem_name
  rw [← shelf.ofName_name]
  cases argument with
  | nil =>
    have hblank : Chars.isBlank (gap ++ after) = true := by
      rw [Chars.isBlank_append, hgap, hafter]
      rfl
    have hwritten : ':' :: (shelf.name ++ gap ++ [] ++ after) =
        [] ++ Command.written shelf.name [] ++ (gap ++ after) := by
      simp [Command.written]
    rw [hwritten]
    exact Command.ofChars_written hname Chars.isTrimmed_nil Chars.isBlank_nil hblank
  | cons a arguments =>
    obtain ⟨space, more, rfl⟩ := List.exists_cons_of_ne_nil fun hnil => by simpa using hbare hnil
    obtain ⟨hspace, hmore⟩ := List.forall_mem_cons.mp (Chars.isBlank_iff.mp hgap)
    have hend : Chars.trimEnd (shelf.name ++ space :: more ++ a :: arguments) =
        shelf.name ++ space :: more ++ a :: arguments :=
      htrimmed.trimEnd_append (List.cons_ne_nil a arguments) _
    have hrest : Chars.trim (more ++ a :: arguments) = a :: arguments := by
      have hsurrounded := Chars.trim_surrounded (Chars.isBlank_iff.mpr hmore) Chars.isBlank_nil
        (a :: arguments)
      rw [List.append_nil] at hsurrounded
      exact hsurrounded.trans htrimmed
    have htrim : Chars.trim (':' :: (shelf.name ++ space :: more ++ a :: arguments ++ after)) =
        ':' :: (shelf.name ++ space :: (more ++ a :: arguments)) := by
      rw [← List.cons_append, Chars.trim_append_blank hafter, Chars.trim_cons hcolon, hend,
        List.append_assoc, List.cons_append]
    simp only [Command.ofChars, htrim, Chars.splitFirst_append_cons hname hspace, hrest]

/-- The line is carried out by the position that the argument is read as. -/
theorem handleLine_asked {initial line argument : String} {shelf : Shelf}
    (h : Asks initial line shelf argument) (r : Repl) :
    (∀ index, Command.position shelf.usage argument.toList = .ok index →
      r.handleLine initial line = r.handleCommand (shelf.remove index)) ∧
    ∀ e, Command.position shelf.usage argument.toList = .error e →
      r.handleLine initial line = r.fail (.badCommand e) := by
  obtain ⟨gap, after, hgap, hafter, htrimmed, hbare, hcommand⟩ := h
  have hread : Command.ofChars (':' :: (shelf.name ++ gap ++ argument.toList ++ after)) =
      (Command.position shelf.usage argument.toList).map shelf.remove := by
    refine ofChars_asked hgap hafter htrimmed fun hnil => ?_
    rw [hbare hnil]
    rfl
  constructor
  · intro index hindex
    rw [hindex] at hread
    simp only [handleLine, hcommand, hread, Except.map]
  · intro e herror
    rw [herror] at hread
    simp only [handleLine, hcommand, hread, Except.map]

/-- The command behind the draft asks. -/
theorem asks_behind (initial w gap : String) {argument : String} (shelf : Shelf)
    (hw : Text.isBlank w = true) (hgap : Text.isBlank gap = true)
    (htrimmed : Chars.IsTrimmed argument.toList) (hbare : gap = "" → argument = "") :
    Asks initial (initial ++ w ++ (":" ++ String.ofList shelf.name ++ gap ++ argument)) shelf
      argument := by
  refine ⟨gap.toList, [], hgap, rfl, htrimmed, fun hnil => hbare (String.toList_inj.mp hnil), ?_⟩
  simp only [String.toList_append, String.toList_ofList, List.append_nil]
  exact commandIn?_behind hw rfl

/-! ## Taking an item out -/

/-- The state without an item that was printed with a number. -/
structure Loses (r : Repl) (n : Nat) (item : Item) (later : Repl) : Prop where
  split : ∃ before after, before.length + 1 = n ∧
    item.shelf.items r = before ++ item :: after ∧ item.shelf.items later = before ++ after
  others_kept : ∀ shelf ≠ item.shelf, shelf.items later = shelf.items r
  rest_kept : ∃ op, later =
    { r with
      input := { r.input with files := later.input.files, badges := later.input.badges },
      log := r.log ++ [{ op, calls := [] }] }

theorem loses_file {before after : List Attachment} {f : Attachment}
    (hsplit : r.input.files.files = before ++ f :: after) :
    r.Loses (before.length + 1) (.file f) (r.perform (.removeFile before.length)).repl := by
  have hleft : (r.perform (.removeFile before.length)).repl.input.files.files =
      before ++ after := by
    have herased : (r.perform (.removeFile before.length)).repl.input.files.files =
        r.input.files.files.eraseIdx before.length := rfl
    rw [herased, hsplit, List.eraseIdx_append_of_length_le (Nat.le_refl _), Nat.sub_self]
    rfl
  refine ⟨⟨before.map .file, after.map .file, by rw [List.length_map], ?_, ?_⟩, ?_, _, rfl⟩
  · simp [Item.shelf, Shelf.items, hsplit]
  · simp [Item.shelf, Shelf.items, hleft]
  · intro other hother
    cases other with
    | files => exact absurd rfl hother
    | badges => rfl

/-- The badge is looked for by its id, which no other has. -/
theorem loses_badge {before after : List Badge} {b : Badge}
    (hsplit : r.input.badges = before ++ b :: after)
    (hdistinct : (r.input.badges.map Badge.id).Nodup) :
    r.Loses (before.length + 1) (.badge b) (r.perform (.removeBadge b.id)).repl := by
  have hleft : (r.perform (.removeBadge b.id)).repl.input.badges = before ++ after := by
    have hfiltered : (r.perform (.removeBadge b.id)).repl.input.badges =
        r.input.badges.filter fun other => other.id != b.id := rfl
    rw [hsplit] at hdistinct
    rw [hfiltered, hsplit, filter_key_ne hdistinct]
  refine ⟨⟨before.map .badge, after.map .badge, by rw [List.length_map], ?_, ?_⟩, ?_, _, rfl⟩
  · simp [Item.shelf, Shelf.items, hsplit]
  · simp [Item.shelf, Shelf.items, hleft]
  · intro other hother
    cases other with
    | files => rfl
    | badges => exact absurd rfl hother

/-- The step lemma. -/
theorem loses_remove {shelf : Shelf} {index : Nat} {item : Item}
    (hdistinct : (r.input.badges.map Badge.id).Nodup)
    (hitem : (shelf.items r)[index]? = some item) :
    let told := r.handleCommand (shelf.remove index)
    told.result = .ok true ∧ told.notices = item.farewell ∧ r.Loses (index + 1) item told.repl := by
  intro told
  cases shelf with
  | files =>
    obtain ⟨f, hf, rfl⟩ := Option.map_eq_some_iff.mp (List.getElem?_map.symm.trans hitem)
    have htold : told = (r.perform (.removeFile index)).repl.tell [.fileRemoved f.name] := by
      simp only [told, Shelf.remove, handleCommand, hf]
    obtain ⟨before, after, rfl, hsplit⟩ := exists_split hf
    rw [htold]
    exact ⟨rfl, rfl, loses_file hsplit⟩
  | badges =>
    obtain ⟨b, hb, rfl⟩ := Option.map_eq_some_iff.mp (List.getElem?_map.symm.trans hitem)
    have htold : told = r.act (.removeBadge b.id) := by
      simp only [told, Shelf.remove, handleCommand, hb]
    obtain ⟨before, after, rfl, hsplit⟩ := exists_split hb
    rw [htold]
    exact ⟨rfl, rfl, loses_badge hsplit hdistinct⟩

theorem refused_remove {shelf : Shelf} {index : Nat} (hbeyond : (shelf.items r).length ≤ index) :
    r.handleCommand (shelf.remove index) = r.fail (shelf.missing (index + 1)) := by
  cases shelf with
  | files => exact (Refuses.remove (by simpa [Shelf.items] using hbeyond)).handleCommand
  | badges => exact (Refuses.unlink (by simpa [Shelf.items] using hbeyond)).handleCommand

/-- Why no item is taken out. -/
inductive Misses (r : Repl) (shelf : Shelf) (argument : String) : LineError → Prop where
  | unread (hunread : ∀ n, ¬Denotes argument.toList n) :
      Misses r shelf argument (.badCommand (.usage shelf.usage))
  | zero (hzero : Denotes argument.toList 0) : Misses r shelf argument (.badCommand .indexZero)
  /-- Whatever is printed has a lower number. -/
  | beyond {n : Nat} (hdenotes : Denotes argument.toList n) (hpos : n ≠ 0)
      (hlower : ∀ k item, item.shelf = shelf → r.Prints k item → k < n) :
      Misses r shelf argument (shelf.missing n)

/-- What becomes of a line that asks to take out what an argument addresses. -/
structure TakesOut (r : Repl) (shelf : Shelf) (argument : String) (told : Told LineResult) : Prop
    where
  removed : ∀ n item, Denotes argument.toList n → item.shelf = shelf → r.Prints n item →
    told.result = .ok true ∧ told.notices = item.farewell ∧ r.Loses n item told.repl
  refused : ∀ e, r.Misses shelf argument e → told = r.fail e
  /-- One or the other is the case. -/
  total : (∃ n item, Denotes argument.toList n ∧ item.shelf = shelf ∧ r.Prints n item) ∨
    ∃ e, r.Misses shelf argument e

theorem shelf_of_mem {shelf : Shelf} {item : Item} (h : item ∈ shelf.items r) :
    item.shelf = shelf := by
  cases shelf with
  | files =>
    obtain ⟨f, -, rfl⟩ := List.mem_map.mp h
    rfl
  | badges =>
    obtain ⟨b, -, rfl⟩ := List.mem_map.mp h
    rfl

/-- A number that is higher than any that is printed is that of a position behind the list. -/
theorem length_le_of_lower {shelf : Shelf} {index : Nat}
    (hlower : ∀ k item, item.shelf = shelf → r.Prints k item → k < index + 1) :
    (shelf.items r).length ≤ index := by
  by_contra hwithin
  have hlt : index < (shelf.items r).length := Nat.lt_of_not_le hwithin
  have hshelf := shelf_of_mem (List.getElem_mem hlt)
  have hprints : r.Prints (index + 1) (shelf.items r)[index] := by
    refine prints_iff.mpr ⟨index, rfl, ?_⟩
    rw [hshelf]
    exact List.getElem?_eq_getElem hlt
  exact absurd (hlower _ _ hshelf hprints) (Nat.lt_irrefl _)

/-- Every number is zero, printed, or higher than any that is printed. -/
theorem printed_or_misses (r : Repl) (shelf : Shelf) (argument : String) :
    (∃ n item, Denotes argument.toList n ∧ item.shelf = shelf ∧ r.Prints n item) ∨
      ∃ e, r.Misses shelf argument e := by
  by_cases hread : ∃ n, Denotes argument.toList n
  · obtain ⟨n, hn⟩ := hread
    cases n with
    | zero => exact .inr ⟨_, .zero hn⟩
    | succ index =>
      cases hitem : (shelf.items r)[index]? with
      | some item =>
        have hshelf := shelf_of_mem (List.mem_of_getElem? hitem)
        exact .inl ⟨index + 1, item, hn, hshelf, prints_iff.mpr ⟨index, rfl, by rw [hshelf, hitem]⟩⟩
      | none =>
        have hbehind := List.getElem?_eq_none_iff.mp hitem
        refine .inr ⟨_, .beyond hn (by simp) fun k item hshelf hprints => ?_⟩
        obtain ⟨position, rfl, hposition⟩ := prints_iff.mp hprints
        rw [hshelf] at hposition
        have hlt := (List.getElem?_eq_some_iff.mp hposition).1
        omega
  · exact .inr ⟨_, .unread (not_exists.mp hread)⟩

theorem takesOut_of_asks {initial line argument : String} {shelf : Shelf}
    (hdistinct : (r.input.badges.map Badge.id).Nodup) (h : Asks initial line shelf argument) :
    r.TakesOut shelf argument (r.handleLine initial line) := by
  obtain ⟨hread, hunread⟩ := handleLine_asked h r
  refine ⟨?_, ?_, r.printed_or_misses shelf argument⟩
  · intro n item hdenotes hshelf hprints
    obtain ⟨index, rfl, hitem⟩ := prints_iff.mp hprints
    rw [hshelf] at hitem
    rw [hread index (Command.position_of_denotes hdenotes _)]
    exact loses_remove hdistinct hitem
  · intro e hmisses
    cases hmisses with
    | unread hnone => exact hunread _ (Command.position_of_unread hnone _)
    | zero hzero => exact hunread _ (Command.position_of_zero hzero _)
    | beyond hdenotes hpos hlower =>
      obtain ⟨index, rfl⟩ := Nat.exists_eq_succ_of_ne_zero hpos
      rw [hread index (Command.position_of_denotes hdenotes _)]
      exact refused_remove (length_le_of_lower hlower)

/-! ## What is left -/

/-- The item that a line addresses. -/
def Addresses (r : Repl) (initial line : String) (item : Item) : Prop :=
  ∃ argument n, Asks initial line item.shelf argument ∧ Denotes argument.toList n ∧ r.Prints n item

/-- No item stands on a list twice. -/
theorem nodup_items (hsound : r.Sound) (hdistinct : (r.input.badges.map Badge.id).Nodup)
    (shelf : Shelf) : (shelf.items r).Nodup := by
  cases shelf with
  | files =>
    obtain ⟨classifier, hwell⟩ := hsound.input
    exact (List.Nodup.of_map _ hwell.files).map fun f g => Item.file.inj
  | badges => exact (List.Nodup.of_map _ hdistinct).map fun b c => Item.badge.inj

namespace Loses

variable {n : Nat} {item : Item} {later : Repl}

/-- The item is gone from its list, and it was on no other. -/
theorem items_eq (h : r.Loses n item later) (hnodup : ∀ shelf : Shelf, (shelf.items r).Nodup)
    (shelf : Shelf) : shelf.items later = (shelf.items r).filter (· != item) := by
  by_cases hshelf : shelf = item.shelf
  · obtain ⟨before, after, -, hbefore, hafter⟩ := h.split
    have hdistinct := hnodup item.shelf
    rw [hbefore, ← List.map_id (before ++ item :: after)] at hdistinct
    rw [hshelf, hafter, hbefore]
    exact (filter_key_ne hdistinct).symm
  · have hother : ∀ other ∈ shelf.items r, (other != item) = true := by
      intro other hmem
      rw [bne_iff_ne]
      rintro rfl
      exact hshelf (shelf_of_mem hmem).symm
    rw [h.others_kept shelf hshelf, List.filter_eq_self.mpr hother]

theorem badges_sublist (h : r.Loses n item later)
    (hnodup : ∀ shelf : Shelf, (shelf.items r).Nodup) :
    later.input.badges.Sublist r.input.badges := by
  have hitems : (later.input.badges.map Item.badge).Sublist (r.input.badges.map Item.badge) := by
    have heq := h.items_eq hnodup .badges
    simp only [Shelf.items] at heq
    rw [heq]
    exact List.filter_sublist
  obtain ⟨kept, hkept, heq⟩ := List.sublist_map_iff.mp hitems
  rwa [List.map_injective_iff.mpr (fun b c => Item.badge.inj) heq]

end Loses

/-- A line takes out the item that it addresses, or it addresses none and is refused. -/
theorem loses_or_refused {initial line argument : String} {shelf : Shelf}
    (hdistinct : (r.input.badges.map Badge.id).Nodup) (h : Asks initial line shelf argument) :
    (∃ n item, r.Addresses initial line item ∧ (r.handleLine initial line).result = .ok true ∧
      r.Loses n item (r.handleLine initial line).repl) ∨
    ((∀ item, ¬r.Addresses initial line item) ∧ ∃ e, r.handleLine initial line = r.fail e) := by
  obtain ⟨hremoved, hrefused, htotal⟩ := takesOut_of_asks hdistinct h
  rcases htotal with ⟨n, item, hdenotes, rfl, hprints⟩ | ⟨e, hmisses⟩
  · obtain ⟨hgoes, -, hloses⟩ := hremoved n item hdenotes rfl hprints
    exact .inl ⟨n, item, ⟨argument, n, h, hdenotes, hprints⟩, hgoes, hloses⟩
  · refine .inr ⟨?_, e, hrefused e hmisses⟩
    -- an item that the line addressed in another reading of it would have been taken out
    rintro item ⟨other, n, hother, hdenotes, hprints⟩
    have hgoes := ((takesOut_of_asks hdistinct hother).removed n item hdenotes rfl hprints).1
    rw [hrefused e hmisses] at hgoes
    exact absurd hgoes (by simp [fail])

end Repl

/-! ## The program -/

namespace Program

/-- The program waits for a line that is not the answer to a question, and has handled whatever has
arrived. -/
structure AtPrompt (p : Program) : Prop where
  eq : p = { repl := p.repl }
  sound : p.repl.Sound
  rest : p.repl.AtRest
  no_dialog : p.repl.input.overlay.dialog? = none

theorem atPrompt_feedAll (cfg : Config) (a : Arguments) (server : Server) (disk : Disk)
    (clock : Instant) (read : List String) :
    let p := ((start cfg a server disk clock).1.feedAll read).1
    p.isRunning = true → p.questions = none → p.AtPrompt := by
  intro p hrunning hquestions
  obtain ⟨phase, unread, hwaits, hvalid⟩ := waits_feedAll cfg a server disk clock read
  change p.Waits phase at hwaits
  change Loop.Valid ⟨p.repl, unread, phase⟩ at hvalid
  clear_value p
  cases hwaits with
  | line hnone => exact ⟨rfl, hvalid.sound, hvalid.phase, hnone⟩
  | answer hnext => exact absurd hquestions (by simp)
  | ended => exact absurd hrunning (by simp)

variable {p : Program} {line : String}

/-- Where a line leads to nothing that is to be handled, the next one is awaited at once. -/
theorem AtPrompt.feed (h : p.AtPrompt) {told : Told Repl.LineResult}
    (htold : p.repl.handleLine p.repl.input.draft.text line = told)
    (hgoes : told.result ≠ .ok false) (hrest : told.repl.AtRest)
    (hnone : told.repl.input.overlay.dialog? = none) :
    (p.feed line).1.AtPrompt ∧
      (p.feed line).1.repl.input = { told.repl.input with effects := {} } := by
  have hinput := Repl.input_pump_of_atRest hrest
  have hclosed : told.repl.pump.repl.input.overlay.dialog? = none := by
    rw [hinput]
    exact hnone
  have hsound : told.repl.Sound := by
    rw [← htold]
    exact h.sound.handleLine _ line
  have hfeed : (p.feed line).1 = { repl := told.repl.pump.repl } := by
    rw [h.eq, feed_line, takeLine_of_goes { repl := p.repl } (by rw [htold]; exact hgoes), htold,
      await_of_no_dialog hclosed]
  have hlater := ((Loop.valid_of_sound hsound []).leads (Loop.leads_pump hsound)).sound
  rw [hfeed]
  exact ⟨⟨rfl, hlater, ⟨Repl.events_pump, Repl.isStill_pump hsound.fits⟩, hclosed⟩, hinput⟩

/-- The items that lines address, one after another, each by the number that it is printed with when
its line is read. -/
inductive Addressed : Program → List String → List Item → Prop where
  | done (p : Program) : Addressed p [] []
  | hit {p : Program} {line : String} {lines : List String} {item : Item} {gone : List Item}
      (hline : p.repl.Addresses p.repl.input.draft.text line item)
      (hlines : Addressed (p.feed line).1 lines gone) : Addressed p (line :: lines) (item :: gone)
  | miss {p : Program} {line : String} {lines : List String} {gone : List Item}
      (hline : ∀ item, ¬p.repl.Addresses p.repl.input.draft.text line item)
      (hlines : Addressed (p.feed line).1 lines gone) : Addressed p (line :: lines) gone

/-- What a line that asks to take out an item leaves for the next one. -/
structure Proceeds (p later : Program) : Prop where
  at_prompt : later.AtPrompt
  draft_kept : later.repl.input.draft = p.repl.input.draft
  distinct : (later.repl.input.badges.map Badge.id).Nodup

/-- The step lemma for the program. -/
theorem AtPrompt.feed_asked (h : p.AtPrompt) (hdistinct : (p.repl.input.badges.map Badge.id).Nodup)
    {shelf : Shelf} {argument : String}
    (hasks : Repl.Asks p.repl.input.draft.text line shelf argument) :
    p.Proceeds (p.feed line).1 ∧
    ((∃ item, p.repl.Addresses p.repl.input.draft.text line item ∧
        ∀ s : Shelf, s.items (p.feed line).1.repl = (s.items p.repl).filter (· != item)) ∨
      ((∀ item, ¬p.repl.Addresses p.repl.input.draft.text line item) ∧
        ∀ s : Shelf, s.items (p.feed line).1.repl = s.items p.repl)) := by
  have hnodup := Repl.nodup_items h.sound hdistinct
  rcases Repl.loses_or_refused hdistinct hasks with
    ⟨n, item, haddresses, hresult, hloses⟩ | ⟨hnone, e, hrefused⟩
  · obtain ⟨op, hleft⟩ := hloses.rest_kept
    have hrest : (p.repl.handleLine p.repl.input.draft.text line).repl.AtRest := by
      rw [hleft]
      exact ⟨h.rest.quiet, h.rest.still⟩
    have hclosed :
        (p.repl.handleLine p.repl.input.draft.text line).repl.input.overlay.dialog? = none := by
      rw [hleft]
      exact h.no_dialog
    obtain ⟨hprompt, hinput⟩ := h.feed rfl (by simp [hresult]) hrest hclosed
    refine ⟨⟨hprompt, ?_, ?_⟩, .inl ⟨item, haddresses, fun s => ?_⟩⟩
    · rw [hinput, hleft]
    · rw [hinput]
      exact hdistinct.sublist ((hloses.badges_sublist hnodup).map _)
    · rw [← hloses.items_eq hnodup s]
      cases s <;> simp only [Shelf.items, hinput]
  · obtain ⟨hprompt, hinput⟩ := h.feed hrefused (by simp [Repl.fail]) h.rest h.no_dialog
    refine ⟨⟨hprompt, ?_, ?_⟩, .inr ⟨hnone, fun s => ?_⟩⟩
    · rw [hinput]
      rfl
    · rw [hinput]
      exact hdistinct
    · cases s <;> simp only [Shelf.items, hinput] <;> rfl

/-- The run lemma: what is left is what was there but for the items that were addressed. -/
theorem AtPrompt.feedAll_asked {lines : List String} (h : p.AtPrompt)
    (hdistinct : (p.repl.input.badges.map Badge.id).Nodup)
    (hasks : ∀ line ∈ lines, ∃ shelf argument,
      Repl.Asks p.repl.input.draft.text line shelf argument) :
    ∃ gone, p.Addressed lines gone ∧ (p.feedAll lines).1.AtPrompt ∧
      ∀ s : Shelf, s.items (p.feedAll lines).1.repl =
        (s.items p.repl).filter fun item => item ∉ gone := by
  induction lines generalizing p with
  | nil =>
    refine ⟨[], .done p, h, fun s => ?_⟩
    simp [feedAll_nil]
  | cons line lines ih =>
    obtain ⟨⟨shelf, argument, hline⟩, hlines⟩ := List.forall_mem_cons.mp hasks
    obtain ⟨hnext, hstep⟩ := h.feed_asked hdistinct hline
    -- the draft is kept, so the other lines ask the same of what this one leaves
    rw [← hnext.draft_kept] at hlines
    obtain ⟨gone, haddressed, hprompt, hleft⟩ := ih hnext.at_prompt hnext.distinct hlines
    rw [feedAll_cons]
    rcases hstep with ⟨item, haddresses, hitems⟩ | ⟨hnone, hitems⟩
    · refine ⟨item :: gone, .hit haddresses haddressed, hprompt, fun s => ?_⟩
      rw [hleft s, hitems s, List.filter_filter]
      refine List.filter_congr fun other _ => ?_
      rw [Bool.eq_iff_iff]
      simp [and_comm]
    · refine ⟨gone, .miss hnone haddressed, hprompt, fun s => ?_⟩
      rw [hleft s, hitems s]

/-- The items of either list are printed with the numbers from one on. A line with a number takes
out the item that is printed with it, whatever number it is and however it is written, and all
others keep their order. A number that is zero or higher than any that is printed, and a text that
is no number, are refused, and nothing changes. So in any run of the program any such lines leave
what was there but for the items that they addressed, each by the number that it had when its line
was read. -/
theorem taken_out_by_printed_number :
    (∀ (r : Repl) (n : Nat) (item : Item), r.Prints n item ↔
      ∃ index, n = index + 1 ∧ (item.shelf.items r)[index]? = some item) ∧
    (∀ (r : Repl) (initial line argument : String) (shelf : Shelf),
      (r.input.badges.map Badge.id).Nodup → Repl.Asks initial line shelf argument →
      r.TakesOut shelf argument (r.handleLine initial line)) ∧
    ∀ (cfg : Config) (a : Arguments) (server : Server) (disk : Disk) (clock : Instant)
      (read : List String),
      let p := ((start cfg a server disk clock).1.feedAll read).1
      p.isRunning = true → p.questions = none → (p.repl.input.badges.map Badge.id).Nodup →
      ∀ lines : List String,
        (∀ line ∈ lines, ∃ shelf argument,
          Repl.Asks p.repl.input.draft.text line shelf argument) →
        ∃ gone, p.Addressed lines gone ∧ (p.feedAll lines).1.AtPrompt ∧
          ∀ s : Shelf, s.items (p.feedAll lines).1.repl =
            (s.items p.repl).filter fun item => item ∉ gone := by
  refine ⟨fun r n item => Repl.prints_iff, ?_, ?_⟩
  · intro r initial line argument shelf hdistinct hasks
    exact Repl.takesOut_of_asks hdistinct hasks
  · intro cfg a server disk clock read p hrunning hquestions hdistinct lines hasks
    have hprompt : p.AtPrompt :=
      atPrompt_feedAll cfg a server disk clock read hrunning hquestions
    exact hprompt.feedAll_asked hdistinct hasks

/-- A disk with two files. -/
def pair : Disk := { nodes := [(["f"], .file [0x61] 0), (["g"], .file [0x62] 0)] }

/-- The second of two files is taken out only once, and a number of 65 bits addresses nothing. -/
theorem second_file_taken_out_once :
    let p := ((start strict {} creating pair ⟨0, 0⟩).1.feedAll
      [":attach f g", ":paste f", ":save t", ":say x"]).1
    let lines := ["x :rm 2", "x :rm 2", ":unlink +01", "x :rm 18446744073709551616"]
    p.isRunning = true ∧ p.questions = none ∧ (p.repl.input.badges.map Badge.id).Nodup ∧
    p.repl.input.draft.text = "x" ∧
    (∀ line ∈ lines, ∃ shelf argument, Repl.Asks "x" line shelf argument) ∧
    p.repl.TakesOut .files "2" (p.repl.handleLine "x" "x :rm 2") ∧
    (∃ gone, p.Addressed lines gone ∧ (p.feedAll lines).1.AtPrompt ∧
      ∀ s : Shelf, s.items (p.feedAll lines).1.repl =
        (s.items p.repl).filter fun item => item ∉ gone) ∧
    (p.feedAll lines).1.repl.input.files.files.map Attachment.name = ["f"] ∧
    (p.feedAll lines).1.repl.input.badges = [] := by
  intro p lines
  have hrunning : p.isRunning = true := by decide +kernel
  have hquestions : p.questions = none := by decide +kernel
  have hdistinct : (p.repl.input.badges.map Badge.id).Nodup := by decide +kernel
  have htext : p.repl.input.draft.text = "x" := by decide +kernel
  have hsecond : Repl.Asks "x" "x :rm 2" .files "2" :=
    Repl.asks_behind "x" " " " " .files rfl rfl rfl (by simp)
  have hlarge : Repl.Asks "x" "x :rm 18446744073709551616" .files "18446744073709551616" :=
    Repl.asks_behind "x" " " " " .files rfl rfl rfl (by simp)
  have hbare : Repl.Asks "x" ":unlink +01" .badges "+01" :=
    ⟨[' '], [], rfl, rfl, rfl, by simp, rfl⟩
  have hasks : ∀ line ∈ lines, ∃ shelf argument, Repl.Asks "x" line shelf argument := by
    simp only [lines, List.forall_mem_cons]
    exact ⟨⟨_, _, hsecond⟩, ⟨_, _, hsecond⟩, ⟨_, _, hbare⟩, ⟨_, _, hlarge⟩, by simp⟩
  obtain ⟨-, hstep, hrun⟩ := taken_out_by_printed_number
  have htaken := hstep p.repl "x" "x :rm 2" "2" .files hdistinct hsecond
  have hlines := hrun strict {} creating pair ⟨0, 0⟩
    [":attach f g", ":paste f", ":save t", ":say x"] hrunning hquestions hdistinct lines
    (by rw [htext]; exact hasks)
  exact ⟨hrunning, hquestions, hdistinct, htext, hasks, htaken, hlines, by decide +kernel,
    by decide +kernel⟩

end Program
end Terminal
end Composer
