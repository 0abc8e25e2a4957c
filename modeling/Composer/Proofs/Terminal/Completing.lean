import Composer.Proofs.Text.Slicing
import Composer.Terminal.Completion
import Mathlib.Data.List.Basic
set_option autoImplicit false

/-!
# Completion extends the line

The part of a line that is completed is the whole line if it is typed as a command, and its last
word otherwise. It starts between two characters, and every name that is offered for it begins
with it, so a name put in its place leaves what was typed and adds to it. The hint is what the
first name adds that is longer.
-/

namespace Composer.Terminal.Completion

/-- The bytes of the first characters lead behind them. -/
theorem upTo_append (before after : List Char) :
    upTo (Utf8.size before) (before ++ after) = before := by
  induction before with
  | nil =>
    cases after with
    | nil => rfl
    | cons c after => exact if_pos c.utf8Size_pos
  | cons c before ih =>
    rw [List.cons_append, Utf8.size, upTo, if_neg (Nat.not_lt.mpr (Nat.le_add_right _ _)),
      Nat.add_sub_cancel_left, ih]

/-! ## The part that is completed -/

/-- A line that is typed as a command. -/
def IsCommandTyped (line : String) : Prop := line.toList.head? = some ':' ∧ ' ' ∉ line.toList

/-- A line is cut in front of its last word. -/
structure IsLastWord (line front word : String) : Prop where
  line_eq : line = front ++ word
  no_space : ∀ c ∈ word.toList, Chars.isSpace c = false
  behind_space : ∀ c ∈ front.toList.getLast?, Chars.isSpace c = true

/-- The names behind a slash: those of the prompts in their order, then the reserved commands. -/
def slashNames (groups : List PromptGroup) : List String :=
  groups.map (fun g => "/" ++ g.name) ++ ReservedCommand.all.map fun c => "/" ++ c.name

/-- What of a line is completed, what stands in front of it, and the names that
may take its place. -/
inductive Completed (groups : List PromptGroup) (line : String) :
    (front typed : String) → (names : List String) → Prop where
  | command (h : IsCommandTyped line) : Completed groups line "" line Command.names
  | name {front word : String} (h : ¬IsCommandTyped line) (hword : IsLastWord line front word)
      (hslash : word.toList.head? = some '/') : Completed groups line front word (slashNames groups)
  | nothing {front word : String} (h : ¬IsCommandTyped line) (hword : IsLastWord line front word)
      (hslash : word.toList.head? ≠ some '/') : Completed groups line front word []

/-- The names that begin with a text. -/
def startingWith (names : List String) (typed : String) : List String :=
  names.filter fun name => Text.startsWith name typed

variable {groups : List PromptGroup} {line front typed : String} {names : List String}

theorem Completed.line_eq (h : Completed groups line front typed names) :
    line = front ++ typed := by
  cases h with
  | command => simp
  | name _ hword => exact hword.line_eq
  | nothing _ hword => exact hword.line_eq

theorem isCommandTyped_iff : IsCommandTyped line ↔
    (decide (line.toList.head? = some ':') && !line.toList.contains ' ') = true := by
  simp [IsCommandTyped]

/-- Every line has such a part, and it is what completion works with. -/
theorem exists_completed (groups : List PromptGroup) (line : String) :
    ∃ front typed names, Completed groups line front typed names ∧
      typedPart line.toList = (front.toList, typed.toList) ∧
      (ofPrompts groups).candidates line.toList = startingWith names typed := by
  by_cases hcommand : IsCommandTyped line
  · have htest := isCommandTyped_iff.mp hcommand
    have hpart : typedPart line.toList = ([], line.toList) := by rw [typedPart, if_pos htest]
    refine ⟨"", line, Command.names, .command hcommand, hpart, ?_⟩
    rw [candidates, if_pos htest, hpart]
    rfl
  · have htest := mt isCommandTyped_iff.mpr hcommand
    have hpart : typedPart line.toList = Chars.cutLastWord line.toList := by
      rw [typedPart, if_neg htest]
    let front := String.ofList (Chars.cutLastWord line.toList).1
    let word := String.ofList (Chars.cutLastWord line.toList).2
    have hfront : front.toList = (Chars.cutLastWord line.toList).1 := String.toList_ofList
    have hword : word.toList = (Chars.cutLastWord line.toList).2 := String.toList_ofList
    obtain ⟨hcut, hno, hbehind⟩ := Chars.cutLastWord_spec line.toList
    rw [← hfront] at hbehind
    rw [← hword] at hno
    rw [← hfront, ← hword, ← String.toList_append] at hcut
    have hlast : IsLastWord line front word := ⟨String.toList_injective hcut, hno, hbehind⟩
    have hcandidates : (ofPrompts groups).candidates line.toList =
        if word.toList.head? = some '/' then startingWith (slashNames groups) word else [] := by
      rw [candidates, if_neg htest, hpart, ← hword]
      rfl
    by_cases hslash : word.toList.head? = some '/'
    · refine ⟨front, word, slashNames groups, .name hcommand hlast hslash, ?_, ?_⟩
      · rw [hpart, hfront, hword]
      · rw [hcandidates, if_pos hslash]
    · refine ⟨front, word, [], .nothing hcommand hlast hslash, ?_, ?_⟩
      · rw [hpart, hfront, hword]
      · rw [hcandidates, if_neg hslash]
        rfl

/-! ## Names that are offered -/

theorem startsWith_of_mem_startingWith {name : String} (h : name ∈ startingWith names typed) :
    ∃ more, name = typed ++ more := by
  have hprefix := (List.mem_filter.mp h).2
  rw [Text.startsWith, List.isPrefixOf_iff_prefix] at hprefix
  obtain ⟨more, hmore⟩ := hprefix
  exact ⟨String.ofList more, String.toList_injective (by simp [hmore])⟩

theorem complete_append (c : Completion) (before after : String) :
    c.complete (before ++ after) before.utf8ByteSize =
      c.complete before before.utf8ByteSize := by
  have hall := upTo_append before.toList []
  rw [List.append_nil] at hall
  rw [complete, complete, String.toList_append, ← Utf8.size_toList, upTo_append, hall]

theorem complete_at_end (c : Completion) (line : String) :
    c.complete line line.utf8ByteSize = (start line.toList, c.candidates line.toList) := by
  have hall := upTo_append line.toList []
  rw [List.append_nil] at hall
  rw [complete, ← Utf8.size_toList, hall]

/-! ## The hint -/

theorem hint_of_lt (c : Completion) {position : Nat} (h : position < line.utf8ByteSize) :
    c.hint line position = none := by
  rw [← Utf8.size_toList] at h
  simp [hint, h]

/-- The first name that is longer than what is typed, if anything may be hinted at. -/
theorem hint_at_end (c : Completion) {offered : List String}
    (htyped : typedPart line.toList = (front.toList, typed.toList))
    (hoffered : c.candidates line.toList = offered) :
    c.hint line line.utf8ByteSize =
      if typed.utf8ByteSize < 2 then none
      else (offered.find? fun name => typed.utf8ByteSize < name.utf8ByteSize).map fun name =>
        String.ofList (name.toList.drop typed.toList.length) := by
  simp only [hint, htyped, hoffered, Utf8.size_toList]
  simp

/-- What is hinted at behind a line: the rest of the first name that is longer. -/
structure IsHint (line front typed : String) (offered : List String) (hint : String) : Prop where
  not_empty : hint ≠ ""
  completes : ∃ earlier name later, offered = earlier ++ name :: later ∧
    (∀ short ∈ earlier, short.utf8ByteSize ≤ typed.utf8ByteSize) ∧
    typed.utf8ByteSize < name.utf8ByteSize ∧ line ++ hint = front ++ name

/-- A longer name that begins with what is typed adds something to the line. -/
theorem isHint_drop {offered earlier later : List String} {name : String}
    (hline : line = front ++ typed) (hoffered : offered = earlier ++ name :: later)
    (hshort : ∀ short ∈ earlier, short.utf8ByteSize ≤ typed.utf8ByteSize)
    (hlong : typed.utf8ByteSize < name.utf8ByteSize) (hstart : ∃ more, name = typed ++ more) :
    IsHint line front typed offered (String.ofList (name.toList.drop typed.toList.length)) := by
  obtain ⟨more, rfl⟩ := hstart
  have hrest : String.ofList ((typed ++ more).toList.drop typed.toList.length) = more := by
    rw [String.toList_append, List.drop_left, String.ofList_toList]
  rw [hrest]
  refine ⟨?_, earlier, typed ++ more, later, hoffered, hshort, hlong, ?_⟩
  · rintro rfl
    rw [String.append_empty] at hlong
    exact Nat.lt_irrefl _ hlong
  · rw [hline, String.append_assoc]

/-- What is offered behind a line for a part of it. -/
structure Offers (c : Completion) (line front typed : String) (offered : List String) : Prop where
  complete_eq : c.complete line line.utf8ByteSize = (front.utf8ByteSize, offered)
  extends_line : ∀ name ∈ offered, ∃ more, front ++ name = line ++ more
  hint_iff : (∃ hint, c.hint line line.utf8ByteSize = some hint) ↔
    2 ≤ typed.utf8ByteSize ∧ ∃ name ∈ offered, typed.utf8ByteSize < name.utf8ByteSize
  isHint : ∀ hint, c.hint line line.utf8ByteSize = some hint → IsHint line front typed offered hint

theorem offers_of_typedPart {c : Completion} (hline : line = front ++ typed)
    (hpart : typedPart line.toList = (front.toList, typed.toList))
    (hoffered : c.candidates line.toList = startingWith names typed) :
    c.Offers line front typed (startingWith names typed) := by
  have hhint := c.hint_at_end hpart hoffered
  refine ⟨?_, ?_, ?_, ?_⟩
  · rw [complete_at_end, hoffered, start, hpart, Utf8.size_toList]
  · intro name hname
    obtain ⟨more, rfl⟩ := startsWith_of_mem_startingWith hname
    exact ⟨more, by rw [hline, String.append_assoc]⟩
  · rw [hhint]
    split
    next hshort =>
      refine iff_of_false (by simp) ?_
      rintro ⟨hlong, -⟩
      omega
    next hlong =>
      have hfound : ∀ found : Option String,
          (∃ hint, found.map (fun name : String =>
            String.ofList (name.toList.drop typed.toList.length)) = some hint) ↔
            found.isSome = true := by
        intro found
        cases found <;> simp
      rw [hfound, List.find?_isSome]
      simp only [decide_eq_true_eq]
      exact ⟨fun hlonger => ⟨Nat.not_lt.mp hlong, hlonger⟩, fun hboth => hboth.2⟩
  · intro hint hsome
    rw [hhint] at hsome
    split at hsome
    next => cases hsome
    next =>
      obtain ⟨name, hfind, rfl⟩ := Option.map_eq_some_iff.mp hsome
      obtain ⟨hlong, earlier, later, hall, hshort⟩ := List.find?_eq_some_iff_append.mp hfind
      have hmem : name ∈ startingWith names typed := by simp [hall]
      refine isHint_drop hline hall (fun short hearlier => ?_) (by simpa using hlong)
        (startsWith_of_mem_startingWith hmem)
      simpa using hshort short hearlier

/-- With the cursor at its end, a line is completed from its last word, or as a whole if it is
typed as a command: the names that begin with this part are offered in their order for the place
where it starts, and any of them put there extends the line. There is a hint exactly if two bytes
are typed and one of the names is longer, and then it is what the first of these adds. With the
cursor before the end nothing is hinted at, and the line counts up to the cursor. -/
theorem completion_extends_line (groups : List PromptGroup) (line : String) :
    (∃ front typed names, Completed groups line front typed names ∧
      (ofPrompts groups).Offers line front typed (startingWith names typed)) ∧
    (∀ position < line.utf8ByteSize, (ofPrompts groups).hint line position = none) ∧
    ∀ before after, line = before ++ after →
      (ofPrompts groups).complete line before.utf8ByteSize =
        (ofPrompts groups).complete before before.utf8ByteSize := by
  obtain ⟨front, typed, names, hcompleted, hpart, hoffered⟩ := exists_completed groups line
  refine ⟨⟨front, typed, names, hcompleted, ?_⟩, fun _ h => hint_of_lt _ h, ?_⟩
  · exact offers_of_typedPart hcompleted.line_eq hpart hoffered
  · rintro before after rfl
    exact complete_append _ before after

/-- A name behind an ideographic space, which takes three bytes, and the cursor behind the slash. -/
theorem name_completed_behind_wide_space :
    let c := ofPrompts
      [{ id := "1", name := "été", text := "x" }, { id := "2", name := "x", text := "y" }]
    let line := "日\u3000/é"
    6 < line.utf8ByteSize ∧ line = "日\u3000/" ++ "é" ∧
      c.complete line line.utf8ByteSize = (6, ["/été"]) ∧
      c.hint line line.utf8ByteSize = some "té" ∧ c.hint line 6 = none ∧
      c.complete line "日\u3000/".utf8ByteSize = (6, ["/été", "/x", "/create-template"]) := by
  intro c line
  obtain ⟨-, hbefore, hcut⟩ := completion_extends_line
    [{ id := "1", name := "été", text := "x" }, { id := "2", name := "x", text := "y" }] line
  have hcursor : 6 < line.utf8ByteSize := by decide
  have hline : line = "日\u3000/" ++ "é" := by decide
  exact ⟨hcursor, hline, by decide, by decide, hbefore 6 hcursor,
    (hcut _ _ hline).trans (by decide)⟩

end Composer.Terminal.Completion
