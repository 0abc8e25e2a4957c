import Composer.Proofs.MessageInput.Variables
import Composer.Proofs.Terminal.Termination
import Composer.Proofs.Text.Trimming
set_option autoImplicit false

/-!
# Answers for a dialog

Once a dialog is open, the program reads one line for each name that it shows. The answers are the
lines without the white space around them, so the dialog is completed exactly if no line is blank;
otherwise it is still open, and asks again.
-/

namespace Composer

/-! ## Answers and names -/

namespace Text

/-- A text is blank if nothing is left of it without the white space around it. -/
theorem isBlank_trim_eq (s : String) : isBlank (trim s) = isBlank s := by
  have htrimmed : Chars.trim (Chars.trim s.toList) = Chars.trim s.toList :=
    Chars.isTrimmed_trim s.toList
  have hblank : Chars.isBlank (Chars.trim s.toList) = true ↔ Chars.isBlank s.toList = true := by
    rw [← Chars.trim_eq_nil_iff, htrimmed, Chars.trim_eq_nil_iff]
  rw [Bool.eq_iff_iff, isBlank, toList_trim]
  exact hblank

end Text

namespace VariableValues

variable {values : VariableValues} {name other v : String}

theorem fills_cons_self : Fills ((name, v) :: values) name ↔ Text.isBlank v = false := by
  rw [Fills, List.lookup_cons]
  simp

theorem fills_cons_of_ne (h : other ≠ name) :
    Fills ((name, v) :: values) other ↔ values.Fills other := by
  have hne : (other == name) = false := by simpa using h
  rw [Fills, Fills, List.lookup_cons, hne]

/-- With one answer for each name, all names are filled exactly if no answer is blank. -/
theorem fills_zip_iff {names lines : List String} (hnodup : names.Nodup)
    (hlength : lines.length = names.length) :
    (∀ name ∈ names, Fills (names.zip (lines.map Text.trim)) name) ↔
      ∀ line ∈ lines, Text.isBlank line = false := by
  induction names generalizing lines with
  | nil =>
    obtain rfl := List.length_eq_zero_iff.mp hlength
    simp
  | cons name names ih =>
    cases lines with
    | nil => exact absurd hlength (by simp)
    | cons line lines =>
      obtain ⟨hnew, hrest⟩ := List.nodup_cons.mp hnodup
      have hothers : ∀ other ∈ names, other ≠ name := by
        rintro other hother rfl
        exact hnew hother
      rw [List.forall_mem_cons, List.forall_mem_cons, List.map_cons, List.zip_cons_cons,
        fills_cons_self, Text.isBlank_trim_eq, ← ih hrest (Nat.succ.inj hlength)]
      refine and_congr_right fun _ => forall₂_congr fun other hother => ?_
      exact fills_cons_of_ne (hothers other hother)

end VariableValues

namespace Terminal

namespace Questions

variable {q : Questions} {name : String}

/-- The questions after more answers. -/
def notingAll (q : Questions) (lines : List String) : Questions :=
  { q with
    answers :=
      q.answers ++ (q.dialog.names.drop q.answers.length).zip (lines.map Text.trim) }

theorem notingAll_nil (q : Questions) : q.notingAll [] = q := by
  simp [notingAll]

theorem notingAll_cons (h : q.next? = some name) (line : String) (lines : List String) :
    q.notingAll (line :: lines) = (q.noting name line).notingAll lines := by
  obtain ⟨hlt, hname⟩ := List.getElem?_eq_some_iff.mp h
  have hdrop : q.dialog.names.drop q.answers.length =
      name :: q.dialog.names.drop (q.answers.length + 1) := by
    rw [List.drop_eq_getElem_cons hlt, hname]
  simp [notingAll, noting, hdrop]

/-- There is a next question while answers are missing. -/
theorem exists_next (h : q.answers.length < q.dialog.names.length) :
    ∃ name, q.next? = some name :=
  ⟨_, List.getElem?_eq_getElem h⟩

end Questions

namespace Program

variable {r : Repl} {q : Questions}

theorem feedAll_nil (p : Program) : (p.feedAll []).1 = p := rfl

/-- A line is noted as an answer while there are others to come. The last one completes the dialog
with all answers. -/
theorem feed_answered (h : q.answers.length < q.dialog.names.length) (line : String) :
    ∃ name, q.next? = some name ∧
      ((q.answers.length + 1 < q.dialog.names.length ∧
        (feed { repl := r, questions := some q } line).1 =
          { repl := r, questions := some (q.noting name line) }) ∨
      (q.answers.length + 1 = q.dialog.names.length ∧
        (feed { repl := r, questions := some q } line).1 =
          (await (answer r (q.noting name line).answers).repl).1)) := by
  obtain ⟨name, hname⟩ := q.exists_next h
  refine ⟨name, hname, ?_⟩
  have hlength : (q.noting name line).answers.length = q.answers.length + 1 := List.length_append
  rw [feed_answer]
  rcases takeAnswer_of_next { repl := r, questions := some q } hname line with
    ⟨hlast, heq⟩ | ⟨⟨other, hother⟩, heq⟩
  · have hall : q.dialog.names.length ≤ (q.noting name line).answers.length :=
      List.getElem?_eq_none_iff.mp hlast
    exact .inr ⟨by omega, heq⟩
  · obtain ⟨hlt, -⟩ := List.getElem?_eq_some_iff.mp hother
    rw [hlength] at hlt
    exact .inl ⟨hlt, heq⟩

/-- The run lemma: fewer lines than there are names to come are noted, and with as many the dialog
is completed. -/
theorem feedAll_answered (lines : List String) (hopen : q.answers.length < q.dialog.names.length)
    (hall : q.answers.length + lines.length ≤ q.dialog.names.length) :
    (q.answers.length + lines.length < q.dialog.names.length ∧
      (feedAll { repl := r, questions := some q } lines).1 =
        { repl := r, questions := some (q.notingAll lines) }) ∨
    (q.answers.length + lines.length = q.dialog.names.length ∧
      (feedAll { repl := r, questions := some q } lines).1 =
        (await (answer r (q.notingAll lines).answers).repl).1) := by
  induction lines generalizing q with
  | nil =>
    rw [Questions.notingAll_nil]
    exact .inl ⟨hopen, rfl⟩
  | cons line lines ih =>
    rw [List.length_cons] at hall ⊢
    obtain ⟨name, hname, ⟨hmore, heq⟩ | ⟨hlast, heq⟩⟩ := feed_answered (r := r) hopen line
    · have hlength : (q.noting name line).answers.length = q.answers.length + 1 :=
        List.length_append
      have hnames : (q.noting name line).dialog.names.length = q.dialog.names.length := rfl
      rw [feedAll_cons, heq, Questions.notingAll_cons hname]
      have hrest := ih (q := q.noting name line) (by omega) (by omega)
      rw [hlength, hnames, Nat.add_assoc, Nat.add_comm 1] at hrest
      exact hrest
    · obtain rfl : lines = [] := List.length_eq_zero_iff.mp (by omega)
      rw [feedAll_cons, heq, Questions.notingAll_cons hname, Questions.notingAll_nil, feedAll_nil]
      exact .inr ⟨hlast, rfl⟩

/-! ## Accepted and refused -/

variable {dialog : VariableDialog}

/-- The answers to all names of a dialog. -/
theorem answers_notingAll (dialog : VariableDialog) (lines : List String) :
    ({ dialog } : Questions).notingAll lines =
      { dialog, answers := dialog.names.zip (lines.map Text.trim) } := rfl

theorem await_of_no_dialog {r : Repl} (h : r.pump.repl.input.overlay.dialog? = none) :
    (await r).1 = { repl := r.pump.repl } := by
  unfold await
  simp only [h, ask]

theorem await_of_dialog {r : Repl} (h : r.pump.repl.input.overlay = .variableDialog dialog)
    (hnames : dialog.names ≠ []) :
    (await r).1 = { repl := r.pump.repl, questions := some { dialog } } := by
  have hsome : r.pump.repl.input.overlay.dialog? = some dialog := by
    rw [h]
    rfl
  have hasks : dialog.names.isEmpty = false := by simpa using hnames
  unfold await
  simp only [hsome, hasks, ask]
  rfl

/-- The answers are submitted, and before the next line a dialog that is still open asks again. -/
theorem await_answer {classifier : PasteClassifier} (hwell : r.input.WellFormed classifier)
    (hrest : r.AtRest) (hopen : r.input.overlay = .variableDialog dialog)
    (hnames : dialog.names ≠ []) {values : VariableValues} {later : Program}
    (hlater : later = (await (answer r values).repl).1) :
    later.repl.input = { (r.input.submitVariables values).2 with effects := {} } ∧
      (dialog.IsFilledBy values → later.questions = none) ∧
      (¬dialog.IsFilledBy values → later.questions = some { dialog }) := by
  have hsettled := hwell.settled hopen values
  have hanswered : (answer r values).repl.AtRest := ⟨hrest.quiet, hrest.still⟩
  have hdone : (answer r values).repl.input = (r.input.submitVariables values).2 := rfl
  have hinput := Repl.input_pump_of_atRest hanswered
  rw [hdone] at hinput
  by_cases hfilled : dialog.IsFilledBy values
  · obtain ⟨text, hok⟩ := hsettled.accepted_iff.mpr hfilled
    have hclosed : (r.input.submitVariables values).2.overlay = .none :=
      (hsettled.completed text hok).2.closed
    have hnone : (answer r values).repl.pump.repl.input.overlay.dialog? = none := by
      rw [hinput]
      exact congrArg Overlay.dialog? hclosed
    rw [hlater.trans (await_of_no_dialog hnone)]
    exact ⟨hinput, fun _ => rfl, fun hnot => absurd hfilled hnot⟩
  · have herror : ∃ fault, (r.input.submitVariables values).1 = .error fault := by
      cases hresult : (r.input.submitVariables values).1 with
      | error fault => exact ⟨fault, rfl⟩
      | ok text => exact absurd (hsettled.accepted_iff.mp ⟨text, hresult⟩) hfilled
    obtain ⟨fault, herror⟩ := herror
    have hsame : (r.input.submitVariables values).2 = r.input := (hsettled.refused fault herror).1
    have hdialog : (answer r values).repl.pump.repl.input.overlay = .variableDialog dialog := by
      rw [hinput, hsame]
      exact hopen
    rw [hlater.trans (await_of_dialog hdialog hnames)]
    exact ⟨hinput, fun hyes => absurd hyes hfilled, fun _ => rfl⟩

/-- Whatever was typed so far, the program is where the loop comes by. -/
theorem waits_feedAll (c : Config) (a : Arguments) (server : Server) (disk : Disk) (clock : Instant)
    (read : List String) :
    let p := ((Program.start c a server disk clock).1.feedAll read).1
    ∃ phase unread, p.Waits phase ∧ Loop.Valid ⟨p.repl, unread, phase⟩ := by
  intro p
  have hfirst := Loop.valid_start c a server disk clock (read ++ [])
  obtain ⟨phase, hwaits, hleads⟩ := leads_await hfirst.sound (read ++ [])
  rw [← Loop.program_start c a server disk clock (read ++ [])] at hwaits hleads
  have hvalid : Loop.Valid ⟨(Program.start c a server disk clock).1.repl, read ++ [], phase⟩ :=
    hfirst.leads hleads
  obtain ⟨uses, phase', unread, hwaits', -, hread⟩ := leads_feedAll read [] hwaits hvalid
  exact ⟨phase', unread, hwaits', hvalid.leads hread⟩

/-- After as many answers as there are names in front of a name, that name is asked for. -/
theorem asks_in_turn {lines : List String} {k : Nat} {name : String}
    (hname : dialog.names[k]? = some name) (hlength : dialog.names.length ≤ lines.length) :
    let asking := (feedAll { repl := r, questions := some { dialog } } (lines.take k)).1
    asking.promptText = "  \x7b\x7b" ++ name ++ "\x7d\x7d: " ∧ asking.repl = r := by
  intro asking
  obtain ⟨hlt, -⟩ := List.getElem?_eq_some_iff.mp hname
  have htake : (lines.take k).length = k := by
    rw [List.length_take]
    omega
  have hnames : ({ dialog } : Questions).dialog.names.length = dialog.names.length := rfl
  have hnoted : asking =
      { repl := r, questions := some (({ dialog } : Questions).notingAll (lines.take k)) } := by
    rcases feedAll_answered (r := r) (q := { dialog }) (lines.take k)
      (Nat.lt_of_le_of_lt (Nat.zero_le k) hlt) (by rw [htake, List.length_nil]; omega) with
      ⟨-, heq⟩ | ⟨hlast, -⟩
    · exact heq
    · rw [htake, List.length_nil] at hlast
      omega
  have hanswers : (dialog.names.zip ((lines.take k).map Text.trim)).length = k := by
    rw [List.length_zip, List.length_map, htake]
    omega
  rw [hnoted, answers_notingAll]
  refine ⟨?_, rfl⟩
  simp only [promptText, hanswers, hname]

/-- What becomes of as many lines as an open dialog shows names. -/
structure Asked (p : Program) (dialog : VariableDialog) (lines : List String) : Prop where
  opened : p.repl.input.overlay = .variableDialog dialog
  /-- No name is asked for twice. -/
  once : dialog.names.Nodup
  in_turn : ∀ k name, dialog.names[k]? = some name →
    (p.feedAll (lines.take k)).1.promptText = "  \x7b\x7b" ++ name ++ "\x7d\x7d: " ∧
      (p.feedAll (lines.take k)).1.repl = p.repl
  /-- The answers are the lines without the white space around them. -/
  submitted : (p.feedAll lines).1.repl.input =
    { (p.repl.input.submitVariables (dialog.names.zip (lines.map Text.trim))).2 with effects := {} }
  accepted_iff :
    (∃ text, (p.repl.input.submitVariables (dialog.names.zip (lines.map Text.trim))).1 = .ok text) ↔
      ∀ line ∈ lines, Text.isBlank line = false
  closed_iff : (p.feedAll lines).1.questions = none ↔ ∀ line ∈ lines, Text.isBlank line = false
  /-- A dialog that was refused asks again, for all names. -/
  asks_again : (p.feedAll lines).1.questions ≠ none →
    (p.feedAll lines).1.questions = some { dialog }

theorem asked_of_waits {r : Repl} {unread lines : List String}
    (hvalid : Loop.Valid ⟨r, unread, .asking { dialog }⟩)
    (hlength : lines.length = dialog.names.length) :
    Asked { repl := r, questions := some { dialog } } dialog lines := by
  obtain ⟨hsound, hrest, hopen, -⟩ := hvalid
  obtain ⟨classifier, hwell⟩ := hsound.input
  have hnames : dialog.names ≠ [] := hsound.dialog hopen
  have hnodup : dialog.names.Nodup := by
    have hoverlay := hwell.overlay
    dsimp only at hopen
    rw [hopen] at hoverlay
    rw [hoverlay.2]
    exact Template.nodup_eraseDups _
  let values : VariableValues := dialog.names.zip (lines.map Text.trim)
  have hfilled : dialog.IsFilledBy values ↔ ∀ line ∈ lines, Text.isBlank line = false :=
    VariableValues.fills_zip_iff hnodup hlength
  have hpositive : 0 < dialog.names.length := List.length_pos_iff.mpr hnames
  have hall : (feedAll { repl := r, questions := some { dialog } } lines).1 =
      (await (answer r values).repl).1 := by
    rcases feedAll_answered (r := r) (q := { dialog }) lines hpositive (by simp [hlength]) with
      ⟨hfewer, -⟩ | ⟨-, heq⟩
    · exact absurd hfewer (by simp [hlength])
    · exact heq
  obtain ⟨hinput, hclosed, hagain⟩ := await_answer hwell hrest hopen hnames hall
  have hiff : (feedAll { repl := r, questions := some { dialog } } lines).1.questions = none ↔
      dialog.IsFilledBy values := by
    refine ⟨fun hnone => ?_, hclosed⟩
    by_contra hnot
    exact absurd (hnone.symm.trans (hagain hnot)) (by simp)
  refine ⟨hopen, hnodup, ?_, hinput, ?_, hiff.trans hfilled, fun hsome => ?_⟩
  · intro k name hname
    exact asks_in_turn hname (by omega)
  · exact (hwell.settled hopen values).accepted_iff.trans hfilled
  · exact hagain (mt hiff.mpr hsome)

/-- Whatever the input was put through, values complete its dialog exactly if each name that the
dialog shows has one that is not blank. So the program, which asks for each of these names once,
accepts the answers exactly if none of them is blank. -/
theorem answers_accepted_iff_not_blank :
    (∀ (classifier : PasteClassifier) (first : Session) (ops : List (Operation × Session))
      (values : VariableValues),
      ((MessageInput.start classifier first).after ops).Decides values) ∧
    ∀ (c : Config) (a : Arguments) (server : Server) (disk : Disk) (clock : Instant)
      (read lines : List String) (dialog : VariableDialog),
      let p := ((Program.start c a server disk clock).1.feedAll read).1
      p.isRunning = true → p.questions = some { dialog } → lines.length = dialog.names.length →
      p.Asked dialog lines := by
  refine ⟨MessageInput.decides_after, ?_⟩
  intro c a server disk clock read lines dialog p hrunning hquestions hlength
  obtain ⟨phase, unread, hwaits, hvalid⟩ := waits_feedAll c a server disk clock read
  change p.Waits phase at hwaits
  change Loop.Valid ⟨p.repl, unread, phase⟩ at hvalid
  clear_value p
  cases hwaits with
  | line hnone => exact absurd hquestions (by simp)
  | answer hnext =>
    obtain rfl := Option.some.inj hquestions
    exact asked_of_waits hvalid hlength
  | ended => exact absurd hrunning (by simp)

/-- A letter to two people is refused without a name for the second, and then asks for both
again. -/
theorem letter_accepted_when_filled :
    let letter : PromptGroup :=
      { id := "1", name := "letter",
        text := "\x7b\x7b a \x7d\x7d and \x7b\x7bb\x7d\x7d, \x7b\x7ba\x7d\x7d" }
    let c : Config := { api := { baseUrl := "http://[::1]" }, prompts := [letter] }
    let p := ((Program.start c { prompt := some "1" } { authority := "[::1]" } {} ⟨0, 0⟩).1.feedAll
      []).1
    let dialog : VariableDialog := { group := letter, names := ["a", "b"], target := .draft }
    p.isRunning = true ∧ p.questions = some { dialog } ∧
      (p.feedAll ["Ann", " "]).1.questions = some { dialog } ∧
      ((p.feedAll ["Ann", " "]).1.feedAll [" Ann", "Bob"]).1.questions = none ∧
      (p.feedAll [" Ann", "Bob"]).1.questions = none ∧
      (p.feedAll [" Ann", "Bob"]).1.repl.input.draft.text = "Ann and Bob, Ann" := by
  intro letter c p dialog
  have hrunning : p.isRunning = true := by decide +kernel
  have hquestions : p.questions = some { dialog } := by decide +kernel
  have hrefused : p.Asked dialog ["Ann", " "] :=
    answers_accepted_iff_not_blank.2 c _ _ _ _ [] _ dialog hrunning hquestions rfl
  have haccepted : p.Asked dialog [" Ann", "Bob"] :=
    answers_accepted_iff_not_blank.2 c _ _ _ _ [] _ dialog hrunning hquestions rfl
  have hblank : ¬∀ line ∈ ["Ann", " "], Text.isBlank line = false := by decide
  have hfilled : ∀ line ∈ [" Ann", "Bob"], Text.isBlank line = false := by decide
  refine ⟨hrunning, hquestions, hrefused.asks_again (mt hrefused.closed_iff.mp hblank), ?_,
    haccepted.closed_iff.mpr hfilled, ?_⟩
  · decide +kernel
  · rw [haccepted.submitted]
    decide +kernel

end Program
end Terminal
end Composer
