import Composer.Proofs.Draft.SlashTokens
import Composer.Proofs.MessageInput.Dialogs
import Composer.Proofs.MessageInput.Sending
set_option autoImplicit false

/-!
# Values for a dialog

A dialog shows the names that its prompt asks for. It is completed exactly if each of them has a
value that is not blank. Then the filled text takes its place in the draft and the dialog is gone;
otherwise nothing happens, and the error lists the names that are still to be filled, in the order
in which they are shown.
-/

namespace Composer

/-! ## What is shown and what is checked -/

/-- Whether a name has a value that is not blank. -/
def VariableValues.Fills (values : VariableValues) (name : String) : Prop :=
  ∃ v, values.lookup name = some v ∧ Text.isBlank v = false

namespace Template

theorem isFilled_iff {values : VariableValues} {name : String} :
    isFilled values name = true ↔ values.Fills name := by
  unfold isFilled VariableValues.Fills
  cases values.lookup name with
  | none => simp
  | some v => simp

/-- A name is missing if it is asked for and not filled. -/
theorem mem_missing_iff {template : String} {values : VariableValues} {name : String} :
    name ∈ missing template values ↔ name ∈ variableNames template ∧ ¬values.Fills name := by
  rw [missing, List.mem_filter, ← isFilled_iff, Bool.not_eq_true', Bool.not_eq_true]

theorem missing_eq_nil_iff {template : String} {values : VariableValues} :
    missing template values = [] ↔ ∀ name ∈ variableNames template, values.Fills name := by
  simp only [List.eq_nil_iff_forall_not_mem, mem_missing_iff, not_and, not_not]

end Template

/-! ## Where the text goes -/

/-- Whether the second draft is the first with a text in place of its token: of what runs from the
last slash before the cursor to the cursor, or of nothing at the cursor where no slash is before it.
-/
def Draft.TokenReplaced (d : Draft) (text : String) (d' : Draft) : Prop :=
  ∃ front token back,
    d.text.toList = front ++ token ++ back ∧ (front ++ token).length = d.cursor ∧
    ((∃ query, token = '/' :: query ∧ '/' ∉ query) ∨ (token = [] ∧ '/' ∉ front)) ∧
    d'.text.toList = front ++ text.toList ++ back ∧ d'.cursor = front.length + text.length

theorem Draft.tokenReplaced {d : Draft} (h : d.Valid) (text : String) :
    d.TokenReplaced text (d.replaceSlashToken text) := by
  have hcursor : min d.cursor d.text.toList.length = d.cursor := by
    rw [String.length_toList]
    exact Nat.min_eq_left h.cursor_le
  have hlength : (d.text.toList.take d.cursor).length = d.cursor := by
    rw [List.length_take, hcursor]
  let replaced := SlashToken.replace d.text.toList d.cursor text.toList
  have htext : (d.replaceSlashToken text).text.toList = replaced.1 := String.toList_ofList
  have hplace : (d.replaceSlashToken text).cursor = replaced.2 := by
    have hinside := SlashToken.replace_cursor_le d.text.toList d.cursor text.toList
    rw [← String.length_ofList] at hinside
    exact Nat.min_eq_left hinside
  rcases SlashToken.token_cases d.text.toList d.cursor with
    ⟨start, query, hstart, -, hinside, hbefore, habsent⟩ | ⟨hslash, hstart, -⟩
  · have hreplaced := SlashToken.replace_of_start hstart text.toList
    rw [hcursor] at hinside hreplaced
    have hfront : (d.text.toList.take start).length = start := by
      rw [List.length_take]
      omega
    refine ⟨d.text.toList.take start, '/' :: query, d.text.toList.drop d.cursor, ?_, ?_,
      .inl ⟨query, rfl, habsent⟩, ?_, ?_⟩
    · rw [← hbefore, SlashToken.before, List.take_append_drop]
    · rw [← hbefore]
      exact hlength
    · rw [htext]
      exact congrArg Prod.fst hreplaced
    · rw [hplace, hfront, ← String.length_toList]
      exact congrArg Prod.snd hreplaced
  · have hreplaced := SlashToken.replace_of_no_start hstart text.toList
    rw [hcursor] at hreplaced
    refine ⟨d.text.toList.take d.cursor, [], d.text.toList.drop d.cursor, ?_, ?_,
      .inr ⟨rfl, hslash⟩, ?_, ?_⟩
    · rw [List.append_nil, List.take_append_drop]
    · rw [List.append_nil, hlength]
    · rw [htext]
      exact congrArg Prod.fst hreplaced
    · rw [hplace, hlength, ← String.length_toList]
      exact congrArg Prod.snd hreplaced

/-! ## The dialog -/

/-- Whether each variable that the dialog shows has a value that is not blank. -/
def VariableDialog.IsFilledBy (dialog : VariableDialog) (values : VariableValues) : Prop :=
  ∀ name ∈ dialog.names, values.Fills name

namespace MessageInput

/-- What a dialog leaves that was completed with a text: the text is in the draft, a request for the
focus waits, and nothing else was touched. -/
structure CompletedWith (m : MessageInput) (dialog : VariableDialog) (text : String)
    (done : MessageInput) : Prop where
  closed : done.overlay = .none
  focus : .focusInput ∈ done.effects.queue
  whole : dialog.target = .draft → done.draft.text = text ∧ done.draft.cursor = text.length
  token : dialog.target = .slashToken → m.draft.TokenReplaced text done.draft
  context_kept : done.draft.context = m.draft.context
  rest_kept : done = { m with draft := done.draft, overlay := .none, effects := done.effects }

/-- What becomes of values for an open dialog. -/
structure Settled (m : MessageInput) (dialog : VariableDialog) (values : VariableValues)
    (r : Except Fault String × MessageInput) : Prop where
  accepted_iff : (∃ text, r.1 = .ok text) ↔ dialog.IsFilledBy values
  /-- Each name is shown once, in the order in which the names first appear in the prompt. -/
  shown : ∀ cut, Template.IsCut dialog.group.text.toList cut →
    Template.FirstAppearances cut.names dialog.names
  completed : ∀ text, r.1 = .ok text →
    text = Template.substitute dialog.group.text values ∧ m.CompletedWith dialog text r.2
  /-- The values of the names that are shown stand where the placeholders stood. -/
  filled : ∀ cut text, Template.IsCut dialog.group.text.toList cut → r.1 = .ok text →
    text.toList = cut.fill fun p => ((values.lookup (String.ofList p.name)).getD "").toList
  /-- The error lists the names that are not filled, in the order in which they are shown. -/
  refused : ∀ fault, r.1 = .error fault →
    r.2 = m ∧ ∃ names, names.Sublist dialog.names ∧
      (∀ name, name ∈ names ↔ name ∈ dialog.names ∧ ¬values.Fills name) ∧
      fault = .validation ("Missing values for: " ++ ", ".intercalate names)

section Dialog

variable {m : MessageInput} {dialog : VariableDialog} {values : VariableValues}

theorem context_inserted (target : InsertionTarget) (text : String) :
    (m.inserted target text).context = m.draft.context := by
  cases target <;> rfl

/-- A dialog without a value for each variable stays open. -/
theorem submitVariables_of_missing (hopen : m.overlay = .variableDialog dialog)
    (hmissing : Template.missing dialog.group.text values ≠ []) :
    m.submitVariables values =
      (.error (.validation ("Missing values for: "
        ++ ", ".intercalate (Template.missing dialog.group.text values))), m) := by
  rcases m.submitVariables_cases values with ⟨hnone, -⟩ | ⟨dialog', hopen', hcases⟩
  · rw [hopen] at hnone
    exact absurd hnone (by simp [Overlay.dialog?])
  · obtain rfl := Overlay.variableDialog.inj (hopen.symm.trans hopen')
    rcases hcases with ⟨-, heq⟩ | ⟨hfilled, -⟩
    · exact heq
    · exact absurd hfilled hmissing

/-- Only an open dialog is completed. -/
theorem exists_dialog_of_ok {text : String} (h : (m.submitVariables values).1 = .ok text) :
    ∃ dialog, m.overlay = .variableDialog dialog := by
  rcases m.submitVariables_cases values with ⟨-, heq⟩ | ⟨dialog, hopen, -⟩
  · rw [heq] at h
    exact absurd h (by simp)
  · exact ⟨dialog, hopen⟩

/-- Values that are refused change nothing. -/
theorem submitVariables_snd_of_error {fault : Fault}
    (h : (m.submitVariables values).1 = .error fault) : (m.submitVariables values).2 = m := by
  rcases m.submitVariables_cases values with ⟨-, heq⟩ | ⟨dialog, -, ⟨-, heq⟩ | ⟨-, heq⟩⟩
  · rw [heq]
  · rw [heq]
  · rw [heq] at h
    exact absurd h (by simp)

/-- A text that takes the place that its dialog wants. -/
theorem completedWith_inserted (hdraft : m.draft.Valid) (dialog : VariableDialog) (text : String) :
    m.CompletedWith dialog text
      ({ m with overlay := .none, draft := m.inserted dialog.target text }.request
        .focusInput) where
  closed := rfl
  focus := m.effects.mem_push .focusInput
  whole := by
    intro htarget
    rw [draft_request, htarget]
    exact ⟨rfl, rfl⟩
  token := by
    intro htarget
    rw [draft_request, htarget]
    exact Draft.tokenReplaced hdraft text
  context_kept := context_inserted dialog.target text
  rest_kept := rfl

/-- Where every name has a value, the values stand in place of all placeholders. -/
theorem toList_substitute_of_filled {template : String} {cut : Template.Cut}
    (hcut : Template.IsCut template.toList cut)
    (hfilled : ∀ name ∈ Template.variableNames template, values.Fills name) :
    (Template.substitute template values).toList =
      cut.fill fun p => ((values.lookup (String.ofList p.name)).getD "").toList := by
  rw [Template.substitute_of_isCut hcut]
  refine Template.Cut.fill_congr fun p hp => ?_
  have hasked : String.ofList p.name ∈ Template.variableNames template := by
    rw [Template.variableNames_of_isCut hcut]
    exact List.mem_eraseDups.mpr hp
  obtain ⟨v, hvalue, -⟩ := hfilled _ hasked
  rw [Template.Piece.filled, hvalue]
  rfl

/-- The step lemma: values are taken for all names, or none is. -/
theorem WellFormed.settled {classifier : PasteClassifier} (h : WellFormed classifier m)
    (hopen : m.overlay = .variableDialog dialog) (values : VariableValues) :
    m.Settled dialog values (m.submitVariables values) := by
  have hnames : dialog.names = Template.variableNames dialog.group.text := by
    have hvalid := h.overlay
    rw [hopen] at hvalid
    exact hvalid.2
  have hshown : ∀ cut, Template.IsCut dialog.group.text.toList cut →
      Template.FirstAppearances cut.names dialog.names := by
    intro cut hcut
    rw [hnames, Template.variableNames_of_isCut hcut]
    exact Template.firstAppearances_eraseDups cut.names
  have hiff : Template.missing dialog.group.text values = [] ↔ dialog.IsFilledBy values := by
    rw [Template.missing_eq_nil_iff, ← hnames, VariableDialog.IsFilledBy]
  by_cases hfilled : dialog.IsFilledBy values
  · rw [submitVariables_of_filled hopen (hiff.mpr hfilled)]
    refine ⟨iff_of_true ⟨_, rfl⟩ hfilled, hshown, ?_, ?_, by simp⟩
    · rintro text ⟨⟩
      exact ⟨rfl, completedWith_inserted h.draft dialog _⟩
    · rintro cut text hcut ⟨⟩
      rw [VariableDialog.IsFilledBy, hnames] at hfilled
      exact toList_substitute_of_filled hcut hfilled
  · rw [submitVariables_of_missing hopen (mt hiff.mp hfilled)]
    refine ⟨iff_of_false (by simp) hfilled, hshown, by simp, by simp, ?_⟩
    rintro fault ⟨⟩
    refine ⟨rfl, _, ?_, fun name => ?_, rfl⟩
    · rw [hnames]
      exact List.filter_sublist
    · rw [hnames, Template.mem_missing_iff]

end Dialog

/-- What submitting values does, with a dialog and without. -/
structure Decides (m : MessageInput) (values : VariableValues) : Prop where
  accepted_iff : (∃ text, (m.submitVariables values).1 = .ok text) ↔
    ∃ dialog, m.overlay = .variableDialog dialog ∧ dialog.IsFilledBy values
  settled : ∀ dialog, m.overlay = .variableDialog dialog →
    m.Settled dialog values (m.submitVariables values)
  kept : ∀ fault, (m.submitVariables values).1 = .error fault → (m.submitVariables values).2 = m

/-- Whatever an input was put through, values are accepted exactly if a dialog is open and each name
that it shows has one that is not blank. -/
theorem decides_after (classifier : PasteClassifier) (first : Session)
    (ops : List (Operation × Session)) (values : VariableValues) :
    ((start classifier first).after ops).Decides values := by
  have hwell := (wellFormed_start classifier first).after ops
  refine ⟨?_, fun dialog hopen => hwell.settled hopen values,
    fun fault herror => submitVariables_snd_of_error herror⟩
  constructor
  · rintro ⟨text, hok⟩
    obtain ⟨dialog, hopen⟩ := exists_dialog_of_ok hok
    exact ⟨dialog, hopen, (hwell.settled hopen values).accepted_iff.mp ⟨text, hok⟩⟩
  · rintro ⟨dialog, hopen, hfilled⟩
    exact (hwell.settled hopen values).accepted_iff.mpr hfilled

end MessageInput
end Composer
