import Composer.Proofs.MessageInput.Edits
import Composer.Proofs.MessageInput.Responding
import Composer.Proofs.MessageInput.Withholding
import Composer.Proofs.Terminal.Refusal
set_option autoImplicit false

/-!
# The command to paste

The input says what is to become of a pasted text, and the terminal does what is left to the host. A
text is put into the draft, or held back, or dropped, and never two of these.
-/

namespace Composer.Terminal

/-! ## What may become of a text -/

/-- A small text was put at the end of the draft. A form or dialog is still open, and no form was
opened. -/
structure Inserted (before : Repl) (t : String) (after : MessageInput) : Prop where
  idle : before.session.responding = false
  small : before.input.classifier.classify t = .small
  text : after.draft.text = before.input.draft.text ++ t
  cursor : after.draft.cursor = after.draft.text.length
  pending_kept : after.overlay.pending? = before.input.overlay.pending?
  form_kept : before.input.overlay.givesWay = false → after.overlay = before.input.overlay
  way_kept : after.overlay.givesWay = before.input.overlay.givesWay

/-- A large text waits in the form as it was read, and nothing else was touched. -/
structure Held (before : Repl) (t : String) (after : MessageInput) : Prop where
  idle : before.session.responding = false
  large : before.input.classifier.classify t = .large
  free : before.input.overlay = .none ∨ before.input.overlay = .slashMenu
  held : after = { before.input with overlay := .artifactForm t }

/-- Nothing came of a text, as a response is in progress, or the text is large and something else is
open. -/
structure Dropped (before : Repl) (t : String) (after : MessageInput) : Prop where
  reason : before.session.responding = true ∨
    before.input.classifier.classify t = .large ∧ before.input.overlay ≠ .none ∧
      before.input.overlay ≠ .slashMenu
  kept : after = before.input

/-- What may become of a pasted text. -/
inductive PasteFate where
  | inserted
  | held
  | dropped
  deriving DecidableEq, Repr

namespace PasteFate

/-- Whether a text that was pasted has met a fate. -/
def Met (before : Repl) (t : String) (after : MessageInput) : PasteFate → Prop
  | inserted => Inserted before t after
  | held => Held before t after
  | dropped => Dropped before t after

/-- What decides: whether a response is in progress, the size of the text, and what is open. -/
def decided (responding : Bool) (kind : PasteKind) (overlay : Overlay) : PasteFate :=
  if responding then dropped
  else match kind with
    | .small => inserted
    | .large => if overlay.givesWay then held else dropped

/-- A fate is met by what decides alone. -/
theorem Met.eq_decided {before : Repl} {t : String} {after : MessageInput} {fate : PasteFate}
    (h : fate.Met before t after) :
    fate = decided before.session.responding (before.input.classifier.classify t)
      before.input.overlay := by
  cases fate with
  | inserted =>
    have hmet : Inserted before t after := h
    simp [decided, hmet.idle, hmet.small]
  | held =>
    have hmet : Held before t after := h
    have hway : before.input.overlay.givesWay = true := by
      rcases hmet.free with hopen | hopen
      · rw [hopen]
        rfl
      · rw [hopen]
        rfl
    simp [decided, hmet.idle, hmet.large, hway]
  | dropped =>
    have hmet : Dropped before t after := h
    rcases hmet.reason with hbusy | ⟨hlarge, hnone, hmenu⟩
    · simp [decided, hbusy]
    · have hway : before.input.overlay.givesWay = false := by
        rw [← Bool.not_eq_true]
        exact fun hgives => (Overlay.eq_of_givesWay hgives).elim hnone hmenu
      simp [decided, hlarge, hway]

end PasteFate

namespace Repl

variable {r : Repl}

/-! ## The three outcomes -/

/-- The log after a paste. -/
def pasteLogged (r : Repl) (t : String) : List LogEntry :=
  r.log ++ [{ op := .paste (.text t), calls := [] }]

/-- A paste makes no calls. -/
theorem perform_paste (r : Repl) (t : String) :
    (r.perform (.paste (.text t))).repl =
      { r with input := (r.input.paste r.session (.text t)).2, log := r.pasteLogged t } := rfl

theorem perform_changeText (r : Repl) (text : String) (cursor : Nat) :
    (r.perform (.changeText text cursor)).repl =
      { r with input := r.input.changeText text cursor,
               log := r.log ++ [{ op := .changeText text cursor, calls := [] }] } := rfl

/-- A text is inserted by the terminal, held by the input, or dropped. -/
theorem pasteText_cases (r : Repl) (t : String) :
    (r.session.responding = false ∧ r.input.classifier.classify t = .small ∧
      let longer := r.input.draft.text ++ t
      (r.pasteText t).repl =
        { r with input := r.input.changeText longer longer.length,
                 log := r.pasteLogged t ++
                   [{ op := .changeText longer longer.length, calls := [] }] }) ∨
    (r.session.responding = false ∧ r.input.classifier.classify t = .large ∧
      r.input.overlay.givesWay = true ∧
      (r.pasteText t).repl =
        { r with input := { r.input with overlay := .artifactForm t }, log := r.pasteLogged t }) ∨
    ((r.session.responding = true ∨
        r.input.classifier.classify t = .large ∧ r.input.overlay.givesWay = false) ∧
      (r.pasteText t).repl = { r with log := r.pasteLogged t }) := by
  have hpasted := r.perform_paste t
  rcases r.input.paste_cases r.session (.text t) with
    ⟨hbusy, heq⟩ | ⟨hidle, ⟨incoming, hfiles, -⟩ | ⟨text, htext, hsize⟩⟩
  · refine .inr (.inr ⟨.inl hbusy, ?_⟩)
    rw [heq] at hpasted
    simp only [pasteText, heq, hpasted, tell]
  · exact absurd hfiles (by simp)
  · obtain rfl := Clipboard.text.inj htext
    rcases hsize with ⟨hsmall, heq⟩ | ⟨hlarge, hway, heq⟩ | ⟨hlarge, hway, heq⟩
    · refine .inl ⟨hidle, hsmall, ?_⟩
      rw [heq] at hpasted
      simp only [pasteText, heq, hpasted, act, perform_changeText]
    · refine .inr (.inr ⟨.inr ⟨hlarge, hway⟩, ?_⟩)
      rw [heq] at hpasted
      simp only [pasteText, heq, hpasted, tell]
    · refine .inr (.inl ⟨hidle, hlarge, hway, ?_⟩)
      rw [heq] at hpasted
      simp only [pasteText, heq, hpasted, tell]

/-- A text that was put at the end of the draft. -/
theorem inserted_changeText {r : Repl} {t : String} (hidle : r.session.responding = false)
    (hsmall : r.input.classifier.classify t = .small) :
    let longer := r.input.draft.text ++ t
    Inserted r t (r.input.changeText longer longer.length) := by
  intro longer
  refine ⟨hidle, hsmall, rfl, Nat.min_self _, ?_, ?_, ?_⟩
  · exact MessageInput.pending?_overlayAfterEdit _ _
  · exact fun hway => MessageInput.overlayAfterEdit_of_not_givesWay hway _
  · exact MessageInput.givesWay_overlayAfterEdit _ _

/-- A text meets one fate. -/
theorem exists_met (r : Repl) (t : String) :
    ∃ fate : PasteFate, fate.Met r t (r.pasteText t).repl.input := by
  rcases r.pasteText_cases t with
    ⟨hidle, hsmall, heq⟩ | ⟨hidle, hlarge, hway, heq⟩ | ⟨hreason, heq⟩
  · refine ⟨.inserted, ?_⟩
    rw [heq]
    exact inserted_changeText hidle hsmall
  · refine ⟨.held, ?_⟩
    rw [heq]
    exact ⟨hidle, hlarge, Overlay.eq_of_givesWay hway, rfl⟩
  · refine ⟨.dropped, ?_⟩
    rw [heq]
    refine ⟨hreason.imp_right fun ⟨hlarge, hway⟩ => ⟨hlarge, ?_, ?_⟩, rfl⟩
    · rintro hnone
      rw [hnone] at hway
      exact absurd hway (by decide)
    · rintro hmenu
      rw [hmenu] at hway
      exact absurd hway (by decide)

/-- Whatever becomes of a text, of the input only the draft's text and cursor and what is open are
touched, and of all else only the log. -/
structure Confined (before after : Repl) : Prop where
  files_kept : after.input.files = before.input.files
  badges_kept : after.input.badges = before.input.badges
  context_kept : after.input.draft.context = before.input.draft.context
  tracker_kept : after.input.tracker = before.input.tracker
  input_kept : after.input =
    { before.input with draft := after.input.draft, overlay := after.input.overlay }
  rest_kept : after = { before with input := after.input, log := after.log }
  /-- What is logged has called nobody. -/
  quiet : ∃ done, after.log = before.log ++ done ∧ ∀ entry ∈ done, entry.calls = []

theorem confined_pasteText (r : Repl) (t : String) : Confined r (r.pasteText t).repl := by
  rcases r.pasteText_cases t with ⟨-, -, heq⟩ | ⟨-, -, -, heq⟩ | ⟨-, heq⟩
  · rw [heq]
    refine ⟨rfl, rfl, rfl, rfl, rfl, rfl, _, List.append_assoc _ _ _, by simp⟩
  · rw [heq]
    exact ⟨rfl, rfl, rfl, rfl, rfl, rfl, _, rfl, by simp⟩
  · rw [heq]
    exact ⟨rfl, rfl, rfl, rfl, rfl, rfl, _, rfl, by simp⟩

/-- A large text is held if it can be, and is in the draft in no case. -/
theorem input_pasteText_of_large {t : String} (h : r.input.classifier.classify t = .large) :
    (r.pasteText t).repl.input =
      if r.session.responding = false ∧ r.input.overlay.givesWay = true then
        { r.input with overlay := .artifactForm t }
      else r.input := by
  rcases r.pasteText_cases t with
    ⟨-, hsmall, -⟩ | ⟨hidle, -, hway, heq⟩ | ⟨hbusy | ⟨-, hway⟩, heq⟩
  · exact absurd (hsmall.symm.trans h) (by decide)
  · rw [heq, if_pos ⟨hidle, hway⟩]
  · rw [heq, if_neg (by simp [hbusy])]
  · rw [heq, if_neg (by simp [hway])]

theorem draft_pasteText_of_large {t : String} (h : r.input.classifier.classify t = .large) :
    (r.pasteText t).repl.input.draft = r.input.draft := by
  rw [input_pasteText_of_large h]
  split <;> rfl

/-- Two large texts leave inputs that differ in the text that waits alone. -/
theorem masked_pasteText_of_large {t t' : String} (h : r.input.classifier.classify t = .large)
    (h' : r.input.classifier.classify t' = .large) :
    (r.pasteText t').repl.input.masked = (r.pasteText t).repl.input.masked := by
  rw [input_pasteText_of_large h, input_pasteText_of_large h']
  split <;> rfl

/-! ## The command -/

theorem handleLine_of_paste {initial line : String} {command : List Char} {path t : String}
    (hcommand : commandIn? initial.toList line.toList = some command)
    (hread : Command.ofChars command = .ok (.paste path)) (hfile : r.disk.text path = .ok t) :
    r.handleLine initial line = r.pasteText t := by
  simp only [handleLine, hcommand, hread, handleCommand, hfile]

/-- A text that the command has read meets exactly one fate, which is decided by whether a response
is in progress, by the size of the text, and by what is open. Files, badges, context and session are
as they were. A large text leaves the draft as it is, and has no part in it later either: whatever
the input is put through, its draft is the one that any other large text would have led to. -/
theorem pasted_text_meets_one_fate {r : Repl} {initial line : String} {command : List Char}
    {path t : String} (hcommand : commandIn? initial.toList line.toList = some command)
    (hread : Command.ofChars command = .ok (.paste path)) (hfile : r.disk.text path = .ok t) :
    let told := r.handleLine initial line
    let kind := r.input.classifier.classify t
    told.result = .ok true ∧
    (∀ fate : PasteFate, fate.Met r t told.repl.input ↔
      fate = .decided r.session.responding kind r.input.overlay) ∧
    Confined r told.repl ∧
    (kind = .large → told.repl.input.draft = r.input.draft ∧
      ∀ other, r.input.classifier.classify other = .large → ∀ ops,
        (told.repl.input.after ops).draft =
          ((r.pasteText other).repl.input.after ops).draft) := by
  intro told kind
  have htold : told = r.pasteText t := handleLine_of_paste hcommand hread hfile
  rw [htold]
  refine ⟨result_pasteText r t, ?_, confined_pasteText r t, fun hlarge => ⟨?_, ?_⟩⟩
  · intro fate
    refine ⟨PasteFate.Met.eq_decided, ?_⟩
    rintro rfl
    obtain ⟨fate, hmet⟩ := exists_met r t
    exact hmet.eq_decided ▸ hmet
  · exact draft_pasteText_of_large hlarge
  · intro other hother ops
    exact MessageInput.draft_after_of_masked (masked_pasteText_of_large hother hlarge) ops

/-- Where three characters are too many, a file of three is held back from the draft that the line
was filled with, and another large text would not show in a message that is typed later. -/
theorem abc_held_back :
    let disk : Disk := { nodes := [(["f"], .file [0x61, 0x62, 0x63] 0)] }
    let begun := start { paste := { charThreshold := 3 } } none { authority := "[::1]" } disk ⟨0, 0⟩
    let r := (begun.perform (.changeText "hi" 2)).repl
    let told := r.handleLine "hi" "hi :paste f"
    commandIn? "hi".toList "hi :paste f".toList = some ":paste f".toList ∧
      Command.ofChars ":paste f".toList = .ok (.paste "f") ∧ r.disk.text "f" = .ok "abc" ∧
      PasteFate.held.Met r "abc" told.repl.input ∧ told.repl.input.draft.text = "hi" ∧
      (told.repl.input.after [(.submit, .idle)]).draft =
        ((r.pasteText "xyz").repl.input.after [(.submit, .idle)]).draft := by
  intro disk begun r told
  have hcommand : commandIn? "hi".toList "hi :paste f".toList = some ":paste f".toList := by decide
  have hread : Command.ofChars ":paste f".toList = .ok (.paste "f") := by decide
  have hfile : r.disk.text "f" = .ok "abc" := by decide +kernel
  have hlarge : ∀ t ∈ ["abc", "xyz"], r.input.classifier.classify t = .large := by decide
  have hdecided : PasteFate.held =
      .decided r.session.responding (r.input.classifier.classify "abc") r.input.overlay := by
    decide
  obtain ⟨-, hfate, -, hwithheld⟩ := pasted_text_meets_one_fate hcommand hread hfile
  obtain ⟨hdraft, hlater⟩ := hwithheld (hlarge "abc" (by simp))
  refine ⟨hcommand, hread, hfile, (hfate _).mpr hdecided, ?_, ?_⟩
  · exact congrArg Draft.text hdraft
  · exact hlater "xyz" (hlarge "xyz" (by simp)) _

end Repl
end Composer.Terminal
