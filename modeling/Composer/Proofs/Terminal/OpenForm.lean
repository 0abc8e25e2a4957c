import Composer.Proofs.MessageInput.Exclusive
import Composer.Proofs.Terminal.PlainLine
import Composer.Proofs.Terminal.PromptWord
set_option autoImplicit false

/-!
# Lines while a paste waits

The list of prompts does not open over the form that a paste waits in. So a line that is no command
is sent even if its last word names a prompt, and the form stays. The user is not asked to finish
the form first either: a prompt is refused only where the list is open, and the list gives way.
-/

namespace Composer

theorem MessageInput.overlay_of_slashQuery? {m : MessageInput} {query : String}
    (h : m.slashQuery? = some query) : m.overlay = .slashMenu := by
  unfold slashQuery? at h
  split at h
  next hmenu => exact hmenu
  next => exact absurd h (by simp)

namespace Terminal.Repl

variable {r : Repl} {initial line pending : String} {front name : List Char}

/-! ## No message is refused for an open form -/

/-- All that sending tells is that the backend is still responding. -/
theorem formOpen_not_told_send : .formOpen ∉ r.send.notices := by
  cases hnothing : r.input.draft.isBlank && r.input.files.isEmpty with
  | true => simp [send, hnothing, tell]
  | false =>
    cases hsent : (r.input.submit r.session).result with
    | true => simp [send, hnothing, hsent]
    | false =>
      simp only [send, hnothing, hsent, tell]
      cases (r.perform .submit).repl.backend.isResponding with
      | true => simp
      | false => simp

theorem formOpen_not_told_act (op : Operation) : .formOpen ∉ (r.act op).notices := by
  intro htold
  obtain ⟨call, -, hcall⟩ := List.mem_filterMap.mp htold
  cases call with
  | navigate instruction => simp [noticeOfCall] at hcall
  | submit message files => simp [noticeOfCall] at hcall
  | cancel => simp [noticeOfCall] at hcall
  | upload file sessionId => simp [noticeOfCall] at hcall
  | refresh => simp [noticeOfCall] at hcall
  | notify n => simp [noticeOfCall] at hcall

/-- There is a filter only while the list is open, and an open list refuses no prompt. -/
theorem formOpen_not_told_handleMessage (line : List Char) :
    .formOpen ∉ (r.handleMessage line).notices := by
  unfold handleMessage
  generalize r.typeLine line = typed
  cases hquery : typed.input.slashQuery? with
  | none => simpa only [hquery] using formOpen_not_told_send
  | some query =>
    have hway : typed.input.overlay.givesWay = true := by
      rw [MessageInput.overlay_of_slashQuery? hquery]
      rfl
    simp only [hquery]
    rcases typed.selectPrompt_cases hway query with
      ⟨-, heq⟩ | ⟨-, command, -, heq⟩ | ⟨-, -, g, -, heq⟩ | ⟨-, heq⟩
    · simp [heq, tell]
    · simpa only [heq] using formOpen_not_told_act _
    · simpa only [heq] using formOpen_not_told_act _
    · simpa only [heq] using formOpen_not_told_send

/-! ## Typing the line -/

theorem input_typed_of_not_givesWay (h : r.input.overlay.givesWay = false) (text : String) :
    (r.typed text).input = { r.input with draft := r.input.draft.setText text } := by
  rw [input_typed, overlay_typed_eq, MessageInput.overlayAfterEdit_of_not_givesWay h]

/-- A line may be typed in one piece or in two. Over an overlay that does not give way it comes to
the same: the line is the draft, and no call is made. -/
theorem typeLine_of_not_givesWay (h : r.input.overlay.givesWay = false) (line : String) :
    (r.typeLine line.toList).input = { r.input with draft := r.input.draft.setText line } ∧
      (r.typeLine line.toList).session.responding = r.session.responding ∧
      ∃ done, (r.typeLine line.toList).log = r.log ++ done ∧
        (∀ e ∈ done, e.op.usesPrompt = false) ∧ messagesIn done = [] := by
  by_cases hslash : (Chars.cutLastWord line.toList).2.head? = some '/'
  · obtain ⟨name, hname⟩ := List.head?_eq_some_iff.mp hslash
    obtain ⟨front, hcut⟩ : ∃ front, Chars.cutLastWord line.toList = (front, '/' :: name) :=
      ⟨_, Prod.ext rfl hname⟩
    have hfirst := input_typed_of_not_givesWay h (String.ofList (front ++ ['/']))
    rw [typeLine_of_slash hcut]
    refine ⟨?_, rfl, [edited (String.ofList (front ++ ['/'])), edited line], ?_, ?_, rfl⟩
    · rw [input_typed_of_not_givesWay (by rw [hfirst]; exact h), hfirst]
      rfl
    · rw [log_typed, log_typed, List.append_assoc]
      rfl
    · simp [edited, Operation.usesPrompt]
  · rw [typeLine_of_plain hslash]
    refine ⟨input_typed_of_not_givesWay h line, rfl, [edited line], log_typed, ?_, rfl⟩
    simp [edited, Operation.usesPrompt]

/-! ## Sending the line -/

/-- Over an overlay that does not give way, a line that is no command is sent if anything can be,
whatever its last word is, and the overlay stays. -/
theorem handleMessage_of_not_givesWay (h : r.input.overlay.givesWay = false) (line : String) :
    let told := r.handleMessage line.toList
    told.result = .ok true ∧ told.repl.input.overlay = r.input.overlay ∧
      ∃ done, told.repl.log = r.log ++ done ∧ (∀ e ∈ done, e.op.usesPrompt = false) ∧
        messagesIn done =
          if r.session.responding = false ∧
              (Text.isBlank line = false ∨ r.input.files.isEmpty = false) then
            [(composeMessage line r.input.draft.context, r.input.files.files)]
          else [] := by
  obtain ⟨hinput, hbusy, hlog⟩ := typeLine_of_not_givesWay h line
  have hway : (r.typeLine line.toList).input.overlay.givesWay = false := by rw [hinput, h]
  have hquery : (r.typeLine line.toList).input.slashQuery? = none := by
    rw [Option.eq_none_iff_forall_ne_some]
    intro query hsome
    rw [MessageInput.overlay_of_slashQuery? hsome] at hway
    exact absurd hway (by decide)
  have hsend : r.handleMessage line.toList = (r.typeLine line.toList).send := by
    simp only [handleMessage, hquery]
  obtain ⟨hresult, hafter, -⟩ := (r.typeLine line.toList).send_spec
  intro told
  rw [show told = (r.typeLine line.toList).send from hsend]
  refine ⟨hresult, ?_, logged_send (by rw [hinput]) (by rw [hinput]) hbusy hlog⟩
  rw [hafter, MessageInput.overlay_submit_of_not_givesWay hway, hinput]

/-- A line whose last word is a slash and a name is sent while a paste waits, as any line is, unless
a response is in progress. The paste keeps waiting, no prompt takes part, and the user is not asked
to finish the form first. -/
theorem name_sent_over_form (hform : r.input.overlay = .artifactForm pending)
    (hmessage : IsMessage initial.toList line.toList)
    (hword : Chars.cutLastWord line.toList = (front, '/' :: name)) :
    let told := r.handleLine initial line
    told.result = .ok true ∧ told.repl.input.overlay = .artifactForm pending ∧
      .formOpen ∉ told.notices ∧
      ∃ done, told.repl.log = r.log ++ done ∧ (∀ e ∈ done, e.op.usesPrompt = false) ∧
        messagesIn done =
          if r.session.responding then []
          else [(composeMessage line r.input.draft.context, r.input.files.files)] := by
  intro told
  have htold : told = r.handleMessage line.toList := handleLine_of_isMessage r hmessage
  obtain ⟨hline, -, -⟩ := Chars.cutLastWord_eq_iff.mp hword
  have hblank : Text.isBlank line = false := by
    simp [Text.isBlank, Chars.isBlank, hline, show Chars.isSpace '/' = false by decide]
  have hway : r.input.overlay.givesWay = false := by
    rw [hform]
    rfl
  obtain ⟨hresult, hover, done, hdone, hplain, hmessages⟩ := handleMessage_of_not_givesWay hway line
  rw [htold]
  refine ⟨hresult, hover.trans hform, formOpen_not_told_handleMessage _, done, hdone, hplain, ?_⟩
  rw [hmessages]
  cases r.session.responding with
  | true => simp
  | false => simp [hblank]

/-- The state before the first line, with a prompt and a text that was pasted and is large. -/
def pasteWaiting (g : PromptGroup) (text : String) : Repl :=
  ((start { paste := { charThreshold := 3 }, prompts := [g] } none
    { authority := "localhost:8080" } {} ⟨0, 0⟩).pasteText text).repl

/-- The name of a reserved command behind a word. -/
theorem reserved_sent_over_form :
    let r := pasteWaiting { id := "1", name := "b", text := "Hello" } "abc"
    let told := r.handleLine "" "see /create-template"
    r.input.overlay = .artifactForm "abc" ∧
      Chars.cutLastWord "see /create-template".toList =
        ("see ".toList, '/' :: ReservedCommand.createTemplate.name.toList) ∧
      told.repl.input.overlay = .artifactForm "abc" ∧ .formOpen ∉ told.notices ∧
      ∃ done, told.repl.log = r.log ++ done ∧
        messagesIn done = [("see /create-template", [])] := by
  intro r told
  have hform : r.input.overlay = .artifactForm "abc" := by decide
  have hmessage : IsMessage "".toList "see /create-template".toList :=
    commandIn?_eq_none_iff.mp (by decide)
  have hword : Chars.cutLastWord "see /create-template".toList =
      ("see ".toList, '/' :: ReservedCommand.createTemplate.name.toList) := by decide
  obtain ⟨-, hover, hunasked, done, hdone, -, hmessages⟩ :=
    name_sent_over_form hform hmessage hword
  exact ⟨hform, hword, hover, hunasked, done, hdone, hmessages.trans (by decide)⟩

/-- The name of a prompt on a line of its own. -/
theorem prompt_sent_over_form :
    let r := pasteWaiting { id := "1", name := "b", text := "Hello" } "abc"
    let told := r.handleLine "" "/b"
    r.input.overlay = .artifactForm "abc" ∧ commandIn? "".toList "/b".toList = none ∧
      Chars.cutLastWord "/b".toList = ([], ['/', 'b']) ∧ (∃ g ∈ r.prompts, g.name = "b") ∧
      messagesIn told.repl.log = [("/b", [])] ∧ told.notices.isEmpty = true := by
  decide

end Terminal.Repl
end Composer
