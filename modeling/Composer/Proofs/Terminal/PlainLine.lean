import Composer.Proofs.Terminal.Typing
set_option autoImplicit false

/-!
# Lines without a prompt's name

A line whose last word does not start with a slash names no prompt, and is sent. The list of prompts
gets in the way when an earlier line left it open: it stays open while the new line has a slash
anywhere, and is then filtered for what stands behind the last one. So the line is sent as it was
typed exactly if the list was closed, or the line has no slash, or nothing goes by what is behind
it.
-/

namespace Composer

/-- Whether an operation brings a prompt into the draft, asks for its variables, or runs a reserved
command. -/
def Operation.usesPrompt : Operation → Bool
  | .insertPrompt _ => true
  | .selectPrompt _ => true
  | .submitVariables _ => true
  | .applyPending _ => true
  | .runReserved _ _ => true
  | _ => false

namespace Terminal.Repl

variable {r : Repl} {initial line : String}

/-- What is told about a line that was sent as it was typed: no prompt took part, and if something
could be sent, one message was, the line with the context behind it. -/
structure SentAsTyped (r : Repl) (line : String) (told : Told LineResult) : Prop where
  goes_on : told.result = .ok true
  logged : ∃ done, told.repl.log = r.log ++ done ∧ (∀ e ∈ done, e.op.usesPrompt = false) ∧
    messagesIn done =
      if r.session.responding = false ∧
          (Text.isBlank line = false ∨ r.input.files.isEmpty = false) then
        [(composeMessage line r.input.draft.context, r.input.files.files)]
      else []
  nothing_open : told.repl.input.overlay = .none
  unlisted : ∀ groups, .prompts groups ∉ told.notices

/-- Whether the list of prompts, left open, takes a line for one of its names. -/
def Captures (r : Repl) (line : String) : Prop :=
  r.input.overlay = .slashMenu ∧
    ∃ front query, line.toList = front ++ '/' :: query ∧ '/' ∉ query ∧
      IsKnown r.prompts (String.ofList query)

/-! ## Typing the line -/

/-- A slash that triggers at the end of a line starts the line's last word. -/
theorem cutLastWord_of_isTrigger {cs : List Char}
    (h : SlashToken.isTrigger cs cs.length = true) : (Chars.cutLastWord cs).2 = ['/'] := by
  obtain ⟨front, hfront, hlast⟩ := SlashToken.isTrigger_iff.mp h
  rw [SlashToken.before_length] at hfront
  have hspace : ∀ c ∈ front.getLast?, Chars.isSpace c = true := by
    intro c hc
    rcases hlast c hc with rfl | rfl <;> decide
  have hword : ∀ c ∈ ['/'], Chars.isSpace c = false := List.forall_mem_singleton.mpr (by decide)
  rw [hfront, Chars.cutLastWord_append hword hspace]

theorem isTrigger_of_plain (h : (Chars.cutLastWord line.toList).2.head? ≠ some '/') :
    SlashToken.isTrigger line.toList line.toList.length = false := by
  cases htrigger : SlashToken.isTrigger line.toList line.toList.length with
  | false => rfl
  | true =>
    rw [cutLastWord_of_isTrigger htrigger] at h
    exact absurd rfl h

theorem typeLine_of_plain (h : (Chars.cutLastWord line.toList).2.head? ≠ some '/') :
    r.typeLine line.toList = r.typed line := by
  unfold typeLine
  split
  rename_i before word hcut
  rw [hcut] at h
  cases word with
  | nil => rfl
  | cons c cs =>
    have hc : c ≠ '/' := by simpa using h
    simp only [typed]
    split
    · rename_i heq
      exact absurd (List.cons.inj heq).1 hc
    · rfl

/-! ## Sending the line -/

/-- Once the line is the draft's text, it goes out as it was typed if anything can be sent. -/
theorem logged_send {r' : Repl} (hdraft : r'.input.draft = r.input.draft.setText line)
    (hfiles : r'.input.files = r.input.files)
    (hbusy : r'.session.responding = r.session.responding)
    (hlog : ∃ done, r'.log = r.log ++ done ∧ (∀ e ∈ done, e.op.usesPrompt = false) ∧
      messagesIn done = []) :
    ∃ done, r'.send.repl.log = r.log ++ done ∧ (∀ e ∈ done, e.op.usesPrompt = false) ∧
      messagesIn done =
        if r.session.responding = false ∧
            (Text.isBlank line = false ∨ r.input.files.isEmpty = false) then
          [(composeMessage line r.input.draft.context, r.input.files.files)]
        else [] := by
  obtain ⟨-, -, ⟨sent, hsent, hsubmits, hmessages⟩, -⟩ := r'.send_spec
  obtain ⟨done, hdone, hplain, hsilent⟩ := hlog
  refine ⟨done ++ sent, by rw [hsent, hdone, List.append_assoc], ?_, ?_⟩
  · intro e he
    rcases List.mem_append.mp he with he | he
    · exact hplain e he
    · rw [hsubmits e he]
      rfl
  · have happend : messagesIn (done ++ sent) = messagesIn done ++ messagesIn sent := by
      simp [messagesIn]
    rw [happend, hsilent, List.nil_append, hmessages, MessageInput.canSubmit, hdraft, hfiles]
    simp only [Draft.isBlank, Draft.message, Draft.setText, hbusy]
    simp

/-- If nothing is open either, all is as for a line that no prompt took part in. -/
theorem sentAsTyped_send {r' : Repl} (hinput : r'.input =
      { r.input with draft := r.input.draft.setText line, overlay := .none })
    (hbusy : r'.session.responding = r.session.responding)
    (hlog : ∃ done, r'.log = r.log ++ done ∧ (∀ e ∈ done, e.op.usesPrompt = false) ∧
      messagesIn done = []) :
    SentAsTyped r line r'.send := by
  obtain ⟨hresult, hafter, -, hunlisted⟩ := r'.send_spec
  have hlogged := logged_send (by rw [hinput]) (by rw [hinput]) hbusy hlog
  refine ⟨hresult, hlogged, ?_, hunlisted⟩
  have hover : r'.input.overlay = .none := by rw [hinput]
  rw [hafter]
  rcases r'.input.submit_cases r'.session with ⟨-, heq⟩ | ⟨-, -, heq⟩ | ⟨-, e, -, heq⟩
  · rw [heq, hover]
  · rw [heq, MessageInput.emptied, MessageInput.overlay_request, MessageInput.overlay_closeMenu,
      hover]
    rfl
  · rw [heq, MessageInput.overlay_request, hover]

/-- A list that has nothing to offer is closed first. -/
theorem sentAsTyped_send_closeMenu (hover : (r.typed line).input.overlay = .slashMenu) :
    SentAsTyped r line ((r.typed line).perform .closeMenu).repl.send := by
  have hlog : ((r.typed line).perform .closeMenu).repl.log = r.log ++
      [edited line, { op := .closeMenu, calls := [] }] := by
    rw [perform_closeMenu, log_typed, List.append_assoc]
    rfl
  refine sentAsTyped_send ?_ rfl ⟨_, hlog, ?_, rfl⟩
  · simp only [perform_closeMenu, MessageInput.closeMenu, hover]
    rw [input_typed]
    rfl
  · simp [edited, Operation.usesPrompt]

/-! ## Handling the line -/

/-- An operation with a prompt that was just performed is the last in the log. -/
theorem not_sentAsTyped_act {r' : Repl} {op : Operation} (huses : op.usesPrompt = true)
    (hlog : ∃ done, r'.log = r.log ++ done) : ¬SentAsTyped r line (r'.act op) := by
  intro hsent
  obtain ⟨earlier, hearlier⟩ := hlog
  obtain ⟨done, hdone, hplain, -⟩ := hsent.logged
  have hlogged : (r'.act op).repl.log =
      r.log ++ (earlier ++ [{ op, calls := (r'.input.perform r'.session op).calls }]) := by
    rw [← List.append_assoc, ← hearlier]
    rfl
  have hsame := List.append_cancel_left (hdone.symm.trans hlogged)
  have hno := hplain { op, calls := (r'.input.perform r'.session op).calls } (by simp [hsame])
  rw [huses] at hno
  exact absurd hno (by decide)

theorem captures_iff (hmenu : r.input.overlay = .slashMenu) {front query : List Char}
    (hline : line.toList = front ++ '/' :: query) (hquery : '/' ∉ query) :
    r.Captures line ↔ IsKnown r.prompts (String.ofList query) := by
  constructor
  · rintro ⟨-, front', query', hline', hquery', hknown⟩
    have hsplit := Chars.splitLast_append_cons hquery front
    rw [← hline, hline', Chars.splitLast_append_cons hquery'] at hsplit
    simp only [Option.some.injEq, Prod.mk.injEq] at hsplit
    rwa [← hsplit.2]
  · exact fun hknown => ⟨hmenu, front, query, hline, hquery, hknown⟩

/-- A line whose last word does not start with a slash is sent as it was typed exactly if no open
list of prompts takes it for one of its names. -/
theorem handleLine_sentAsTyped_iff (hway : r.input.overlay.givesWay = true)
    (hmessage : IsMessage initial.toList line.toList)
    (hword : (Chars.cutLastWord line.toList).2.head? ≠ some '/') :
    SentAsTyped r line (r.handleLine initial line) ↔ ¬r.Captures line := by
  have hover := overlay_typed hway (isTrigger_of_plain hword)
  rw [handleLine_of_isMessage r hmessage, handleMessage, typeLine_of_plain hword]
  by_cases hlisted : r.input.overlay = .slashMenu ∧ '/' ∈ line.toList
  · obtain ⟨hmenu, hslash⟩ := hlisted
    rw [if_pos ⟨hmenu, hslash⟩] at hover
    obtain ⟨front, query, hline, hquery⟩ := Chars.exists_last_of_mem hslash
    have hopen : (r.typed line).input.overlay.givesWay = true := by rw [hover]; rfl
    simp only [MessageInput.slashQuery?_of_setText hover draft_typed hline hquery,
      captures_iff hmenu hline hquery]
    rcases (r.typed line).selectPrompt_cases hopen (String.ofList query) with
      ⟨hempty, heq⟩ | ⟨-, command, hcommand, heq⟩ | ⟨-, -, g, hfind, heq⟩ | ⟨hunknown, heq⟩
    · simp only [heq]
      refine iff_of_false ?_ (not_not_intro (.inl hempty))
      exact fun hsent => hsent.unlisted (r.typed line).prompts (by simp [tell])
    · simp only [heq]
      refine iff_of_false ?_ (not_not_intro (.inr (.inl (by simp [hcommand]))))
      exact not_sentAsTyped_act rfl ⟨_, rfl⟩
    · simp only [heq]
      have hnamed : g.name = String.ofList query ∨ g.id = String.ofList query := by
        simpa using List.find?_some hfind
      refine iff_of_false ?_
        (not_not_intro (.inr (.inr ⟨g, List.mem_of_find?_eq_some hfind, hnamed⟩)))
      exact not_sentAsTyped_act rfl ⟨_, rfl⟩
    · simp only [heq]
      exact iff_of_true (sentAsTyped_send_closeMenu hover) hunknown
  · rw [if_neg hlisted] at hover
    have hquery : (r.typed line).input.slashQuery? = none := by
      simp only [MessageInput.slashQuery?, hover]
    simp only [hquery]
    refine iff_of_true (sentAsTyped_send ?_ rfl ⟨_, log_typed, ?_, rfl⟩) ?_
    · rw [input_typed, hover]
    · simp [edited, Operation.usesPrompt]
    · rintro ⟨hmenu, front, query, hline, -⟩
      exact hlisted ⟨hmenu, by simp [hline]⟩

/-- An open list lets a line through when nothing goes by what is behind its last slash. -/
theorem fraction_sent_over_menu :
    let r := ((fresh [{ id := "1", name := "b", text := "Hello" }]).handleLine "" "/").repl
    r.input.overlay = .slashMenu ∧ SentAsTyped r "a/c" (r.handleLine "/" "a/c") := by
  intro r
  have hmenu : r.input.overlay = .slashMenu := by decide
  have hline : "a/c".toList = ['a'] ++ '/' :: ['c'] := by decide
  refine ⟨hmenu, (handleLine_sentAsTyped_iff (by decide) ?_ (by decide)).mpr ?_⟩
  · exact commandIn?_eq_none_iff.mp (by decide)
  · rw [captures_iff hmenu hline (by decide)]
    decide

/-- After a slash on a line of its own, a line with a slash inside a word is not sent, and a prompt
takes the place of the slash and what stands behind it. -/
theorem fraction_captured_by_menu :
    let r := ((fresh [{ id := "1", name := "b", text := "Hello" }]).handleLine "" "/").repl
    let told := r.handleLine "/" "a/b"
    r.input.overlay.givesWay = true ∧ commandIn? "/".toList "a/b".toList = none ∧
      (Chars.cutLastWord "a/b".toList).2 = "a/b".toList ∧ r.session.responding = false ∧
      messagesIn told.repl.log = [] ∧ told.repl.input.draft.text = "aHello" := by
  decide

end Terminal.Repl
end Composer
