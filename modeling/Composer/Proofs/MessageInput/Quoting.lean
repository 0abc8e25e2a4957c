import Composer.Proofs.MessageInput.Responding
import Composer.Proofs.Text.Lines
set_option autoImplicit false

/-!
# Quoted selections

A selected text is quoted line by line, each behind a mark, under a header; no line of it stands
in the block without its mark, and the lines can be read off the block again. A follow-up question
carries the block along: it is the context of the draft, or it was sent with the question, word
for word.
-/

namespace Composer

/-! ## The block -/

/-- How a line is quoted. -/
inductive Quotes : List Char → List Char → Prop where
  | empty : Quotes [] ['>']
  | text {line : List Char} (h : line ≠ []) : Quotes line ('>' :: ' ' :: line)

/-- A quoted line without its mark. -/
def unquoteLine? : List Char → Option (List Char)
  | ['>'] => some []
  | '>' :: ' ' :: line => some line
  | _ => none

/-- The first line of a block. -/
def quotationHeader : List Char := "Regarding this selection:".toList

theorem quotes_quoteLine (line : List Char) : Quotes line (quoteLine line) := by
  cases line with
  | nil => exact .empty
  | cons c line => exact .text (List.cons_ne_nil c line)

theorem Quotes.unquoteLine? {line quoted : List Char} (h : Quotes line quoted) :
    unquoteLine? quoted = some line := by
  cases h <;> rfl

theorem newline_not_mem_quoteLine {line : List Char} (h : '\n' ∉ line) : '\n' ∉ quoteLine line := by
  cases line with
  | nil => decide
  | cons c line =>
    rw [List.mem_cons, not_or] at h
    simp [quoteLine, h.1, h.2]

/-- The lines of a trimmed text, quoted. -/
def quotedLines (selected : String) : List (List Char) :=
  (Chars.lines (Chars.trim selected.toList)).map quoteLine

theorem newline_not_mem_quotedLines {selected : String} {quoted : List Char}
    (h : quoted ∈ quotedLines selected) : '\n' ∉ quoted := by
  obtain ⟨line, hline, rfl⟩ := List.mem_map.mp h
  exact newline_not_mem_quoteLine (Chars.newline_not_mem hline)

theorem toList_quoteSelection (selected : String) :
    (quoteSelection selected).toList =
      quotationHeader ++ ['\n'] ++ List.intercalate ['\n'] (quotedLines selected) := by
  have hheader : "Regarding this selection:\n".toList = quotationHeader ++ ['\n'] := by decide
  have hblock : (quoteSelection selected).toList = "Regarding this selection:\n".toList ++
      (String.ofList (List.intercalate ['\n'] (quotedLines selected))).toList :=
    String.toList_append
  -- each part by itself: a rewrite would compare the header with the other text
  exact hblock.trans (congrArg₂ (· ++ ·) hheader String.toList_ofList)

/-- The lines of a block are the header and the quoted lines. -/
theorem splitOn_quoteSelection {selected : String} (h : Text.trim selected ≠ "") :
    (quoteSelection selected).toList.splitOn '\n' = quotationHeader :: quotedLines selected := by
  have htrim : Chars.trim selected.toList ≠ [] := by
    rwa [← Text.toList_trim, Ne, String.toList_eq_nil_iff]
  have hquoted : quotedLines selected ≠ [] := by
    rw [quotedLines, Ne, List.map_eq_nil_iff]
    exact Chars.lines_ne_nil htrim
  have hinside : ∀ line ∈ quotationHeader :: quotedLines selected, '\n' ∉ line := by
    rw [List.forall_mem_cons]
    exact ⟨by decide, fun quoted => newline_not_mem_quotedLines⟩
  have hjoined : (quoteSelection selected).toList =
      List.intercalate ['\n'] (quotationHeader :: quotedLines selected) := by
    obtain ⟨first, rest, hlines⟩ := List.exists_cons_of_ne_nil hquoted
    rw [toList_quoteSelection, hlines, List.intercalate_cons_cons]
  rw [hjoined, List.splitOn_intercalate '\n' hinside (List.cons_ne_nil _ _)]

/-! ## The question that carries it -/

namespace MessageInput

theorem context_asking (m : MessageInput) (selected : String) (question : Option String) :
    (m.asking selected question).draft.context = some (quoteSelection selected) := by
  simp only [asking, Draft.setContext]
  exact Text.nonBlank?_of_not_isBlank (isBlank_quoteSelection selected)

theorem message_asking {question : String} (h : Text.isBlank question = false) (m : MessageInput)
    (selected : String) :
    (m.asking selected (some question)).draft.message =
      question ++ "\n\n" ++ quoteSelection selected := by
  have hquoted := Text.nonBlank?_of_not_isBlank (isBlank_quoteSelection selected)
  simp only [asking_of_question h, Draft.message, composeMessage, hquoted, h, Bool.false_eq_true,
    if_false]

/-- No call of the list sends a message that is taken. -/
def NothingTaken (session : Session) (calls : List Call) : Prop :=
  ∀ message files, .submit message files ∈ calls → session.submit files message ≠ .ok ()

/-- A submit keeps the draft and sends nothing that is taken, or it sends the draft's message. -/
theorem submit_kept_or_taken (m : MessageInput) (session : Session) :
    ((m.submit session).input.draft = m.draft ∧ NothingTaken session (m.submit session).calls) ∨
    (session.submit m.files.files m.draft.message = .ok () ∧
      (m.submit session).input.draft = {} ∧
      (m.submit session).calls = [.submit m.draft.message m.files.files]) := by
  rcases m.submit_cases session with ⟨-, heq⟩ | ⟨-, hok, heq⟩ | ⟨-, e, herror, heq⟩
  · rw [heq]
    exact .inl ⟨rfl, fun message files hmem => absurd hmem List.not_mem_nil⟩
  · rw [heq]
    exact .inr ⟨hok, rfl, rfl⟩
  · rw [heq]
    refine .inl ⟨rfl, ?_⟩
    intro message files hmem
    simp only [List.mem_cons, List.not_mem_nil, or_false, Call.submit.injEq, failure,
      reduceCtorEq] at hmem
    obtain ⟨rfl, rfl⟩ := hmem
    simp [herror]

/-- After a follow-up question the block is the draft's context and no message was taken, or the
question was taken with the block behind it. -/
theorem followUp_kept_or_taken (m : MessageInput) (session : Session) (selected : String)
    (question : Option String) (autoSubmit : Bool) :
    let block := quoteSelection selected
    let r := m.handleSignal session (.followUp selected question autoSubmit)
    (r.input.draft.context = some block ∧ NothingTaken session r.calls) ∨
    ∃ q, question = some q ∧ Text.isBlank q = false ∧ autoSubmit = true ∧
      session.submit m.files.files (q ++ "\n\n" ++ block) = .ok () ∧ r.input.draft = {} ∧
      r.calls = [.submit (q ++ "\n\n" ++ block) m.files.files] := by
  intro block r
  have hcontext : (m.asking selected question).draft.context = some block :=
    m.context_asking selected question
  have hr : r = _ := handleSignal_followUp m session selected question autoSubmit
  by_cases hsend : (autoSubmit && (Text.nonBlank? question).isSome) = true
  · rw [if_pos hsend] at hr
    rw [Bool.and_eq_true, Option.isSome_iff_exists] at hsend
    obtain ⟨hauto, q, hkept⟩ := hsend
    obtain ⟨rfl, hnonblank⟩ := Option.filter_eq_some_iff.mp hkept
    have hquestion : Text.isBlank q = false := by simpa using hnonblank
    have hmessage : (m.asking selected (some q)).draft.message = q ++ "\n\n" ++ block :=
      message_asking hquestion m selected
    rw [hr]
    rcases (m.asking selected (some q)).submit_kept_or_taken session with
      ⟨hdraft, hnothing⟩ | ⟨hok, hdraft, hcalls⟩
    · exact .inl ⟨by rw [hdraft, hcontext], hnothing⟩
    · rw [hmessage] at hok hcalls
      exact .inr ⟨q, rfl, hquestion, hauto, hok, hdraft, hcalls⟩
  · rw [if_neg hsend] at hr
    rw [hr]
    exact .inl ⟨hcontext, fun message files hmem => absurd hmem List.not_mem_nil⟩

/-- A selected text that is not blank is quoted line by line: cut at its newlines, the block is the
header and then one line for each line of the trimmed text, a mark alone for an empty line and the
line behind a mark and a space for any other; without the marks these are the lines again, in order.
And whenever a follow-up question is handled, the block is the draft's context afterwards and no
message was taken, or the question was sent at once, taken, and followed in the message by an empty
line and the block. -/
theorem selection_stays_quoted (selected : String) :
    (Text.trim selected ≠ "" →
      ∃ quoted,
        (quoteSelection selected).toList.splitOn '\n' =
          "Regarding this selection:".toList :: quoted ∧
        List.Forall₂ Quotes (Chars.lines (Chars.trim selected.toList)) quoted ∧
        quoted.map unquoteLine? = (Chars.lines (Chars.trim selected.toList)).map some) ∧
    ∀ (m : MessageInput) (session : Session) (question : Option String) (autoSubmit : Bool),
      let block := quoteSelection selected
      let r := m.handleSignal session (.followUp selected question autoSubmit)
      (r.input.draft.context = some block ∧ NothingTaken session r.calls) ∨
      ∃ q, question = some q ∧ Text.isBlank q = false ∧ autoSubmit = true ∧
        session.submit m.files.files (q ++ "\n\n" ++ block) = .ok () ∧ r.input.draft = {} ∧
        r.calls = [.submit (q ++ "\n\n" ++ block) m.files.files] := by
  constructor
  · intro hnonblank
    refine ⟨quotedLines selected, splitOn_quoteSelection hnonblank, ?_, ?_⟩
    · exact List.forall₂_map_right_iff.mpr
        (List.forall₂_same.mpr fun line _ => quotes_quoteLine line)
    · rw [quotedLines, List.map_map]
      exact List.map_congr_left fun line _ => (quotes_quoteLine line).unquoteLine?
  · intro m session question autoSubmit
    exact m.followUp_kept_or_taken session selected question autoSubmit

/-- Three lines, one of them empty and one that begins with a mark itself, with a question that is
sent at once. -/
theorem marked_line_quoted :
    let selected := " a\r\n\n> b\u3000"
    let block := "Regarding this selection:\n> a\n>\n> > b"
    let m := start {} .idle
    let r := m.handleSignal .idle (.followUp selected (some "why?") true)
    Text.trim selected ≠ "" ∧
      (∃ quoted,
        (quoteSelection selected).toList.splitOn '\n' =
          "Regarding this selection:".toList :: quoted ∧
        quoted.map unquoteLine? = [some ['a'], some [], some ['>', ' ', 'b']]) ∧
      quoteSelection selected = block ∧ r.calls = [.submit ("why?\n\n" ++ block) []] := by
  intro selected block m r
  have hnonblank : Text.trim selected ≠ "" := by decide
  have hblock : quoteSelection selected = block := by decide
  obtain ⟨hquoted, hasked⟩ := selection_stays_quoted selected
  obtain ⟨quoted, hsplit, -, hlines⟩ := hquoted hnonblank
  refine ⟨hnonblank, ⟨quoted, hsplit, hlines.trans (by decide)⟩, hblock, ?_⟩
  rcases hasked m .idle (some "why?") true with ⟨-, hnothing⟩ | ⟨q, hq, -, -, -, -, hcalls⟩
  · have hsent : .submit ("why?\n\n" ++ block) [] ∈ r.calls := by decide
    exact absurd rfl (hnothing _ _ hsent)
  · obtain rfl := Option.some.inj hq
    rw [hcalls, hblock]
    decide

end MessageInput
end Composer
