import Composer.Proofs.MessageInput.Frame
set_option autoImplicit false

/-!
# The list of prompts and the slash it goes by

While the list of prompts is open, its filter is what stands behind the last slash before the
cursor. Editing the text keeps the two together. Two operations put another text into the draft
without looking at the list: a prompt that navigation brought along, and a follow-up question that
stays in the draft. The list is left without a slash exactly when one of these meets an open list
with a text that has none.
-/

namespace Composer.MessageInput

variable {m : MessageInput}

/-- The list of prompts, if it is open, has a slash before the cursor to go by. -/
def MenuBacked (m : MessageInput) : Prop :=
  m.overlay = .slashMenu → '/' ∈ SlashToken.before m.draft.text.toList m.draft.cursor

/-- While the list is open, there is a filter exactly when there is a slash. -/
theorem isSome_slashQuery?_iff (h : m.overlay = .slashMenu) :
    m.slashQuery?.isSome = true ↔ '/' ∈ SlashToken.before m.draft.text.toList m.draft.cursor := by
  cases hquery : SlashToken.query? m.draft.text.toList m.draft.cursor with
  | none =>
    have habsent := SlashToken.query?_eq_none_iff.mp hquery
    simp [slashQuery?, h, hquery, habsent]
  | some query =>
    obtain ⟨front, hfront, -⟩ := SlashToken.query?_eq_some_iff.mp hquery
    simp [slashQuery?, h, hquery, hfront]

theorem menuBacked_of_ne (h : m.overlay ≠ .slashMenu) : MenuBacked m :=
  fun hmenu => absurd hmenu h

/-- Nothing changes for the list while text and cursor stay, unless it is opened. -/
theorem MenuBacked.of_draft_eq {m' : MessageInput} (h : MenuBacked m)
    (htext : m'.draft.text = m.draft.text) (hcursor : m'.draft.cursor = m.draft.cursor)
    (hover : m'.overlay = .slashMenu → m.overlay = .slashMenu) : MenuBacked m' := by
  intro hmenu
  rw [htext, hcursor]
  exact h (hover hmenu)

/-! ## Operations that keep the two together -/

theorem slash_mem_of_overlayAfterEdit {o : Overlay} {d : Draft}
    (h : overlayAfterEdit o d = .slashMenu) :
    '/' ∈ SlashToken.before d.text.toList d.cursor := by
  unfold overlayAfterEdit at h
  cases htrigger : SlashToken.isTrigger d.text.toList d.cursor with
  | true => exact SlashToken.slash_mem_of_isTrigger htrigger
  | false =>
    cases o with
    | slashMenu =>
      by_cases hslash : '/' ∈ SlashToken.before d.text.toList d.cursor
      · exact hslash
      · simp [htrigger, hslash] at h
    | none => simp [htrigger] at h
    | variableDialog dialog => simp [htrigger] at h
    | artifactForm text => simp [htrigger] at h

/-- Spoken text only adds to what stands before the cursor. -/
theorem MenuBacked.transcribe (h : MenuBacked m) (speech : String) :
    MenuBacked (m.transcribe speech) := by
  have hover : (m.transcribe speech).overlay = m.overlay := by
    simp only [MessageInput.transcribe, overlay_request]
  intro hmenu
  rw [hover] at hmenu
  rw [draft_transcribe]
  rcases m.draft.appendTranscript_cases speech with heq | ⟨more, heq⟩
  · rw [heq]
    exact h hmenu
  · rw [heq, Draft.before_setText, String.toList_append]
    exact List.mem_append_left _ (List.mem_of_mem_take (h hmenu))

theorem MenuBacked.submit (h : MenuBacked m) (session : Session) :
    MenuBacked (m.submit session).input := by
  rcases m.submit_cases session with ⟨-, heq⟩ | ⟨-, -, heq⟩ | ⟨-, e, -, heq⟩
  · rw [heq]
    exact h
  · rw [heq]
    exact menuBacked_of_ne (Overlay.closeMenu_ne_slashMenu _)
  · rw [heq]
    exact h.of_draft_eq rfl rfl id

theorem MenuBacked.discardPaste (h : MenuBacked m) : MenuBacked m.discardPaste.2 := by
  unfold MessageInput.discardPaste
  split
  · exact menuBacked_of_ne (by simp)
  · exact h

theorem MenuBacked.cancelVariables (h : MenuBacked m) : MenuBacked m.cancelVariables := by
  unfold MessageInput.cancelVariables
  split
  · exact menuBacked_of_ne (by simp)
  · exact h

/-! ## Operations that replace the draft -/

/-- Whether an operation puts a text without a slash into the draft while it leaves the list of
prompts open: a prompt that navigation brought along and that asks for nothing, or a follow-up
question, unless that is sent at once and arrives. -/
def Strands (m : MessageInput) (session : Session) : Operation → Prop
  | .applyPending (some p) =>
    m.overlay = .slashMenu ∧ p.group.variableNames = [] ∧ '/' ∉ p.text.toList
  | .handleSignal (.followUp selected (some question) autoSubmit) =>
    m.overlay = .slashMenu ∧ Text.isBlank question = false ∧ '/' ∉ question.toList ∧
      ¬(autoSubmit = true ∧ session.responding = false ∧
        session.submit m.files.files
          (composeMessage question (some (quoteSelection selected))) = .ok ())
  | _ => False

theorem menuBacked_applyPending_iff (h : MenuBacked m) (session : Session)
    (pending : Option PendingPrompt) :
    MenuBacked (m.applyPending pending).2.2 ↔ ¬Strands m session (.applyPending pending) := by
  rcases m.applyPending_cases pending with
    ⟨rfl, heq⟩ | ⟨p, rfl, ⟨hway, heq⟩ | ⟨-, hnames, heq⟩ | ⟨-, hnames, heq⟩⟩
  · rw [heq]
    exact iff_of_true h id
  · rw [heq]
    refine iff_of_true h ?_
    rintro ⟨hmenu, -⟩
    rw [hmenu] at hway
    exact absurd hway (by decide)
  · rw [heq]
    simp [MenuBacked, Strands, hnames]
  · rw [heq]
    refine iff_of_true (menuBacked_of_ne (by simp [opening])) ?_
    rintro ⟨-, hnone, -⟩
    exact hnames hnone

/-- A question that is not blank takes the place of the text, and the selection is sent with it. -/
theorem asking_question {question : String} (h : Text.isBlank question = false)
    (m : MessageInput) (selected : String) :
    SlashToken.before (m.asking selected (some question)).draft.text.toList
        (m.asking selected (some question)).draft.cursor = question.toList ∧
      (m.asking selected (some question)).draft.isBlank = false ∧
      (m.asking selected (some question)).draft.message =
        composeMessage question (some (quoteSelection selected)) := by
  have hdraft : (m.asking selected (some question)).draft =
      (m.draft.setText question).setContext (some (quoteSelection selected)) := by
    simp only [asking, Text.nonBlank?_of_not_isBlank h]
  rw [hdraft, Draft.message_setContext, Draft.isBlank, Draft.text_setContext,
    Draft.cursor_setContext, Draft.before_setText]
  exact ⟨rfl, h, rfl⟩

/-- Without a question only the context changes. -/
theorem MenuBacked.asking (h : MenuBacked m) {question : Option String}
    (hquestion : Text.nonBlank? question = none) (selected : String) :
    MenuBacked (m.asking selected question) := by
  refine h.of_draft_eq ?_ ?_ id <;> simp [MessageInput.asking, hquestion, Draft.setContext]

theorem menuBacked_followUp_iff {question : String} (hquestion : Text.isBlank question = false)
    (session : Session) (selected : String) (autoSubmit : Bool) :
    MenuBacked
        (m.handleSignal session (.followUp selected (some question) autoSubmit)).input ↔
      ¬Strands m session (.handleSignal (.followUp selected (some question) autoSubmit)) := by
  obtain ⟨hbefore, hblank, hmessage⟩ := asking_question hquestion m selected
  -- the state in which the question waits: backed if nothing is open or the question has a slash
  have hwaiting : ∀ m' : MessageInput, m'.overlay = m.overlay →
      m'.draft = (m.asking selected (some question)).draft →
      (MenuBacked m' ↔ ¬(m.overlay = .slashMenu ∧ '/' ∉ question.toList)) := by
    intro m' hover hdraft
    rw [MenuBacked, hover, hdraft, hbefore]
    by_cases hmenu : m.overlay = .slashMenu <;> simp [hmenu]
  rw [handleSignal_followUp, Text.nonBlank?_of_not_isBlank hquestion]
  cases autoSubmit with
  | false =>
    have hiff := hwaiting ((m.asking selected (some question)).request .focusInput) rfl rfl
    simp only [Bool.false_and, Bool.false_eq_true, if_false, hiff]
    simp [Strands, hquestion]
  | true =>
    have hcan : (m.asking selected (some question)).canSubmit session = !session.responding := by
      simp [canSubmit, hblank]
    have hfiles : (m.asking selected (some question)).files = m.files := rfl
    simp only [Option.isSome_some, Bool.and_self, if_true]
    rcases (m.asking selected (some question)).submit_cases session with
      ⟨hrefused, heq⟩ | ⟨hfree, hsent, heq⟩ | ⟨-, e, hfailed, heq⟩
    · have hbusy : session.responding = true := by simpa [hcan] using hrefused
      rw [heq, hwaiting (m.asking selected (some question)) rfl rfl]
      simp [Strands, hquestion, hbusy]
    · have hidle : session.responding = false := by simpa [hcan] using hfree
      rw [hmessage, hfiles] at hsent
      rw [heq]
      refine iff_of_true (menuBacked_of_ne (Overlay.closeMenu_ne_slashMenu _)) ?_
      rintro ⟨-, -, -, hnot⟩
      exact hnot ⟨rfl, hidle, hsent⟩
    · rw [hmessage, hfiles] at hfailed
      rw [heq, hwaiting ((m.asking selected (some question)).request .focusInput) rfl rfl]
      simp [Strands, hquestion, hfailed]

theorem menuBacked_handleSignal_iff (h : MenuBacked m) (session : Session) (signal : Signal) :
    MenuBacked (m.handleSignal session signal).input ↔
      ¬Strands m session (.handleSignal signal) := by
  cases signal with
  | focusInput => exact iff_of_true (h.of_draft_eq rfl rfl id) id
  | followUp selected question autoSubmit =>
    -- without a question to ask, the signal only sets the context
    have hquiet : Text.nonBlank? question = none →
        MenuBacked (m.handleSignal session (.followUp selected question autoSubmit)).input := by
      intro hnone
      rw [handleSignal_followUp, hnone]
      simp only [Option.isSome_none, Bool.and_false, Bool.false_eq_true, if_false]
      exact (h.asking hnone selected).of_draft_eq rfl rfl id
    cases question with
    | none => exact iff_of_true (hquiet rfl) id
    | some question =>
      cases hblank : Text.isBlank question with
      | false => exact menuBacked_followUp_iff hblank session selected autoSubmit
      | true =>
        refine iff_of_true (hquiet (Text.nonBlank?_of_isBlank hblank)) ?_
        rintro ⟨-, hnot, -⟩
        rw [hblank] at hnot
        exact absurd hnot (by decide)

/-! ## One operation -/

/-- The step lemma: an operation parts the list of prompts from its slash exactly when it strands
it. -/
theorem menuBacked_perform_iff (h : MenuBacked m) (session : Session) (op : Operation) :
    MenuBacked (m.perform session op).input ↔ ¬Strands m session op := by
  cases op with
  | applyPending pending => exact menuBacked_applyPending_iff h session pending
  | handleSignal signal => exact menuBacked_handleSignal_iff h session signal
  | changeText text cursor => exact iff_of_true slash_mem_of_overlayAfterEdit id
  | closeMenu =>
    exact iff_of_true (menuBacked_of_ne (Overlay.closeMenu_ne_slashMenu _)) id
  | transcribe speech => exact iff_of_true (h.transcribe speech) id
  | setContext context => exact iff_of_true (h.of_draft_eq rfl rfl id) id
  | paste clipboard =>
    refine iff_of_true ?_ id
    rcases m.paste_cases session clipboard with ⟨-, heq⟩ | ⟨-, ⟨_, -, heq⟩ | ⟨text, -, hsize⟩⟩
    · simpa only [perform, heq] using h
    · simp only [perform, heq]
      exact h.of_draft_eq rfl rfl id
    · rcases hsize with ⟨-, heq⟩ | ⟨-, -, heq⟩ | ⟨-, -, heq⟩
      · simpa only [perform, heq] using h
      · simpa only [perform, heq] using h
      · exact menuBacked_of_ne (by simp [perform, heq])
  | takeFiles files =>
    refine iff_of_true ?_ id
    rcases m.takeFiles_cases session files with ⟨-, heq⟩ | ⟨-, heq⟩
    · simpa only [perform, heq] using h
    · simp only [perform, heq]
      exact h.of_draft_eq rfl rfl id
  | removeFile index => exact iff_of_true (h.of_draft_eq rfl rfl id) id
  | removeBadge badge => exact iff_of_true (h.of_draft_eq rfl rfl id) id
  | discardPaste => exact iff_of_true (h.discardPaste) id
  | savePaste title choice description =>
    refine iff_of_true ?_ id
    rcases m.savePaste_cases session title choice description with
      ⟨-, heq⟩ | ⟨content, -, ⟨artifact, -, heq⟩ | ⟨e, -, heq⟩⟩
    · simpa only [perform, heq] using h
    · exact menuBacked_of_ne (by simp [perform, heq])
    · exact menuBacked_of_ne (by simp [perform, heq])
  | submit => exact iff_of_true (h.submit session) id
  | cancelResponse =>
    refine iff_of_true ?_ id
    rcases m.cancelResponse_cases session with ⟨-, heq⟩ | ⟨-, -, heq⟩ | ⟨-, e, -, heq⟩ <;>
      simpa only [perform, heq] using h
  | observeResponding responding =>
    refine iff_of_true ?_ id
    simp only [perform, observeResponding]
    split <;> exact h.of_draft_eq rfl rfl id
  | insertPrompt text => exact iff_of_true (menuBacked_of_ne (Overlay.closeMenu_ne_slashMenu _)) id
  | selectPrompt group =>
    refine iff_of_true ?_ id
    rcases m.selectPrompt_cases group with ⟨-, heq⟩ | ⟨-, ⟨-, heq⟩ | ⟨-, heq⟩⟩
    · simpa only [perform, heq] using h
    · simp only [perform, heq]
      exact menuBacked_of_ne (Overlay.closeMenu_ne_slashMenu _)
    · exact menuBacked_of_ne (by simp [perform, heq, opening])
  | submitVariables values =>
    refine iff_of_true ?_ id
    rcases m.submitVariables_cases values with ⟨-, heq⟩ | ⟨dialog, -, ⟨-, heq⟩ | ⟨-, heq⟩⟩
    · simpa only [perform, heq] using h
    · simpa only [perform, heq] using h
    · exact menuBacked_of_ne (by simp [perform, heq])
  | cancelVariables => exact iff_of_true (h.cancelVariables) id
  | runReserved command transcript =>
    cases command with
    | createTemplate =>
      exact iff_of_true (menuBacked_of_ne (Overlay.closeMenu_ne_slashMenu _)) id
  | observeSession next =>
    refine iff_of_true ?_ id
    rcases m.observeSession_cases next with ⟨-, heq⟩ | ⟨-, heq⟩
    · exact menuBacked_of_ne (by simp [perform, heq])
    · simp only [perform, heq]
      exact h.of_draft_eq rfl rfl id
  | drainEffects => exact iff_of_true (h.of_draft_eq rfl rfl id) id

/-! ## Runs -/

/-- The run lemma: the list keeps its slash through a run in which nothing strands it. -/
theorem MenuBacked.after (h : MenuBacked m) (ops : List (Operation × Session))
    (hquiet : ∀ earlier op session later, ops = earlier ++ (op, session) :: later →
      ¬Strands (m.after earlier) session op) :
    MenuBacked (m.after ops) := by
  induction ops generalizing m with
  | nil => exact h
  | cons step ops ih =>
    obtain ⟨op, session⟩ := step
    have hstep := (menuBacked_perform_iff h session op).mpr (hquiet [] op session ops rfl)
    refine ih hstep ?_
    intro earlier next view later hops
    exact hquiet ((op, session) :: earlier) next view later (by rw [hops, List.cons_append])

/-- Throughout a run the open list of prompts has a slash before the cursor, and so a filter,
exactly when no operation of the run strands it. -/
theorem menuBacked_along_run_iff (classifier : PasteClassifier) (first : Session)
    (ops : List (Operation × Session)) :
    (∀ earlier later, ops = earlier ++ later →
      let m := (start classifier first).after earlier
      m.overlay = .slashMenu →
        '/' ∈ SlashToken.before m.draft.text.toList m.draft.cursor ∧
          m.slashQuery?.isSome = true) ↔
    ∀ earlier op session later, ops = earlier ++ (op, session) :: later →
      ¬Strands ((start classifier first).after earlier) session op := by
  have hstart : MenuBacked (start classifier first) := menuBacked_of_ne (by simp [start])
  constructor
  · intro hall earlier op session later hops
    have hbefore : MenuBacked ((start classifier first).after earlier) :=
      fun hmenu => (hall earlier ((op, session) :: later) hops hmenu).1
    have hafter : MenuBacked ((start classifier first).after (earlier ++ [(op, session)])) :=
      fun hmenu => (hall (earlier ++ [(op, session)]) later (by simp [hops]) hmenu).1
    rw [after_append] at hafter
    exact (menuBacked_perform_iff hbefore session op).mp hafter
  · intro hquiet earlier later hops m hmenu
    have hbacked : MenuBacked m := by
      refine hstart.after earlier ?_
      intro front op session back hfront
      exact hquiet front op session (back ++ later) (by rw [hops, hfront]; simp)
    exact ⟨hbacked hmenu, (isSome_slashQuery?_iff hmenu).mpr (hbacked hmenu)⟩

/-- A follow-up question that stays in the draft leaves the list open over a text without a
slash. -/
theorem menu_open_over_question :
    let m := (start {} .idle).after
      [(.changeText "/" 1, .idle), (.handleSignal (.followUp "x" (some "hi") false), .idle)]
    m.overlay = .slashMenu ∧ '/' ∉ SlashToken.before m.draft.text.toList m.draft.cursor ∧
      m.slashQuery? = none := by
  decide

end Composer.MessageInput
