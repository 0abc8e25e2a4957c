import Composer.Proofs.Terminal.Typing
set_option autoImplicit false

/-!
# Lines that end in a prompt's name

A line whose last word is a slash and the name of a prompt is offered that name while it is typed,
and when it is handled, the slash is typed first, so that the list of prompts opens and the name is
looked up in it. Completion starts a word behind any white space, but a slash opens the list only at
the start of a line, behind a space or behind a newline. So the prompt is selected exactly if the
list was open already, or the word is at such a place; behind other white space the line is sent.
-/

namespace Composer.Terminal

variable {line : String} {front : List Char} {g : PromptGroup}

/-! ## What completion offers -/

/-- A line that is no command is completed from its last word. -/
theorem Completion.typedPart_of_head_trim {cs : List Char}
    (h : (Chars.trim cs).head? ≠ some ':') :
    typedPart cs = Chars.cutLastWord cs ∧ cs.head? ≠ some ':' := by
  have hhead : cs.head? ≠ some ':' := by
    cases cs with
    | nil => simp
    | cons c cs =>
      intro hc
      obtain rfl : c = ':' := by simpa using hc
      rw [Chars.trim_cons (by decide)] at h
      exact absurd rfl h
  exact ⟨by simp [typedPart, hhead], hhead⟩

theorem Completion.mem_candidates {prompts : List PromptGroup} (hg : g ∈ prompts)
    (hmessage : (Chars.trim line.toList).head? ≠ some ':')
    (hword : Chars.cutLastWord line.toList = (front, '/' :: g.name.toList)) :
    "/" ++ g.name ∈ (Completion.ofPrompts prompts).candidates line.toList := by
  obtain ⟨htyped, hhead⟩ := typedPart_of_head_trim hmessage
  have hname : ("/" ++ g.name).toList = '/' :: g.name.toList := by simp
  have hoffered : "/" ++ g.name ∈ (Completion.ofPrompts prompts).prompts := by
    simp only [ofPrompts]
    exact List.mem_append_left _ (List.mem_map_of_mem hg)
  simp only [candidates, hhead, htyped, hword]
  simp [matching, hoffered, hname]

namespace Repl

variable {r : Repl} {initial : String}

/-- What is told about a line whose last word selected a prompt: nothing was sent, and the prompt
took the place of the word, or asks for its variables while the line stays as it is. -/
structure Selects (r : Repl) (g : PromptGroup) (front : List Char) (line : String)
    (told : Told LineResult) : Prop where
  goes_on : told.result = .ok true
  logged : ∃ done, told.repl.log = r.log ++ done ∧ messagesIn done = [] ∧
    ∃ e ∈ done, e.op = .selectPrompt g
  inserted : g.variableNames = [] →
    told.repl.input.draft = r.input.draft.setText (String.ofList front ++ g.text) ∧
      told.repl.input.overlay = .none
  asked : g.variableNames ≠ [] →
    told.repl.input.draft = r.input.draft.setText line ∧
      told.repl.input.overlay =
        .variableDialog { group := g, names := g.variableNames, target := .slashToken }

/-- Whether a slash behind a text finds the list of prompts open, or opens it: at the start of the
line, behind a space or behind a newline. -/
def Opens (r : Repl) (front : List Char) : Prop :=
  r.input.overlay = .slashMenu ∨ ∀ c ∈ front.getLast?, c = ' ' ∨ c = '\n'

/-! ## Typing the line -/

/-- The slash of the last word is typed first. -/
theorem typeLine_of_slash {word : List Char}
    (h : Chars.cutLastWord line.toList = (front, '/' :: word)) :
    r.typeLine line.toList = (r.typed (String.ofList (front ++ ['/']))).typed line := by
  simp only [typeLine, h, typed, String.toList_ofList]

/-- A slash at the end of a text opens the list at the start of a line, behind a space and behind a
newline; behind anything else the list is open only if it was. -/
theorem overlay_typed_slash (hway : r.input.overlay.givesWay = true) (front : List Char) :
    (Opens r front ∧ (r.typed (String.ofList (front ++ ['/']))).input.overlay = .slashMenu) ∨
    (¬Opens r front ∧ (r.typed (String.ofList (front ++ ['/']))).input.overlay = .none) := by
  have hiff := SlashToken.isTrigger_append_slash front
  cases htrigger : SlashToken.isTrigger (front ++ ['/']) (front ++ ['/']).length with
  | true =>
    refine .inl ⟨.inr (hiff.mp htrigger), ?_⟩
    exact overlay_typed_of_isTrigger hway (by rwa [String.toList_ofList])
  | false =>
    have hno : ¬∀ c ∈ front.getLast?, c = ' ' ∨ c = '\n' := by
      rw [← hiff, htrigger]
      decide
    have hslash : '/' ∈ front ++ ['/'] := by simp
    rw [overlay_typed hway (by rwa [String.toList_ofList]), String.toList_ofList]
    by_cases hmenu : r.input.overlay = .slashMenu
    · exact .inl ⟨.inl hmenu, if_pos ⟨hmenu, hslash⟩⟩
    · exact .inr ⟨not_or_intro hmenu hno, if_neg fun h => hmenu h.1⟩

/-- The line is in the draft, and the list of prompts is open over it if it was open before or the
slash opened it. -/
theorem typeLine_spec (hway : r.input.overlay.givesWay = true)
    (hword : Chars.cutLastWord line.toList = (front, '/' :: g.name.toList))
    (hname : g.name ≠ "") (hslash : '/' ∉ g.name.toList) :
    (r.typeLine line.toList).input.draft = r.input.draft.setText line ∧
      ((Opens r front ∧ (r.typeLine line.toList).input.overlay = .slashMenu) ∨
        (¬Opens r front ∧ (r.typeLine line.toList).input.overlay = .none)) ∧
      (r.typeLine line.toList).prompts = r.prompts ∧
      ∃ done, (r.typeLine line.toList).log = r.log ++ done ∧ messagesIn done = [] ∧
        ∀ e ∈ done, e.op ≠ .selectPrompt g := by
  obtain ⟨hline, -, -⟩ := Chars.cutLastWord_eq_iff.mp hword
  have hmem : '/' ∈ line.toList := by simp [hline]
  have hnonempty : g.name.toList ≠ [] := by simpa using hname
  have hnotrigger : SlashToken.isTrigger line.toList line.toList.length = false := by
    rw [hline, List.append_cons]
    exact SlashToken.isTrigger_append_of_not_mem _ hnonempty hslash
  rw [typeLine_of_slash hword]
  refine ⟨?_, ?_, rfl, [edited (String.ofList (front ++ ['/'])), edited line], ?_, rfl, ?_⟩
  · rw [draft_typed, draft_typed]
    rfl
  · rcases overlay_typed_slash hway front with ⟨hopens, hover⟩ | ⟨hstays, hover⟩
    · refine .inl ⟨hopens, ?_⟩
      rw [overlay_typed (by rw [hover]; rfl) hnotrigger, if_pos ⟨hover, hmem⟩]
    · refine .inr ⟨hstays, ?_⟩
      rw [overlay_typed (by rw [hover]; rfl) hnotrigger, hover, if_neg (by simp)]
  · rw [log_typed, log_typed, List.append_assoc]
    rfl
  · simp [edited]

/-! ## Selecting the prompt -/

/-- The first prompt that goes by a name is what the name selects, unless a reserved command has
it. -/
theorem selectPrompt_of_first (hway : r.input.overlay.givesWay = true) (hname : g.name ≠ "")
    (hreserved : ReservedCommand.ofName? g.name = none) {earlier later : List PromptGroup}
    (hfirst : r.prompts = earlier ++ g :: later)
    (hearlier : ∀ g' ∈ earlier, g'.name ≠ g.name ∧ g'.id ≠ g.name) :
    r.selectPrompt g.name = some (r.act (.selectPrompt g)) := by
  have hfind : r.prompts.find? (fun g' => g'.name == g.name || g'.id == g.name) = some g := by
    rw [List.find?_eq_some_iff_append]
    refine ⟨by simp, earlier, later, hfirst, ?_⟩
    intro g' hg'
    simpa using hearlier g' hg'
  rcases r.selectPrompt_cases hway g.name with
    ⟨hempty, -⟩ | ⟨-, command, hcommand, -⟩ | ⟨-, -, found, hfound, heq⟩ | ⟨hunknown, -⟩
  · exact absurd hempty hname
  · rw [hreserved] at hcommand
    exact absurd hcommand (by simp)
  · rw [hfind] at hfound
    obtain rfl := Option.some.inj hfound
    exact heq
  · exact absurd (.inr (.inr ⟨g, by simp [hfirst], .inl rfl⟩)) hunknown

/-- Selecting a prompt while the draft is a line that ends in its name. -/
theorem selects_act {r' : Repl} (hdraft : r'.input.draft = r.input.draft.setText line)
    (hway : r'.input.overlay.givesWay = true)
    (hline : line.toList = front ++ '/' :: g.name.toList) (hslash : '/' ∉ g.name.toList)
    (hlog : ∃ done, r'.log = r.log ++ done ∧ messagesIn done = []) :
    Selects r g front line (r'.act (.selectPrompt g)) := by
  obtain ⟨done, hdone, hsilent⟩ := hlog
  have hinput : (r'.act (.selectPrompt g)).repl.input = (r'.input.selectPrompt g).2 := rfl
  have hreplaced := r.input.draft.replaceSlashToken_setText g.text hline hslash
  refine ⟨rfl, ⟨done ++ [{ op := .selectPrompt g, calls := [] }], ?_, ?_, ?_⟩, ?_, ?_⟩
  · rw [← List.append_assoc, ← hdone]
    rfl
  · simpa [messagesIn] using hsilent
  · exact ⟨_, List.mem_append_right _ (List.mem_singleton_self _), rfl⟩
  · intro hnone
    rcases r'.input.selectPrompt_cases g with ⟨hno, -⟩ | ⟨-, ⟨-, heq⟩ | ⟨hsome, -⟩⟩
    · rw [hway] at hno
      exact absurd hno (by decide)
    · rw [hinput, heq]
      simp [MessageInput.insertPrompt, hdraft, hreplaced, Overlay.closeMenu_of_givesWay hway]
    · exact absurd hnone hsome
  · intro hsome
    rcases r'.input.selectPrompt_cases g with ⟨hno, -⟩ | ⟨-, ⟨hnone, -⟩ | ⟨-, heq⟩⟩
    · rw [hway] at hno
      exact absurd hno (by decide)
    · exact absurd hnone hsome
    · rw [hinput, heq]
      exact ⟨hdraft, rfl⟩

/-! ## Handling the line -/

/-- Sending selects no prompt. -/
theorem not_selects_send {r' : Repl} (hlog : ∃ done, r'.log = r.log ++ done ∧
    ∀ e ∈ done, e.op ≠ .selectPrompt g) : ¬Selects r g front line r'.send := by
  intro hselects
  obtain ⟨-, -, ⟨sent, hsent, hsubmits, -⟩, -⟩ := r'.send_spec
  obtain ⟨done, hdone, hplain⟩ := hlog
  obtain ⟨all, hall, -, e, he, hselected⟩ := hselects.logged
  rw [hsent, hdone, List.append_assoc] at hall
  rw [← List.append_cancel_left hall] at he
  rcases List.mem_append.mp he with he | he
  · exact hplain e he hselected
  · rw [hsubmits e he] at hselected
    exact absurd hselected (by simp)

/-- A prompt is offered for a last word that is a slash and the prompt's name. The line selects it
exactly if the list of prompts was open, or the word is at the start of the line, behind a space or
behind a newline. -/
theorem handleLine_selects_iff (hway : r.input.overlay.givesWay = true)
    (hmessage : IsMessage initial.toList line.toList)
    (hword : Chars.cutLastWord line.toList = (front, '/' :: g.name.toList))
    (hname : g.name ≠ "") (hslash : '/' ∉ g.name.toList)
    (hreserved : ∀ c ∈ ReservedCommand.all, c.name ≠ g.name)
    {earlier later : List PromptGroup} (hfirst : r.prompts = earlier ++ g :: later)
    (hearlier : ∀ g' ∈ earlier, g'.name ≠ g.name ∧ g'.id ≠ g.name) :
    "/" ++ g.name ∈ (Completion.ofPrompts r.prompts).candidates line.toList ∧
      (Selects r g front line (r.handleLine initial line) ↔ Opens r front) := by
  refine ⟨Completion.mem_candidates (by simp [hfirst]) hmessage.2 hword, ?_⟩
  obtain ⟨hline, hspaceless, -⟩ := Chars.cutLastWord_eq_iff.mp hword
  obtain ⟨hdraft, hover, hprompts, hlog⟩ := typeLine_spec hway hword hname hslash
  rw [handleLine_of_isMessage r hmessage, handleMessage]
  obtain ⟨done, hdone, hsilent, hplain⟩ := hlog
  rcases hover with ⟨hopens, hmenu⟩ | ⟨hstays, hnone⟩
  · have hopen : (r.typeLine line.toList).input.overlay.givesWay = true := by
      rw [hmenu]
      rfl
    have hquery := MessageInput.slashQuery?_of_setText hmenu hdraft hline hslash
    have hunreserved : ReservedCommand.ofName? g.name = none :=
      (ReservedCommand.ofName?_eq_none_iff
        (fun c hc => hspaceless c (List.mem_cons_of_mem _ hc)) hslash).mpr hreserved
    have hselected :=
      selectPrompt_of_first hopen hname hunreserved (hprompts.trans hfirst) hearlier
    rw [String.ofList_toList] at hquery
    refine iff_of_true ?_ hopens
    simp only [hquery, hselected]
    exact selects_act hdraft hopen hline hslash ⟨done, hdone, hsilent⟩
  · have hquery : (r.typeLine line.toList).input.slashQuery? = none := by
      simp only [MessageInput.slashQuery?, hnone]
    refine iff_of_false ?_ hstays
    simp only [hquery]
    exact not_selects_send ⟨done, hdone, hplain⟩

/-- Behind a space the name is offered and selects its prompt. -/
theorem name_selected_behind_space :
    let g : PromptGroup := { id := "1", name := "b", text := "Hello" }
    "/b" ∈ (Completion.ofPrompts [g]).candidates "a /b".toList ∧
      Selects (fresh [g]) g ['a', ' '] "a /b" ((fresh [g]).handleLine "" "a /b") := by
  intro g
  have hmessage : IsMessage "".toList "a /b".toList := commandIn?_eq_none_iff.mp (by decide)
  have hfirst : (fresh [g]).prompts = [] ++ g :: [] := rfl
  obtain ⟨hoffered, hselects⟩ :=
    handleLine_selects_iff (r := fresh [g]) (g := g) (by decide) hmessage
      (by decide : Chars.cutLastWord "a /b".toList = (['a', ' '], '/' :: g.name.toList))
      (by decide) (by decide) (by decide) hfirst (by simp)
  exact ⟨hoffered, hselects.mpr (.inr (by simp))⟩

/-- Behind a tab the name is offered too, but the line is sent. -/
theorem name_sent_behind_tab :
    let r := fresh [{ id := "1", name := "b", text := "Hello" }]
    let told := r.handleLine "" "\t/b"
    r.input.overlay = .none ∧ commandIn? "".toList "\t/b".toList = none ∧
      Chars.cutLastWord "\t/b".toList = (['\t'], ['/', 'b']) ∧
      "/b" ∈ (Completion.ofPrompts r.prompts).candidates "\t/b".toList ∧
      messagesIn told.repl.log = [("\t/b", [])] ∧ told.repl.input.draft.text = "\t/b" := by
  decide

end Repl
end Composer.Terminal
