import Composer.Proofs.Terminal.Typing
set_option autoImplicit false

/-!
# What a line does

Whatever line is handled, one of five things happens: some operations are performed that neither
send nor switch, or another session is switched to, or a signal is published, or a template is
authored, or the draft is sent. Anything that holds between the states before and after a line is
read off this list.
-/

namespace Composer

/-! ## Operations -/

namespace Operation

/-- Whether an operation neither sends a message, nor reacts to a signal, nor observes the session
or its responses, nor runs a reserved command. -/
def isPlain : Operation → Bool
  | .submit => false
  | .handleSignal _ => false
  | .observeSession _ => false
  | .observeResponding _ => false
  | .runReserved _ _ => false
  | _ => true

/-- Whether an operation edits the text or closes the list of prompts. -/
def isEdit : Operation → Bool
  | .changeText _ _ => true
  | .closeMenu => true
  | _ => false

theorem isPlain_of_isEdit {op : Operation} (h : op.isEdit = true) : op.isPlain = true := by
  cases op with
  | changeText text cursor => rfl
  | closeMenu => rfl
  | _ => exact absurd h (by simp [isEdit])

end Operation

namespace Terminal

/-! ## The id of a session -/

namespace Command

/-- A command that is put together from its arguments is as they make it. -/
theorem exists_of_map_eq_ok {α : Type} {x : Parsed α} {f : α → Command} {c : Command}
    (h : x.map f = .ok c) : ∃ a, x = .ok a ∧ f a = c := by
  cases x with
  | error e => exact absurd h (by simp [Except.map])
  | ok a => exact ⟨a, rfl, Except.ok.inj h⟩

theorem titleAndMime_ne_session (rest : List Char) (id : Option String) :
    titleAndMime rest ≠ .session id := by
  unfold titleAndMime
  dsimp only
  split
  · split <;> simp
  · simp

theorem selectionAndQuestion_ne_session (rest : List Char) (id : Option String) :
    selectionAndQuestion rest ≠ .ok (.session id) := by
  intro h
  unfold selectionAndQuestion at h
  dsimp only at h
  split at h
  all_goals
    obtain ⟨selection, -, heq⟩ := exists_of_map_eq_ok h
    cases heq

/-- Only the name of the command leads to the command. -/
theorem eq_optional_of_ofName {name : String} {rest : List Char} {id : Option String}
    (h : ofName name rest = .ok (.session id)) : id = optional rest := by
  unfold ofName at h
  split at h
  all_goals first
    | exact (Command.session.inj (Except.ok.inj h)).symm
    | exact absurd (Except.ok.inj h) (titleAndMime_ne_session rest id)
    | exact absurd h (selectionAndQuestion_ne_session rest id)
    | cases h
    | obtain ⟨argument, -, heq⟩ := exists_of_map_eq_ok h
      cases heq

theorem not_isBlank_of_optional {rest : List Char} {id : String}
    (h : optional (Chars.trim rest) = some id) : Text.isBlank id = false := by
  unfold optional at h
  split at h
  · exact absurd h (by simp)
  · rename_i hrest
    obtain rfl := Option.some.inj h
    rw [Text.isBlank, String.toList_ofList]
    exact Chars.isBlank_trim (by simpa using hrest)

/-- The id behind the command is not blank. -/
theorem not_isBlank_of_ofChars {line : List Char} {id : String}
    (h : ofChars line = .ok (.session (some id))) : Text.isBlank id = false := by
  unfold ofChars at h
  split at h
  · split at h
    · exact not_isBlank_of_optional (eq_optional_of_ofName h).symm
    · exact absurd (eq_optional_of_ofName h) (by simp [optional])
  · exact absurd h (by simp)

end Command

/-! ## Performing several operations -/

namespace Repl

variable (r : Repl)

theorem performAll_append (first second : List Operation) :
    (r.performAll (first ++ second)).repl =
      ((r.performAll first).repl.performAll second).repl := by
  induction first generalizing r with
  | nil => rfl
  | cons op first ih => exact ih (r.perform op).repl

@[simp] theorem transcript_performAll (ops : List Operation) :
    (r.performAll ops).repl.transcript = r.transcript := by
  induction ops generalizing r with
  | nil => rfl
  | cons op ops ih => exact ih (r.perform op).repl

/-! ## Moves -/

/-- What a line may do to the state. -/
inductive Move (r : Repl) : Repl → Prop where
  | plain (ops : List Operation) (h : ∀ op ∈ ops, op.isPlain = true) :
    Move r (r.performAll ops).repl
  | switch (id : Option String) (h : ∀ given, id = some given → Text.isBlank given = false) :
    Move r (r.switchSession id).repl
  | publish (signal : Signal) : Move r { r with bus := (r.bus.publish signal).2 }
  | author (ops : List Operation) (h : ∀ op ∈ ops, op.isEdit = true) (command : ReservedCommand) :
    Move r ((r.performAll ops).repl.perform (.runReserved command r.conversation?)).repl
  | send (ops : List Operation) (h : ∀ op ∈ ops, op.isEdit = true) :
    Move r (r.performAll ops).repl.send.repl

/-- A line that ends the program leaves the state alone; any other is a move. -/
def Handled (r : Repl) (told : Told LineResult) : Prop :=
  (told.result = .ok false ∧ told.repl = r) ∨ (told.result ≠ .ok false ∧ Move r told.repl)

variable {r}

theorem Move.refl : Move r r := .plain [] (by simp)

theorem Move.one {op : Operation} (h : op.isPlain = true) : Move r (r.perform op).repl :=
  .plain [op] (List.forall_mem_singleton.mpr h)

theorem handled_tell (notices : List Notice) : Handled r (r.tell notices) :=
  .inr ⟨by simp [tell], .refl⟩

theorem handled_fail (e : LineError) : Handled r (r.fail e) := .inr ⟨by simp [fail], .refl⟩

theorem handled_act {op : Operation} (h : op.isPlain = true) : Handled r (r.act op) :=
  .inr ⟨by simp [act], .one h⟩

/-! ### Commands -/

theorem handled_attach (paths : List String) : Handled r (r.attach paths) := by
  unfold attach
  split
  · exact handled_fail _
  · exact .inr ⟨by simp, .one rfl⟩

theorem handled_pasteText (text : String) : Handled r (r.pasteText text) := by
  have hpasted : Move r (r.perform (.paste (.text text))).repl := .one rfl
  unfold pasteText
  dsimp only
  split
  · refine .inr ⟨by simp [act], ?_⟩
    exact .plain [.paste (.text text), .changeText _ _] (by simp [Operation.isPlain])
  · exact .inr ⟨by simp [tell], hpasted⟩
  · exact .inr ⟨by simp [tell], hpasted⟩
  · exact .inr ⟨by simp [tell], hpasted⟩

theorem handled_save (title : String) (mime : MimeChoice) : Handled r (r.save title mime) := by
  unfold save
  split
  · exact handled_fail _
  · exact .inr ⟨by simp, .one rfl⟩

theorem handled_handleCommand {command : Command}
    (h : ∀ id, command = .session (some id) → Text.isBlank id = false) :
    Handled r (r.handleCommand command) := by
  cases command with
  | attach paths => exact handled_attach paths
  | paste path =>
    simp only [handleCommand]
    split
    · exact handled_fail _
    · exact handled_pasteText _
  | save title mime => exact handled_save title mime
  | discard =>
    simp only [handleCommand]
    split
    · exact handled_fail _
    · exact .inr ⟨by simp [tell], .one rfl⟩
  | files => exact handled_tell _
  | remove index =>
    simp only [handleCommand]
    split
    · exact handled_fail _
    · exact .inr ⟨by simp [tell], .one rfl⟩
  | unlink index =>
    simp only [handleCommand]
    split
    · exact handled_fail _
    · exact handled_act rfl
  | session id =>
    refine .inr ⟨by simp [handleCommand, switchSession], .switch id ?_⟩
    rintro given rfl
    exact h given rfl
  | followUp selection question =>
    exact .inr ⟨by simp [handleCommand, tell], .publish _⟩
  | context text => exact handled_act rfl
  | say text => exact handled_act rfl
  | cancel => exact .inr ⟨by simp [handleCommand], .one rfl⟩
  | help => exact handled_tell _
  | quit => exact .inl ⟨rfl, rfl⟩

/-! ### Messages -/

theorem exists_edits_typeLine (line : List Char) :
    ∃ ops, (∀ op ∈ ops, op.isEdit = true) ∧ r.typeLine line = (r.performAll ops).repl := by
  unfold typeLine
  split
  rename_i before word hcut
  split
  · exact ⟨[.changeText _ _, .changeText _ _], by simp [Operation.isEdit], rfl⟩
  · exact ⟨[.changeText _ _], by simp [Operation.isEdit], rfl⟩

theorem result_send_ne : r.send.result ≠ .ok false := by
  rw [r.send_spec.1]
  simp

/-- Behind some edits a query lists the prompts, runs a reserved command, selects a prompt, or leads
to nothing. -/
theorem handled_selectPrompt {r' : Repl} {ops : List Operation}
    (hops : ∀ op ∈ ops, op.isEdit = true) (heq : r' = (r.performAll ops).repl) {query : String}
    {told : Told LineResult} (htold : r'.selectPrompt query = some told) : Handled r told := by
  have hplain : ∀ op ∈ ops, op.isPlain = true :=
    fun op hop => Operation.isPlain_of_isEdit (hops op hop)
  have htyped : Move r r' := heq ▸ .plain ops hplain
  -- edits say nothing, so what is handed over is the conversation before them
  have htranscript : r'.conversation? = r.conversation? := by
    simp only [conversation?, heq, transcript_performAll]
  unfold selectPrompt at htold
  split at htold
  · obtain rfl := Option.some.inj htold
    exact .inr ⟨by simp [tell], htyped⟩
  · split at htold
    · rename_i command hcommand
      obtain rfl := Option.some.inj htold
      refine .inr ⟨by simp [act], ?_⟩
      have hmove := Move.author (r := r) ops hops command
      rw [← htranscript, ← heq] at hmove
      exact hmove
    · split at htold
      · exact absurd htold (by simp)
      · rename_i group hgroup
        split at htold
        · obtain rfl := Option.some.inj htold
          refine .inr ⟨by simp [act], ?_⟩
          have hmove : Move r (r.performAll (ops ++ [.selectPrompt group])).repl :=
            .plain _ (List.forall_mem_append.mpr ⟨hplain, List.forall_mem_singleton.mpr rfl⟩)
          rw [performAll_append, ← heq] at hmove
          exact hmove
        · obtain rfl := Option.some.inj htold
          exact .inr ⟨by simp [tell], htyped⟩

theorem handled_handleMessage (line : List Char) : Handled r (r.handleMessage line) := by
  obtain ⟨ops, hops, htyped⟩ := exists_edits_typeLine (r := r) line
  unfold handleMessage
  dsimp only
  split
  · refine .inr ⟨result_send_ne, ?_⟩
    rw [htyped]
    exact .send ops hops
  · split
    · rename_i told htold
      exact handled_selectPrompt hops htyped htold
    · refine .inr ⟨result_send_ne, ?_⟩
      have hedits : ∀ op ∈ ops ++ [.closeMenu], op.isEdit = true :=
        List.forall_mem_append.mpr ⟨hops, List.forall_mem_singleton.mpr rfl⟩
      have hmove : Move r (r.performAll (ops ++ [.closeMenu])).repl.send.repl := .send _ hedits
      rw [performAll_append, ← htyped] at hmove
      exact hmove

/-- What any line does. -/
theorem handled_handleLine (initial line : String) : Handled r (r.handleLine initial line) := by
  unfold handleLine
  split
  · rename_i text htext
    split
    · exact handled_fail _
    · rename_i command hcommand
      refine handled_handleCommand ?_
      rintro id rfl
      exact Command.not_isBlank_of_ofChars hcommand
  · exact handled_handleMessage _

end Repl

end Terminal
end Composer
