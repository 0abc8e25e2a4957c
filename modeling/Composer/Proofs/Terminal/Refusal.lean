import Composer.Proofs.Terminal.Typing
set_option autoImplicit false

/-!
# Lines that are refused

A line is refused if it is no command that can be read, if a file that it names cannot be read, or
if it is about something that is not there. That is found out before anything is done, so a
refused line leaves everything as it was: the input, the connection, the server, the bus and the
transcript.
-/

namespace Composer.Terminal.Repl

variable {r : Repl} {e : LineError}

/-! ## Reasons -/

/-- Why a command is refused in a state. -/
inductive Refuses (r : Repl) : Command → LineError → Prop where
  /-- The first of the files that cannot be read is named, wherever it stands. -/
  | attach {before after : List String} {path : String} {fault : Fault}
      (hreadable : ∀ p ∈ before, ∃ f, r.disk.attachment p = .ok f)
      (hunreadable : r.disk.attachment path = .error fault) :
      Refuses r (.attach (before ++ path :: after)) (.cannotAttach path fault)
  | paste {path : String} {fault : Fault} (hunreadable : r.disk.text path = .error fault) :
      Refuses r (.paste path) (.cannotRead path fault)
  | save {title : String} {mime : MimeChoice} (hnothing : r.input.overlay.pending? = none) :
      Refuses r (.save title mime) .nothingToSave
  | discard (hnothing : r.input.overlay.pending? = none) : Refuses r .discard .nothingPending
  | remove {index : Nat} (hbeyond : r.input.files.files.length ≤ index) :
      Refuses r (.remove index) (.noFile (index + 1))
  | unlink {index : Nat} (hbeyond : r.input.badges.length ≤ index) :
      Refuses r (.unlink index) (.noArtifact (index + 1))

/-- Why a line is refused: the command in it cannot be read, or is refused. -/
inductive RefusesLine (r : Repl) (initial line : String) : LineError → Prop where
  | unread {text : List Char} {e : CommandError}
      (hcommand : commandIn? initial.toList line.toList = some text)
      (hunread : Command.ofChars text = .error e) : RefusesLine r initial line (.badCommand e)
  | refused {text : List Char} {command : Command} {e : LineError}
      (hcommand : commandIn? initial.toList line.toList = some text)
      (hread : Command.ofChars text = .ok command) (hrefused : r.Refuses command e) :
      RefusesLine r initial line e

/-! ## Files -/

theorem loadAll_of_unreadable {d : Disk} {before after : List String} {path : String}
    {fault : Fault} (hreadable : ∀ p ∈ before, ∃ f, d.attachment p = .ok f)
    (hunreadable : d.attachment path = .error fault) :
    loadAll d (before ++ path :: after) = .error (.cannotAttach path fault) := by
  induction before with
  | nil => simp only [List.nil_append, loadAll, hunreadable]
  | cons p before ih =>
    obtain ⟨⟨f, hf⟩, hbefore⟩ := List.forall_mem_cons.mp hreadable
    have hrest := ih hbefore
    simp only [List.cons_append, loadAll, hf, hrest]
    rfl

theorem exists_unreadable {d : Disk} {paths : List String} (h : loadAll d paths = .error e) :
    ∃ before path after fault, paths = before ++ path :: after ∧
      (∀ p ∈ before, ∃ f, d.attachment p = .ok f) ∧ d.attachment path = .error fault ∧
      e = .cannotAttach path fault := by
  induction paths with
  | nil => exact absurd h (by simp [loadAll])
  | cons p paths ih =>
    cases hp : d.attachment p with
    | error fault =>
      simp only [loadAll, hp] at h
      exact ⟨[], p, paths, fault, rfl, by simp, hp, (Except.error.inj h).symm⟩
    | ok f =>
      simp only [loadAll, hp] at h
      cases hrest : loadAll d paths with
      | ok files =>
        rw [hrest] at h
        exact absurd h (by simp [Except.map])
      | error e' =>
        rw [hrest] at h
        obtain rfl := Except.error.inj h
        obtain ⟨before, path, after, fault, rfl, hreadable, hunreadable⟩ := ih hrest
        refine ⟨p :: before, path, after, fault, rfl, ?_, hunreadable⟩
        exact List.forall_mem_cons.mpr ⟨⟨f, hp⟩, hreadable⟩

/-! ## Commands -/

/-- A command that is refused does nothing but say why. -/
theorem Refuses.handleCommand {command : Command} (h : r.Refuses command e) :
    r.handleCommand command = r.fail e := by
  cases h with
  | attach hreadable hunreadable =>
    simp only [Repl.handleCommand, Repl.attach, loadAll_of_unreadable hreadable hunreadable]
  | paste hunreadable => simp only [Repl.handleCommand, hunreadable]
  | save hnothing => simp [Repl.handleCommand, Repl.save, hnothing]
  | discard hnothing => simp only [Repl.handleCommand, hnothing]
  | remove hbeyond => simp only [Repl.handleCommand, List.getElem?_eq_none hbeyond]
  | unlink hbeyond => simp only [Repl.handleCommand, List.getElem?_eq_none hbeyond]

theorem result_pasteText (r : Repl) (text : String) : (r.pasteText text).result = .ok true := by
  unfold pasteText
  dsimp only
  split <;> rfl

/-- There is a reason for every command that is refused. -/
theorem refuses_of_result_error {command : Command}
    (h : (r.handleCommand command).result = .error e) : r.Refuses command e := by
  cases command with
  | attach paths =>
    simp only [handleCommand, attach] at h
    split at h
    · rename_i hload
      obtain rfl := Except.error.inj h
      obtain ⟨before, path, after, fault, rfl, hreadable, hunreadable, rfl⟩ :=
        exists_unreadable hload
      exact .attach hreadable hunreadable
    · exact absurd h (by simp)
  | paste path =>
    simp only [handleCommand] at h
    split at h
    · rename_i hread
      obtain rfl := Except.error.inj h
      exact .paste hread
    · rw [result_pasteText] at h
      exact absurd h (by simp)
  | save title mime =>
    simp only [handleCommand, save] at h
    split at h
    · rename_i hnothing
      obtain rfl := Except.error.inj h
      exact .save (Option.isNone_iff_eq_none.mp hnothing)
    · exact absurd h (by simp)
  | discard =>
    simp only [handleCommand] at h
    split at h
    · rename_i hnothing
      obtain rfl := Except.error.inj h
      exact .discard hnothing
    · exact absurd h (by simp [tell])
  | remove index =>
    simp only [handleCommand] at h
    split at h
    · rename_i hnone
      obtain rfl := Except.error.inj h
      exact .remove (List.getElem?_eq_none_iff.mp hnone)
    · exact absurd h (by simp [tell])
  | unlink index =>
    simp only [handleCommand] at h
    split at h
    · rename_i hnone
      obtain rfl := Except.error.inj h
      exact .unlink (List.getElem?_eq_none_iff.mp hnone)
    · exact absurd h (by simp [act])
  | _ => exact absurd h (by simp [handleCommand, tell, act, switchSession])

/-! ## Lines -/

/-- A query that leads to something is no error. -/
theorem result_selectPrompt {query : String} {told : Told LineResult}
    (h : r.selectPrompt query = some told) : told.result = .ok true := by
  unfold selectPrompt at h
  split at h
  · obtain rfl := Option.some.inj h
    rfl
  · split at h
    · obtain rfl := Option.some.inj h
      rfl
    · split at h
      · exact absurd h (by simp)
      · split at h
        · obtain rfl := Option.some.inj h
          rfl
        · obtain rfl := Option.some.inj h
          rfl

/-- A message is never refused. -/
theorem result_handleMessage (r : Repl) (line : List Char) :
    (r.handleMessage line).result = .ok true := by
  unfold handleMessage
  dsimp only
  split
  · exact (send_spec _).1
  · split
    · rename_i told htold
      exact result_selectPrompt htold
    · exact (send_spec _).1

theorem RefusesLine.handleLine {initial line : String} (h : r.RefusesLine initial line e) :
    r.handleLine initial line = r.fail e := by
  cases h with
  | unread hcommand hunread => simp only [Repl.handleLine, hcommand, hunread]
  | refused hcommand hread hrefused =>
    simp only [Repl.handleLine, hcommand, hread, hrefused.handleCommand]

theorem refusesLine_of_result_error {initial line : String}
    (h : (r.handleLine initial line).result = .error e) : r.RefusesLine initial line e := by
  unfold handleLine at h
  split at h
  · rename_i text hcommand
    split at h
    · rename_i bad hunread
      obtain rfl := Except.error.inj h
      exact .unread hcommand hunread
    · rename_i command hread
      exact .refused hcommand hread (refuses_of_result_error h)
  · rw [result_handleMessage] at h
    exact absurd h (by simp)

/-- A line ends in an error exactly if there is a reason to refuse it, and then the whole state is
as it was before and nothing was told but the error. -/
theorem refused_line_changes_nothing (r : Repl) (initial line : String) (e : LineError) :
    ((r.handleLine initial line).result = .error e ↔ r.RefusesLine initial line e) ∧
    ((r.handleLine initial line).result = .error e →
      (r.handleLine initial line).repl = r ∧ (r.handleLine initial line).notices = []) := by
  have hrefused : (r.handleLine initial line).result = .error e →
      r.handleLine initial line = r.fail e :=
    fun h => (refusesLine_of_result_error h).handleLine
  refine ⟨⟨refusesLine_of_result_error, ?_⟩, ?_⟩
  · intro h
    rw [h.handleLine]
    rfl
  · intro h
    rw [hrefused h]
    exact ⟨rfl, rfl⟩

end Composer.Terminal.Repl
