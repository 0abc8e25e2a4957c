import Composer.Proofs.MessageInput.Merging
import Composer.Proofs.MessageInput.Responding
set_option autoImplicit false

/-!
# Operations that decline

An operation may find that there is nothing for it to do: what it is about is not there, something
is in its way, or what it is given will not do. It finds that out before it touches anything, also
where it has to look into the overlay first. So it leaves the whole input as it was and makes no
call, and a run comes to the same without it.
-/

namespace Composer

/-- Whether an operation's reaction says that nothing was done. A paste that could not be stored has
the same reply as no paste at all, but was tried; the same goes for a response that was to be
stopped. -/
def Reaction.declines (r : Reaction Reply) (op : Operation) : Bool :=
  match op, r.result with
  | .selectPrompt _, .truth b => !b
  | .applyPending _, .applied b _ => !b
  | .submitVariables _, .filled (.error _) => true
  | .paste _, .pasted .ignored => true
  | .paste _, .pasted .insertDefault => true
  | .takeFiles _, .count n => n == 0
  | .savePaste _ _ _, _ => r.calls.isEmpty
  | .discardPaste, .text t => t.isNone
  | .removeFile _, .file f => f.isNone
  | .removeBadge _, .truth b => !b
  | .observeSession _, .session .unchanged => true
  | .cancelResponse, _ => r.calls.isEmpty
  | _, _ => false

theorem SessionTracker.transition_eq_unchanged_iff {t : SessionTracker} {next : Option String} :
    t.transition next = .unchanged ↔ next = t.current := by
  unfold transition
  cases ht : t.current with
  | none => cases next <;> simp
  | some old =>
    dsimp only
    split
    · simpa
    · simpa

namespace MessageInput

variable {m : MessageInput} {session : Session} {op : Operation} {reply : Reply}

/-! ## Reasons -/

/-- Why an operation declines in a state, and what it replies then. -/
inductive Declines (m : MessageInput) (session : Session) : Operation → Reply → Prop where
  | prompt_in_the_way {group : PromptGroup} (hway : m.overlay.givesWay = false) :
      Declines m session (.selectPrompt group) (.truth false)
  | nothing_pending : Declines m session (.applyPending none) (.applied false none)
  /-- The prompt is left for a later call. -/
  | pending_in_the_way {p : PendingPrompt} (hway : m.overlay.givesWay = false) :
      Declines m session (.applyPending (some p)) (.applied false (some p))
  | no_dialog_to_fill {values : VariableValues} (hdialog : m.overlay.dialog? = none) :
      Declines m session (.submitVariables values)
        (.filled (.error (.validation "No prompt is waiting for variables")))
  | values_missing {values : VariableValues} {dialog : VariableDialog}
      (hdialog : m.overlay = .variableDialog dialog)
      (hmissing : Template.missing dialog.group.text values ≠ []) :
      Declines m session (.submitVariables values)
        (.filled (.error (.validation ("Missing values for: "
          ++ ", ".intercalate (Template.missing dialog.group.text values)))))
  | paste_while_responding {clipboard : Clipboard} (hbusy : session.responding = true) :
      Declines m session (.paste clipboard) (.pasted .ignored)
  | paste_left_to_host {text : String} (hidle : session.responding = false)
      (hsmall : m.classifier.classify text = .small) :
      Declines m session (.paste (.text text)) (.pasted .insertDefault)
  | paste_in_the_way {text : String} (hidle : session.responding = false)
      (hlarge : m.classifier.classify text = .large) (hway : m.overlay.givesWay = false) :
      Declines m session (.paste (.text text)) (.pasted .ignored)
  | files_while_responding {files : List Attachment} (hbusy : session.responding = true) :
      Declines m session (.takeFiles files) (.count 0)
  | files_all_selected {files : List Attachment}
      (hselected : ∀ f ∈ files, f.key ∈ m.files.files.map Attachment.key) :
      Declines m session (.takeFiles files) (.count 0)
  | no_paste_to_save {title : String} {choice : MimeChoice} {description : Option String}
      (hpending : m.overlay.pending? = none) :
      Declines m session (.savePaste title choice description) (.badge none)
  | no_paste_to_discard (hpending : m.overlay.pending? = none) :
      Declines m session .discardPaste (.text none)
  | no_file_there {index : Nat} (hbeyond : m.files.files.length ≤ index) :
      Declines m session (.removeFile index) (.file none)
  | no_badge_with_id {id : String} (habsent : ∀ b ∈ m.badges, b.id ≠ id) :
      Declines m session (.removeBadge id) (.truth false)
  | same_session : Declines m session (.observeSession m.tracker.current) (.session .unchanged)
  | no_response (hidle : session.responding = false) : Declines m session .cancelResponse .done
  | no_dialog_to_close (hdialog : m.overlay.dialog? = none) :
      Declines m session .cancelVariables .done

/-! ## Nothing is done -/

/-- An operation that declines leaves the input as it was and makes no call. -/
theorem Declines.perform_eq (h : Declines m session op reply) :
    m.perform session op = { result := reply, input := m } := by
  cases h with
  | prompt_in_the_way hway => simp [perform, selectPrompt, hway]
  | nothing_pending => rfl
  | pending_in_the_way hway => simp [perform, applyPending, hway]
  | @no_dialog_to_fill values hdialog =>
    rcases m.submitVariables_cases values with ⟨-, heq⟩ | ⟨dialog, hopen, -⟩
    · simp only [perform, heq]
    · simp [hopen, Overlay.dialog?] at hdialog
  | @values_missing values _ hdialog hmissing =>
    rcases m.submitVariables_cases values with ⟨hnone, -⟩ | ⟨dialog, hopen, ⟨-, heq⟩ | ⟨hfilled, -⟩⟩
    · simp [hdialog, Overlay.dialog?] at hnone
    · obtain rfl := Overlay.variableDialog.inj (hdialog.symm.trans hopen)
      simp only [perform, heq]
    · obtain rfl := Overlay.variableDialog.inj (hdialog.symm.trans hopen)
      exact absurd hfilled hmissing
  | paste_while_responding hbusy => simp [perform, paste, hbusy]
  | paste_left_to_host hidle hsmall => simp [perform, paste, hidle, hsmall]
  | paste_in_the_way hidle hlarge hway => simp [perform, paste, hidle, hlarge, hway]
  | files_while_responding hbusy => simp [perform, takeFiles, hbusy]
  | @files_all_selected files hselected =>
    have hsame := Selection.merge_eq_self_iff.mpr hselected
    have hadded : m.files.added files = 0 := Selection.added_eq_zero hsame
    rcases m.takeFiles_cases session files with ⟨-, heq⟩ | ⟨-, heq⟩
    · simp only [perform, heq]
    · simp only [perform, heq, hsame, hadded]
  | @no_paste_to_save title choice description hpending =>
    rcases m.savePaste_cases session title choice description with ⟨-, heq⟩ | ⟨content, hopen, -⟩
    · simp only [perform, heq]
    · simp [hopen, Overlay.pending?] at hpending
  | no_paste_to_discard hpending =>
    simp only [perform, discardPaste]
    split
    · rename_i hopen
      simp [hopen, Overlay.pending?] at hpending
    · rfl
  | no_file_there hbeyond =>
    simp [perform, removeFile, Selection.remove, List.eraseIdx_of_length_le hbeyond, hbeyond]
  | @no_badge_with_id id habsent =>
    have hkept : m.badges.filter (fun b => b.id != id) = m.badges :=
      List.filter_eq_self.mpr fun b hb => bne_iff_ne.mpr (habsent b hb)
    have hnone : m.badges.any (fun b => b.id == id) = false :=
      List.any_eq_false.mpr fun b hb => by simpa using habsent b hb
    simp only [perform, removeBadge, hkept, hnone]
  | same_session =>
    have hsame := SessionTracker.transition_eq_unchanged_iff.mpr (rfl : m.tracker.current = _)
    simp only [perform, observeSession, hsame]
    rfl
  | no_response hidle => simp [perform, cancelResponse, hidle]
  | no_dialog_to_close hdialog =>
    simp only [perform, cancelVariables]
    split
    · rename_i hopen
      simp [hopen, Overlay.dialog?] at hdialog
    · rfl

theorem Declines.replied (h : Declines m session op reply) :
    Declines m session op (m.perform session op).result := by
  rw [h.perform_eq]
  exact h

/-! ## Nothing else is reported so -/

/-- What says that nothing was done has one of the reasons. -/
theorem declines_of_reaction (h : (m.perform session op).declines op = true) :
    Declines m session op (m.perform session op).result := by
  cases op with
  | selectPrompt group =>
    rcases m.selectPrompt_cases group with ⟨hway, heq⟩ | ⟨-, ⟨-, heq⟩ | ⟨-, heq⟩⟩
    all_goals simp only [perform, heq] at h ⊢
    · exact .prompt_in_the_way hway
    · exact absurd h Bool.false_ne_true
    · exact absurd h Bool.false_ne_true
  | applyPending pending =>
    rcases m.applyPending_cases pending with
      ⟨rfl, heq⟩ | ⟨p, rfl, ⟨hway, heq⟩ | ⟨-, -, heq⟩ | ⟨-, -, heq⟩⟩
    all_goals simp only [perform, heq] at h ⊢
    · exact .nothing_pending
    · exact .pending_in_the_way hway
    · exact absurd h Bool.false_ne_true
    · exact absurd h Bool.false_ne_true
  | submitVariables values =>
    rcases m.submitVariables_cases values with
      ⟨hdialog, heq⟩ | ⟨dialog, hopen, ⟨hmissing, heq⟩ | ⟨-, heq⟩⟩
    all_goals simp only [perform, heq] at h ⊢
    · exact .no_dialog_to_fill hdialog
    · exact .values_missing hopen hmissing
    · exact absurd h Bool.false_ne_true
  | paste clipboard =>
    rcases m.paste_cases session clipboard with ⟨hbusy, heq⟩ |
      ⟨hidle, ⟨incoming, rfl, heq⟩ | ⟨text, rfl, ⟨hsmall, heq⟩ | ⟨hlarge, hway, heq⟩ | ⟨-, -, heq⟩⟩⟩
    all_goals simp only [perform, heq] at h ⊢
    · exact .paste_while_responding hbusy
    · exact absurd h Bool.false_ne_true
    · exact .paste_left_to_host hidle hsmall
    · exact .paste_in_the_way hidle hlarge hway
    · exact absurd h Bool.false_ne_true
  | takeFiles files =>
    rcases m.takeFiles_cases session files with ⟨hbusy, heq⟩ | ⟨-, heq⟩
    all_goals simp only [perform, heq] at h ⊢
    · exact .files_while_responding hbusy
    · have hnone : m.files.added files = 0 := by simpa [Reaction.declines] using h
      rw [hnone]
      rw [Selection.added_eq, List.length_eq_zero_iff] at hnone
      exact .files_all_selected (Selection.unseen_eq_nil_iff.mp hnone)
  | savePaste title choice description =>
    rcases m.savePaste_cases session title choice description with
      ⟨hpending, heq⟩ | ⟨content, -, ⟨artifact, -, heq⟩ | ⟨e, -, heq⟩⟩
    all_goals simp only [perform, heq] at h ⊢
    · exact .no_paste_to_save hpending
    · exact absurd h Bool.false_ne_true
    · exact absurd h Bool.false_ne_true
  | discardPaste =>
    cases hpending : m.overlay.pending? with
    | none => exact (Declines.no_paste_to_discard hpending).replied
    | some text =>
      have hopen := Overlay.pending?_eq_some_iff.mp hpending
      simp [perform, discardPaste, hopen, Reaction.declines] at h
  | removeFile index =>
    have hnone : m.files.files[index]? = none := by
      simpa [perform, removeFile, Selection.remove, Reaction.declines] using h
    exact (Declines.no_file_there (List.getElem?_eq_none_iff.mp hnone)).replied
  | removeBadge id =>
    have habsent : ∀ b ∈ m.badges, b.id ≠ id := by
      simpa [perform, removeBadge, Reaction.declines] using h
    exact (Declines.no_badge_with_id habsent).replied
  | observeSession id =>
    have hunchanged : m.tracker.transition id = .unchanged := by
      rcases m.observeSession_cases id with ⟨-, heq⟩ | ⟨-, heq⟩
      all_goals
        simp only [perform, heq, Reaction.declines] at h
        split at h <;> simp_all
    obtain rfl := SessionTracker.transition_eq_unchanged_iff.mp hunchanged
    exact Declines.same_session.replied
  | cancelResponse =>
    rcases m.cancelResponse_cases session with ⟨hidle, heq⟩ | ⟨-, -, heq⟩ | ⟨-, e, -, heq⟩
    all_goals simp only [perform, heq] at h ⊢
    · exact .no_response hidle
    · exact absurd h Bool.false_ne_true
    · exact absurd h Bool.false_ne_true
  | _ => exact absurd h Bool.false_ne_true

/-- Only the closing of a dialog does not tell whether there was one. -/
theorem Declines.reported (h : Declines m session op reply) :
    (m.perform session op).declines op = true ∨ op = .cancelVariables := by
  rw [h.perform_eq]
  cases h with
  | no_dialog_to_close hdialog => exact .inr rfl
  | _ => exact .inl rfl

/-! ## Runs -/

/-- The run lemma: an operation that declines may be left out of a run. -/
theorem Declines.inTurn_eq {before later : List (Operation × Session)}
    (h : Declines (m.after before) session op reply) :
    m.inTurn (before ++ (op, session) :: later) = m.inTurn (before ++ later) := by
  have hnothing : (m.after before).inTurn ((op, session) :: later) =
      (m.after before).inTurn later := by
    simp only [inTurn, after_cons, run, List.flatMap_cons, h.perform_eq, List.nil_append]
  rw [inTurn_append, inTurn_append, hnothing]

/-- An operation that reports that it did nothing has a reason for it, and whatever the reason: it
leaves the input exactly as it was, with draft, files, badges, overlay, tracked session and the
requests that wait for the view, and it makes no call. Each of the reasons is reported so, but for a
dialog that is to be closed and is not there. Along every run an operation with such a reason may be
left out; state and calls are the same. -/
theorem declining_changes_nothing (m : MessageInput) :
    (∀ session op, (m.perform session op).declines op = true →
      Declines m session op (m.perform session op).result) ∧
    (∀ session op reply, Declines m session op reply →
      m.perform session op = { result := reply, input := m } ∧
        ((m.perform session op).declines op = true ∨ op = .cancelVariables)) ∧
    ∀ before op session reply later, Declines (m.after before) session op reply →
      m.inTurn (before ++ (op, session) :: later) = m.inTurn (before ++ later) :=
  ⟨fun _ _ => declines_of_reaction, fun _ _ _ h => ⟨h.perform_eq, h.reported⟩,
    fun _ _ _ _ _ h => h.inTurn_eq⟩

/-- A prompt that is selected while a paste waits in its form does nothing. -/
theorem prompt_declined_behind_form :
    let m := start { charThreshold := 2 } .idle
    let group : PromptGroup := { id := "1", name := "b", text := "hi" }
    let paste : Operation × Session := (.paste (.text "ab"), .idle)
    let select : Operation := .selectPrompt group
    let reaction := (m.after [paste]).perform .idle select
    reaction.declines select = true ∧ reaction.input = m.after [paste] ∧ reaction.calls = [] ∧
    m.inTurn [paste, (select, .idle)] = m.inTurn [paste] := by
  intro m group paste select reaction
  have hdeclines : reaction.declines select = true := by decide +kernel
  have hreason := (m.after [paste]).declining_changes_nothing.1 .idle select hdeclines
  obtain ⟨hsame, -⟩ := (m.after [paste]).declining_changes_nothing.2.1 .idle select _ hreason
  have hinput : reaction.input = m.after [paste] := congrArg (fun r => r.input) hsame
  have hcalls : reaction.calls = [] := congrArg (fun r => r.calls) hsame
  refine ⟨hdeclines, hinput, hcalls, ?_⟩
  exact m.declining_changes_nothing.2.2 [paste] select .idle _ [] hreason

end MessageInput
end Composer
