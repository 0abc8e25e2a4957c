import Composer.Proofs.Artifact.Naming
import Composer.Proofs.MessageInput.Exclusive
import Composer.Proofs.MessageInput.Responding
import Composer.Proofs.Text.Encoding
set_option autoImplicit false

/-!
# From a paste to an artifact

A large paste waits in its form until it is stored or discarded, or another session is seen.
Whatever is done in between, it is stored as it was pasted, byte by byte, under a name made of the
title and the extension of its MIME type. The form is closed whether the backend takes it or not.
-/

namespace Composer

/-- What a pasted text is uploaded as. -/
structure ArtifactUpload.Faithful (file : ArtifactUpload) (text title : String)
    (choice : MimeChoice) (description : Option String) : Prop where
  bytes : file.data = Utf8.encode text
  readable : Utf8.decode? file.data = some text
  mime_of_choice : ∀ mime, choice = .explicit mime → file.mime = mime
  mime_of_text : choice = .auto → file.mime = Detection.mimeType text
  extension : Text.endsWith file.name ("." ++ ArtifactUpload.extensionOf file.mime) = true
  title : Text.startsWith file.name
    (if Text.isBlank title then "pasted-text" else Text.trim title) = true
  /-- The name may as well be given for a title. -/
  name_as_title :
    ArtifactUpload.nameFor file.name (ArtifactUpload.extensionOf file.mime) = file.name
  description : file.description = Text.nonBlank? description

namespace ArtifactUpload

theorem faithful_ofPaste (text title : String) (choice : MimeChoice) (description : Option String) :
    (ofPaste title choice description text).Faithful text title choice description where
  bytes := rfl
  readable := Utf8.decode?_encode text
  mime_of_choice := by
    rintro mime rfl
    rfl
  mime_of_text := by
    rintro rfl
    rfl
  extension := endsWith_nameFor title _
  title := startsWith_nameFor title _
  name_as_title := nameFor_nameFor title (isWord_extensionOf _)
  description := rfl

end ArtifactUpload

/-- Whether a call is an upload. -/
def Call.isUpload : Call → Bool
  | .upload _ _ => true
  | _ => false

namespace MessageInput

variable {m : MessageInput} {session : Session} {text : String}

/-! ## Waiting -/

/-- Whether an operation takes a paste out of its form: it stores or discards it, or sees another
session. -/
def releases (m : MessageInput) : Operation → Bool
  | .savePaste _ _ _ => true
  | .discardPaste => true
  | .observeSession id => (m.tracker.transition id).requiresReset
  | _ => false

/-- No operation of the run takes a paste out of its form. -/
def Holds (m : MessageInput) : List (Operation × Session) → Prop
  | [] => True
  | (op, session) :: ops => m.releases op = false ∧ (m.perform session op).input.Holds ops

/-- The step lemma: what does not release a paste leaves it in its form. -/
theorem overlay_perform_of_form (hform : m.overlay = .artifactForm text) (session : Session)
    {op : Operation} (h : m.releases op = false) :
    (m.perform session op).input.overlay = .artifactForm text := by
  have hway : m.overlay.givesWay = false := by rw [hform]; rfl
  have hcloses : op.closes (m.perform session op).result m.overlay = false := by
    rw [hform]
    cases op with
    | savePaste title choice description => exact absurd h (by simp [releases])
    | discardPaste => exact absurd h (by simp [releases])
    | observeSession id =>
      rcases m.observeSession_cases id with ⟨-, heq⟩ | ⟨-, heq⟩
      all_goals
        simp only [perform, heq]
        exact h
    | _ => simp [Operation.closes]
  rw [overlay_perform_of_not_givesWay hway session op, hcloses, if_neg Bool.false_ne_true, hform]

/-- The run lemma. -/
theorem Holds.after {ops : List (Operation × Session)} (h : m.Holds ops)
    (hform : m.overlay = .artifactForm text) : (m.after ops).overlay = .artifactForm text := by
  induction ops generalizing m with
  | nil => exact hform
  | cons step ops ih =>
    obtain ⟨op, session⟩ := step
    obtain ⟨hkept, hrest⟩ := h
    exact ih hrest (overlay_perform_of_form hform session hkept)

/-! ## Storing -/

/-- What storing the paste in the form comes to, with the answer of the session. -/
structure Stored (m : MessageInput) (session : Session) (file : ArtifactUpload)
    (r : Reaction (Option Badge)) : Prop where
  one_upload : r.calls.filter Call.isUpload = [.upload file session.id]
  form_closed : r.input.overlay = .none
  draft_kept : r.input.draft = m.draft
  files_kept : r.input.files = m.files
  /-- A badge with the file's name comes behind the others, and the list of artifacts is loaded anew
  once. -/
  taken : ∀ artifact, session.upload file session.id = .ok artifact →
    r.calls = [.upload file session.id, .refresh] ∧
    ∃ badge, r.result = some badge ∧ badge.artifact = artifact ∧ badge.displayName = file.name ∧
      r.input.badges = m.badges ++ [badge]
  not_taken : ∀ e, session.upload file session.id = .error e →
    r.calls = [.upload file session.id, failure "Failed to save pasted content" e] ∧
    r.result = none ∧ r.input.badges = m.badges

theorem stored_of_form (hform : m.overlay = .artifactForm text) (session : Session) (title : String)
    (choice : MimeChoice) (description : Option String) :
    Stored m session (.ofPaste title choice description text)
      (m.savePaste session title choice description) := by
  rcases m.savePaste_cases session title choice description with
    ⟨hnone, -⟩ | ⟨content, hopen, hcases⟩
  · rw [hform] at hnone
    exact absurd hnone (by simp [Overlay.pending?])
  · obtain rfl := Overlay.artifactForm.inj (hform.symm.trans hopen)
    rcases hcases with ⟨artifact, hupload, heq⟩ | ⟨e, hupload, heq⟩
    · rw [heq]
      refine ⟨rfl, rfl, rfl, rfl, ?_, ?_⟩
      · intro artifact' hupload'
        obtain rfl := Except.ok.inj (hupload.symm.trans hupload')
        exact ⟨rfl, _, rfl, rfl, rfl, rfl⟩
      · intro e hfailed
        exact absurd (hupload.symm.trans hfailed) (by simp)
    · rw [heq]
      refine ⟨rfl, rfl, rfl, rfl, ?_, ?_⟩
      · intro artifact htaken
        exact absurd (hupload.symm.trans htaken) (by simp)
      · intro e' hupload'
        obtain rfl := Except.error.inj (hupload.symm.trans hupload')
        exact ⟨rfl, rfl, rfl⟩

/-- A text that is too large for the draft, pasted while no response is in progress and nothing is
open but maybe the list of prompts, waits in the form. Whatever follows, as long as it is not
stored, discarded or dropped with its session, the text is in the form; and when it is stored
then, one upload is made, with the text's very bytes, its MIME type and its name. The form is
closed afterwards, draft and files are as before, and there is one badge more, under the file's
name, exactly if the upload succeeds. -/
theorem paste_stored_as_pasted (hidle : session.responding = false)
    (hway : m.overlay.givesWay = true) (hlarge : m.classifier.classify text = .large) :
    let held : MessageInput := { m with overlay := .artifactForm text }
    m.paste session (.text text) = (.artifactPending, held) ∧
    ∀ meanwhile : List InputStep, held.Holds (meanwhile.flatMap InputStep.operations) →
      let before := (held.steps meanwhile).input
      before.overlay = .artifactForm text ∧
      ∀ view title choice description, ∃ file : ArtifactUpload,
        file.Faithful text title choice description ∧
        Stored before view file (before.savePaste view title choice description) := by
  intro held
  constructor
  · rcases m.paste_cases session (.text text) with ⟨hbusy, -⟩ |
      ⟨-, ⟨incoming, hfiles, -⟩ | ⟨pasted, htext, ⟨hsmall, -⟩ | ⟨-, hnot, -⟩ | ⟨-, -, heq⟩⟩⟩
    · exact absurd (hbusy.symm.trans hidle) (by decide)
    · exact absurd hfiles (by simp)
    · obtain rfl := Clipboard.text.inj htext
      exact absurd (hsmall.symm.trans hlarge) (by decide)
    · exact absurd (hnot.symm.trans hway) (by decide)
    · obtain rfl := Clipboard.text.inj htext
      exact heq
  · intro meanwhile hholds before
    have hbefore : before = held.after (meanwhile.flatMap InputStep.operations) :=
      congrArg Reaction.input (held.steps_eq_inTurn meanwhile)
    have hform : before.overlay = .artifactForm text := by
      rw [hbefore]
      exact hholds.after rfl
    refine ⟨hform, fun view title choice description => ?_⟩
    exact ⟨.ofPaste title choice description text,
      ArtifactUpload.faithful_ofPaste text title choice description,
      stored_of_form hform view title choice description⟩

/-- Meanwhile a question arrives and another text is pasted in vain; then the first one is
stored. -/
theorem notes_stored_after_question :
    let m := start { charThreshold := 2 } .idle
    let held : MessageInput := { m with overlay := .artifactForm " a" }
    let bus := (({ capacity := 1 } : SignalBus).subscribe.2.publish
      (.followUp "x" (some "why?") true)).2
    let meanwhile : List InputStep :=
      [.drain (fun _ => .idle) bus 0, .perform (.paste (.text "bc")) .idle]
    Session.idle.responding = false ∧ m.overlay.givesWay = true ∧
    m.classifier.classify " a" = .large ∧ held.Holds (meanwhile.flatMap InputStep.operations) ∧
    m.paste .idle (.text " a") = (.artifactPending, held) ∧
    ∃ file : ArtifactUpload, file.Faithful " a" " notes " .auto none ∧
      Stored (held.steps meanwhile).input .idle file
        ((held.steps meanwhile).input.savePaste .idle " notes " .auto none) ∧
      file.data = [32, 97] := by
  intro m held bus meanwhile
  have hway : m.overlay.givesWay = true := by decide
  have hlarge : m.classifier.classify " a" = .large := by decide
  have hholds : held.Holds (meanwhile.flatMap InputStep.operations) := ⟨rfl, rfl, trivial⟩
  have hidle : Session.idle.responding = false := rfl
  obtain ⟨hpasted, hmeanwhile⟩ := paste_stored_as_pasted hidle hway hlarge
  obtain ⟨-, hstored⟩ := hmeanwhile meanwhile hholds
  obtain ⟨file, hfaithful, hfile⟩ := hstored .idle " notes " .auto none
  refine ⟨hidle, hway, hlarge, hholds, hpasted, file, hfaithful, hfile, ?_⟩
  rw [hfaithful.bytes]
  decide

end MessageInput
end Composer
