import Composer.Proofs.Backend.Calls
import Composer.Proofs.MessageInput.Sending
set_option autoImplicit false

/-!
# Errors that a body reports

A body can report an error whatever its status is. For an upload the report counts in any case.
For a message and for a request to stop the status is asked first, so that a report under a status
of success is not heard, and a message is taken for sent.
-/

namespace Composer

/-- An answer that cannot be read is not a refusal. -/
theorem Reply.parse_ne_refusal (body reason : String) :
    Reply.parse body ≠ .error (.refusal reason) := by
  unfold Reply.parse
  split
  · simp
  · split <;> simp [Fault.badJson, Fault.refusal]

namespace Backend

/-- The reason that the report of an error gives, empty if it gives none. -/
def reasonIn (e : Json) : String :=
  ((e.get? "message").bind Json.asString?).getD (e.asString?.getD "")

variable {r : Response} {members : List (String × Json)} {e : Json}

/-! ## Verdicts -/

theorem errorReason?_eq (v : Json) : errorReason? v = (v.get? "error").map reasonIn := by
  unfold errorReason?
  cases v.get? "error" <;> rfl

theorem errorReason?_of_lookup (h : members.lookup "error" = some e) :
    errorReason? (.object members) = some (reasonIn e) := by
  rw [errorReason?_eq, Json.get?, h, Option.map_some]

theorem refusalIn_of_reported (hbody : Json.parse r.body = .ok (.object members))
    (herror : members.lookup "error" = some e) : refusalIn r.body = .refusal (reasonIn e) := by
  simp only [refusalIn, hbody, errorReason?_of_lookup herror, Option.getD_some]

theorem artifactIn_of_reported (hbody : Json.parse r.body = .ok (.object members))
    (herror : members.lookup "error" = some e) :
    artifactIn r = .error (.refusal (reasonIn e)) := by
  simp only [artifactIn, hbody, errorReason?_of_lookup herror]

theorem replyIn_of_reported (hbody : Json.parse r.body = .ok (.object members))
    (herror : members.lookup "error" = some e) :
    replyIn r = if r.isSuccess then Reply.parse r.body else .error (.refusal (reasonIn e)) := by
  simp only [replyIn, refusalIn_of_reported hbody herror]

theorem acceptance_of_reported (hbody : Json.parse r.body = .ok (.object members))
    (herror : members.lookup "error" = some e) :
    acceptance r = if r.isSuccess then .ok () else .error (.refusal (reasonIn e)) := by
  simp only [acceptance, refusalIn_of_reported hbody herror]

/-! ## Calls -/

variable {b : Backend} {server : Server} {id : String}

theorem result_upload {file : ArtifactUpload} {sessionId : Option String}
    (h : (server.post b.artifactsUrl (uploadJson file sessionId)).1 = .ok r) :
    (b.upload server file sessionId).1 = artifactIn r := by
  simp only [upload, h, Except.bind]
  cases artifactIn r <;> rfl

theorem result_submit {files : List Attachment} {message : String} (hid : b.sessionId = some id)
    (h : (server.post (b.messagesUrl id) (messageJson message files)).1 = .ok r) :
    (b.submit server files message).1 = (replyIn r).map fun _ => () := by
  simp only [submit, hid, h, Except.bind]
  cases replyIn r with
  | error e => rfl
  | ok reply => cases reply <;> rfl

theorem result_cancel (hid : b.sessionId = some id)
    (h : (server.post (b.cancelUrl id) (.object [])).1 = .ok r) :
    (b.cancel server).1 = acceptance r := by
  simp only [cancel, hid]
  split
  · rename_i fault _ hpost
    rw [hpost] at h
    exact absurd h (by simp)
  · rename_i answer _ hpost
    rw [hpost] at h
    rw [Except.ok.inj h]

/-! ## The input -/

/-- An input whose message fails keeps what was composed, and only then. -/
theorem kept_iff {m : MessageInput} {session : Session} (hcan : m.canSubmit session = true) :
    ((m.submit session).input.draft = m.draft ∧ (m.submit session).input.files = m.files) ↔
      ∃ fault, session.submit m.files.files m.draft.message = .error fault := by
  cases hresult : session.submit m.files.files m.draft.message with
  | error fault =>
    rw [MessageInput.submit_of_error hcan hresult]
    exact ⟨fun _ => ⟨fault, rfl⟩, fun _ => ⟨rfl, rfl⟩⟩
  | ok _ =>
    rw [MessageInput.submit_of_ok hcan hresult]
    obtain ⟨hdraft, hfiles, -⟩ := m.emptied_spec
    obtain ⟨-, hsomething⟩ := MessageInput.canSubmit_iff.mp hcan
    constructor
    · rintro ⟨hsame, hsameFiles⟩
      -- an input that can be submitted is not empty
      rw [← hsame, hdraft, ← hsameFiles, hfiles] at hsomething
      rcases hsomething with htext | hchosen
      · exact absurd htext (by decide)
      · exact absurd rfl hchosen
    · rintro ⟨fault, hfault⟩
      exact absurd hfault (by simp)

/-! ## Refusals -/

/-- A message is refused for what its answer reports exactly if the status asks for it. -/
theorem submit_refused_iff {files : List Attachment} {message : String}
    (hbody : Json.parse r.body = .ok (.object members)) (herror : members.lookup "error" = some e)
    (hid : b.sessionId = some id)
    (hpost : (server.post (b.messagesUrl id) (messageJson message files)).1 = .ok r) :
    (b.submit server files message).1 = .error (.refusal (reasonIn e)) ↔ r.isSuccess = false := by
  rw [result_submit hid hpost, replyIn_of_reported hbody herror]
  cases r.isSuccess with
  | false => exact ⟨fun _ => rfl, fun _ => rfl⟩
  | true =>
    refine ⟨?_, fun h => absurd h (by simp)⟩
    intro hrefused
    cases hparse : Reply.parse r.body with
    | ok reply =>
      rw [hparse] at hrefused
      exact absurd hrefused (by simp [Except.map])
    | error fault =>
      rw [hparse] at hrefused
      obtain rfl : fault = .refusal (reasonIn e) := Except.error.inj hrefused
      exact absurd hparse (Reply.parse_ne_refusal r.body _)

/-- So is a request to stop. -/
theorem cancel_refused_iff (hbody : Json.parse r.body = .ok (.object members))
    (herror : members.lookup "error" = some e) (hid : b.sessionId = some id)
    (hpost : (server.post (b.cancelUrl id) (.object [])).1 = .ok r) :
    (b.cancel server).1 = .error (.refusal (reasonIn e)) ↔ r.isSuccess = false := by
  rw [result_cancel hid hpost, acceptance_of_reported hbody herror]
  cases r.isSuccess with
  | false => exact ⟨fun _ => rfl, fun _ => rfl⟩
  | true => simp

/-- A message that cannot be told to have arrived stays in the input. -/
theorem kept_iff_of_reported {m : MessageInput} {freshId : String} {now : Instant}
    (hbody : Json.parse r.body = .ok (.object members)) (herror : members.lookup "error" = some e)
    (hid : b.sessionId = some id) (hcan : m.canSubmit (b.session server freshId now) = true)
    (hpost : (server.post (b.messagesUrl id)
      (messageJson m.draft.message m.files.files)).1 = .ok r) :
    ((m.submit (b.session server freshId now)).input.draft = m.draft ∧
      (m.submit (b.session server freshId now)).input.files = m.files) ↔
      r.isSuccess = false ∨ ∃ fault, Reply.parse r.body = .error fault := by
  have hanswer : (b.session server freshId now).submit m.files.files m.draft.message
      = (replyIn r).map fun _ => () := result_submit hid hpost
  rw [kept_iff hcan, hanswer, replyIn_of_reported hbody herror]
  cases r.isSuccess with
  | false => simp [Except.map]
  | true => cases Reply.parse r.body <;> simp [Except.map]

/-- Where the body of an answer reports an error, an upload is refused for its reason; a message and
a request to stop are refused for it exactly if the status is not one of success. An input keeps
what was composed exactly if the status is not one of success or the answer cannot be read. -/
theorem reported_error_refused_iff (r : Response) (members : List (String × Json)) (e : Json)
    (hbody : Json.parse r.body = .ok (.object members))
    (herror : members.lookup "error" = some e) :
    let refusal : Fault :=
      .refusal (((e.get? "message").bind Json.asString?).getD (e.asString?.getD ""))
    (∀ (b : Backend) server file sessionId,
      (server.post b.artifactsUrl (uploadJson file sessionId)).1 = .ok r →
      (b.upload server file sessionId).1 = .error refusal) ∧
    ∀ (b : Backend) server id, b.sessionId = some id →
      (∀ files message, (server.post (b.messagesUrl id) (messageJson message files)).1 = .ok r →
        ((b.submit server files message).1 = .error refusal ↔ r.isSuccess = false)) ∧
      ((server.post (b.cancelUrl id) (.object [])).1 = .ok r →
        ((b.cancel server).1 = .error refusal ↔ r.isSuccess = false)) ∧
      ∀ (m : MessageInput) freshId now,
        let session := b.session server freshId now
        let after := (m.submit session).input
        m.canSubmit session = true →
        (server.post (b.messagesUrl id) (messageJson m.draft.message m.files.files)).1 = .ok r →
        (after.draft = m.draft ∧ after.files = m.files ↔
          r.isSuccess = false ∨ ∃ fault, Reply.parse r.body = .error fault) := by
  intro refusal
  refine ⟨?_, ?_⟩
  · intro b server file sessionId hpost
    rw [result_upload hpost]
    exact artifactIn_of_reported hbody herror
  · intro b server id hid
    refine ⟨?_, ?_, ?_⟩
    · intro files message hpost
      exact submit_refused_iff hbody herror hid hpost
    · intro hpost
      exact cancel_refused_iff hbody herror hid hpost
    · intro m freshId now session after hcan hpost
      exact kept_iff_of_reported hbody herror hid hcan hpost

/-- A connection in a session `s` of a server on this machine. -/
def localLink (id : String) : Backend := { connect "http://[::1]" with sessionId := some id }

/-- A report under the status of a conflict is heard. -/
theorem conflict_refused :
    let r : Response := { status := 409, body := "\x7b\"error\":\"no\"\x7d" }
    let server : Server :=
      { authority := "[::1]", answers := [.response r.status (Utf8.encode r.body)] }
    Json.parse r.body = .ok (.object [("error", .string "no")]) ∧
      ((localLink "s").submit server [] "hi").1 = .error (.backend "no") := by
  intro r server
  have hbody : Json.parse r.body = .ok (.object [("error", .string "no")]) := by cbv
  have hall := reported_error_refused_iff r [("error", .string "no")] (.string "no") hbody rfl
  have hpost : (server.post ((localLink "s").messagesUrl "s") (messageJson "hi" [])).1 = .ok r := by
    decide +kernel
  exact ⟨hbody, ((hall.2 (localLink "s") server "s" rfl).1 [] "hi" hpost).mpr rfl⟩

/-- A report under a status of success is not heard: the message is taken for sent and leaves the
input, while an upload with the same answer is refused. -/
theorem reported_error_taken_for_sent :
    let r : Response := { status := 200, body := "\x7b\"error\":\"no\"\x7d" }
    let server : Server :=
      { authority := "[::1]", answers := [.response r.status (Utf8.encode r.body)] }
    let session := (localLink "s").session server "" ⟨0, 0⟩
    let m := (MessageInput.start {} session).changeText "hi" 2
    artifactIn r = .error (.backend "no") ∧
      ((localLink "s").submit server [] "hi").1 = .ok () ∧
      m.draft.text = "hi" ∧ (m.submit session).input.draft.text = "" := by
  decide +kernel

end Backend
end Composer
