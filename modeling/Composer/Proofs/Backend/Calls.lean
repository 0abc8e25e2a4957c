import Composer.Backend
set_option autoImplicit false

/-!
# What a call does to the backend

A call may send a request, which changes the connection, and may tell of events. What it does to the
connection does not depend on the events that wait; these only become more. A session that is active
stays active, and one that is assigned becomes active.
-/

namespace Composer

/-- The reply that an event brings. -/
def BackendEvent.reply? : BackendEvent → Option String
  | .reply text => some text
  | _ => none

/-- What an event says about a response in progress. -/
def BackendEvent.flag? : BackendEvent → Option Bool
  | .responding isResponding => some isResponding
  | _ => none

/-- The session that an event assigns. -/
def BackendEvent.assigned? : BackendEvent → Option String
  | .sessionAssigned id => some id
  | _ => none

namespace Backend

variable (b : Backend) (server : Server)

/-! ## Messages -/

/-- The answer to a message: its reply, if it has one. -/
def answer (files : List Attachment) (message : String) : Except Fault (Option String) :=
  match b.sessionId with
  | none => .error noSession
  | some id => (server.post (b.messagesUrl id) (messageJson message files)).1.bind replyIn

/-- The reply to a call. -/
def replyTo? : Call → Option String
  | .submit message files =>
    match b.answer server files message with
    | .ok reply => reply
    | .error _ => none
  | _ => none

/-- A message is not sent for want of a session, or it fails, or it arrives, with a reply or
without. -/
theorem submit_cases (files : List Attachment) (message : String) :
    (b.sessionId = none ∧ b.submit server files message = (.error noSession, b, server)) ∨
    ∃ id, b.sessionId = some id ∧
      let later := (server.post (b.messagesUrl id) (messageJson message files)).2
      (∃ e, b.answer server files message = .error e ∧
        b.submit server files message =
          (.error e, (b.setResponding true).setResponding false, later)) ∨
      (b.answer server files message = .ok none ∧
        b.submit server files message =
          (.ok (), (b.setResponding true).setResponding false, later)) ∨
      ∃ reply, b.answer server files message = .ok (some reply) ∧
        b.submit server files message =
          (.ok (), ((b.setResponding true).emit (.reply reply)).setResponding false, later) := by
  cases hid : b.sessionId with
  | none => exact .inl ⟨rfl, by simp only [submit, hid]⟩
  | some id =>
    refine .inr ⟨id, rfl, ?_⟩
    dsimp only
    cases hanswer : (server.post (b.messagesUrl id) (messageJson message files)).1.bind replyIn with
    | error e =>
      exact .inl ⟨e, by simp only [answer, hid, hanswer], by simp only [submit, hid, hanswer]⟩
    | ok reply =>
      cases reply with
      | none =>
        exact .inr (.inl
          ⟨by simp only [answer, hid, hanswer], by simp only [submit, hid, hanswer]⟩)
      | some reply =>
        exact .inr (.inr
          ⟨reply, by simp only [answer, hid, hanswer], by simp only [submit, hid, hanswer]⟩)

/-- A message that arrives was sent in a session and has an answer. -/
theorem answer_of_submit_ok {files : List Attachment} {message : String}
    (h : (b.submit server files message).1 = .ok ()) :
    ∃ id reply, b.sessionId = some id ∧ b.answer server files message = .ok reply := by
  rcases b.submit_cases server files message with
    ⟨-, heq⟩ | ⟨id, hid, ⟨e, -, heq⟩ | ⟨hanswer, -⟩ | ⟨reply, hanswer, -⟩⟩
  · rw [heq] at h
    exact absurd h (by simp)
  · rw [heq] at h
    exact absurd h (by simp)
  · exact ⟨id, none, hid, hanswer⟩
  · exact ⟨id, some reply, hid, hanswer⟩

theorem answer_of_submit_error {files : List Attachment} {message : String} {e : Fault}
    (h : (b.submit server files message).1 = .error e) :
    b.answer server files message = .error e := by
  rcases b.submit_cases server files message with
    ⟨hid, heq⟩ | ⟨id, -, ⟨e', hanswer, heq⟩ | ⟨-, heq⟩ | ⟨reply, -, heq⟩⟩
  · rw [heq] at h
    simp only [answer, hid, Except.error.inj h]
  · rw [heq] at h
    rw [hanswer, Except.error.inj h]
  · rw [heq] at h
    exact absurd h (by simp)
  · rw [heq] at h
    exact absurd h (by simp)

/-! ## Events -/

/-- What may lie between two states of a connection that is listened to: so many replies have come
in, an active session stays active, and a session that was assigned is active. -/
structure Tells (before after : Backend) (replies : List String) : Prop where
  listening : before.isListening = true → after.isListening = true
  replies : before.isListening = true →
    after.events.filterMap BackendEvent.reply? =
      before.events.filterMap BackendEvent.reply? ++ replies
  keeps : ∀ id, before.sessionId = some id → after.sessionId = some id
  assigns : ∀ id, .sessionAssigned id ∈ after.events →
    .sessionAssigned id ∈ before.events ∨ (before.sessionId = none ∧ after.sessionId = some id)

namespace Tells

variable {b : Backend} {server : Server}

theorem refl : Tells b b [] :=
  ⟨id, fun _ => (List.append_nil _).symm, fun _ => id, fun _ => .inl⟩

theorem trans {before between after : Backend} {first second : List String}
    (hfirst : Tells before between first) (hsecond : Tells between after second) :
    Tells before after (first ++ second) := by
  refine ⟨?_, ?_, ?_, ?_⟩
  · exact fun h => hsecond.listening (hfirst.listening h)
  · intro h
    rw [hsecond.replies (hfirst.listening h), hfirst.replies h, List.append_assoc]
  · exact fun id h => hsecond.keeps id (hfirst.keeps id h)
  · intro id h
    rcases hsecond.assigns id h with hbetween | ⟨hnone, hafter⟩
    · rcases hfirst.assigns id hbetween with hbefore | ⟨hnone, hsome⟩
      · exact .inl hbefore
      · exact .inr ⟨hnone, hsecond.keeps id hsome⟩
    · refine .inr ⟨?_, hafter⟩
      cases hbefore : before.sessionId with
      | none => rfl
      | some old =>
        rw [hfirst.keeps old hbefore] at hnone
        exact absurd hnone (by simp)

/-- Events other than assignments only add their replies. -/
theorem emit {e : BackendEvent} (h : ∀ id, e ≠ .sessionAssigned id) :
    Tells b (b.emit e) e.reply?.toList := by
  unfold Backend.emit
  split
  · refine ⟨id, ?_, fun _ => id, ?_⟩
    · intro _
      cases hreply : e.reply? <;> simp [hreply]
    · intro id hmem
      rcases List.mem_append.mp hmem with hmem | hmem
      · exact .inl hmem
      · exact absurd (List.mem_singleton.mp hmem).symm (h id)
  · rename_i hdeaf
    exact ⟨id, fun h => absurd h hdeaf, fun _ => id, fun _ => .inl⟩

theorem setResponding (isResponding : Bool) : Tells b (b.setResponding isResponding) [] := by
  unfold Backend.setResponding
  split
  · exact refl
  · have hemit : Tells { b with isResponding } _ [] :=
      emit (e := .responding isResponding) (by simp)
    exact ⟨hemit.listening, hemit.replies, hemit.keeps, hemit.assigns⟩

/-- A session that the backend created is taken only where there is none. -/
theorem adopt (id : Option String) : Tells b (b.adopt id) [] := by
  unfold Backend.adopt
  split
  · rename_i id hnone
    unfold Backend.emit
    split
    · refine ⟨fun h => h, ?_, ?_, ?_⟩
      · simp [BackendEvent.reply?]
      · intro old hold
        rw [hnone] at hold
        exact absurd hold (by simp)
      · intro new hmem
        rcases List.mem_append.mp hmem with hmem | hmem
        · exact .inl hmem
        · obtain ⟨rfl⟩ := List.mem_singleton.mp hmem
          exact .inr ⟨hnone, rfl⟩
    · rename_i hdeaf
      refine ⟨fun h => h, fun h => absurd h hdeaf, ?_, fun _ => .inl⟩
      intro old hold
      rw [hnone] at hold
      exact absurd hold (by simp)
  · exact refl

theorem submit (files : List Attachment) (message : String) :
    Tells b (b.submit server files message).2.1
      (b.replyTo? server (.submit message files)).toList := by
  have hround : Tells b ((b.setResponding true).setResponding false) [] :=
    (setResponding true).trans (setResponding false)
  rcases b.submit_cases server files message with
    ⟨hid, heq⟩ | ⟨id, -, ⟨e, hanswer, heq⟩ | ⟨hanswer, heq⟩ | ⟨reply, hanswer, heq⟩⟩
  · rw [heq]
    simp only [replyTo?, answer, hid]
    exact refl
  · rw [heq]
    simp only [replyTo?, hanswer]
    exact hround
  · rw [heq]
    simp only [replyTo?, hanswer]
    exact hround
  · rw [heq]
    simp only [replyTo?, hanswer]
    exact ((setResponding true).trans (emit (by simp))).trans (setResponding false)

theorem cancel : Tells b (b.cancel server).2.1 [] := by
  unfold Backend.cancel
  split
  · exact refl
  · split
    · exact refl
    · exact setResponding false

theorem upload (file : ArtifactUpload) (id : Option String) :
    Tells b (b.upload server file id).2.1 [] := by
  simp only [Backend.upload]
  split
  · exact refl
  · exact adopt _

/-- What a call tells of, with the reply to it. -/
theorem call (c : Call) : Tells b (b.call server c).1 (b.replyTo? server c).toList := by
  cases c with
  | submit message files => exact submit files message
  | cancel => exact cancel
  | upload file id => exact upload file id
  | refresh => exact emit (by simp)
  | notify n => exact emit (by simp)
  | navigate instruction => exact refl

end Tells

/-! ## The connection apart from its events -/

/-- The connection without the events that wait. -/
def calm (b : Backend) : Backend := { b with events := [] }

@[simp] theorem calm_calm : b.calm.calm = b.calm := rfl

@[simp] theorem calm_emit (e : BackendEvent) : (b.emit e).calm = b.calm := by
  unfold emit
  split <;> rfl

theorem calm_setResponding (isResponding : Bool) :
    (b.setResponding isResponding).calm = { b.calm with isResponding } := by
  unfold setResponding
  split
  · rename_i hsame
    rw [← hsame]
    rfl
  · rw [calm_emit]
    rfl

theorem calm_adopt (id : Option String) : (b.calm.adopt id).calm = (b.adopt id).calm := by
  cases hid : b.sessionId with
  | none =>
    cases id with
    | none => simp [adopt, hid, calm]
    | some id =>
      have hcalm : b.calm.sessionId = none := hid
      simp only [adopt, hid, hcalm, calm_emit]
      rfl
  | some old => simp [adopt, hid, calm]

/-- The server once a message was posted in the active session. -/
def serverAfter (files : List Attachment) (message : String) : Server :=
  match b.sessionId with
  | none => server
  | some id => (server.post (b.messagesUrl id) (messageJson message files)).2

/-- The connection and the server that a submit leaves. -/
theorem submit_spec (files : List Attachment) (message : String) :
    (b.submit server files message).2.1.calm =
      (if b.sessionId.isSome then { b.calm with isResponding := false } else b.calm) ∧
    (b.submit server files message).2.2 = b.serverAfter server files message := by
  rcases b.submit_cases server files message with
    ⟨hid, heq⟩ | ⟨id, hid, ⟨e, -, heq⟩ | ⟨-, heq⟩ | ⟨reply, -, heq⟩⟩
  · rw [heq]
    simp [serverAfter, hid]
  · rw [heq]
    simp [serverAfter, hid, calm_setResponding]
  · rw [heq]
    simp [serverAfter, hid, calm_setResponding]
  · rw [heq]
    simp [serverAfter, hid, calm_setResponding]

theorem submit_calm (files : List Attachment) (message : String) :
    (b.calm.submit server files message).2.1.calm = (b.submit server files message).2.1.calm ∧
    (b.calm.submit server files message).2.2 = (b.submit server files message).2.2 := by
  obtain ⟨hconnection, hserver⟩ := b.submit_spec server files message
  obtain ⟨hconnection', hserver'⟩ := b.calm.submit_spec server files message
  have hid : b.calm.sessionId = b.sessionId := rfl
  have hurl : ∀ id, b.calm.messagesUrl id = b.messagesUrl id := fun _ => rfl
  rw [hconnection, hconnection', hserver, hserver', hid, calm_calm]
  refine ⟨rfl, ?_⟩
  simp only [serverAfter, hid, hurl]

theorem cancel_calm :
    (b.calm.cancel server).2.1.calm = (b.cancel server).2.1.calm ∧
    (b.calm.cancel server).2.2 = (b.cancel server).2.2 := by
  have hid : b.calm.sessionId = b.sessionId := rfl
  have hurl : ∀ id, b.calm.cancelUrl id = b.cancelUrl id := fun _ => rfl
  simp only [cancel, hid, hurl]
  split
  · exact ⟨rfl, rfl⟩
  · split
    · exact ⟨rfl, rfl⟩
    · exact ⟨by simp only [calm_setResponding, calm_calm], rfl⟩

theorem upload_calm (file : ArtifactUpload) (id : Option String) :
    (b.calm.upload server file id).2.1.calm = (b.upload server file id).2.1.calm ∧
    (b.calm.upload server file id).2.2 = (b.upload server file id).2.2 := by
  have hurl : b.calm.artifactsUrl = b.artifactsUrl := rfl
  simp only [upload, hurl]
  split
  · exact ⟨rfl, rfl⟩
  · exact ⟨b.calm_adopt _, rfl⟩

/-- A call does the same to the connection and to the server whatever events wait. -/
theorem call_calm (c : Call) :
    (b.calm.call server c).1.calm = (b.call server c).1.calm ∧
    (b.calm.call server c).2 = (b.call server c).2 := by
  cases c with
  | submit message files => exact b.submit_calm server files message
  | cancel => exact b.cancel_calm server
  | upload file id =>
    simp only [call]
    exact b.upload_calm server file id
  | refresh => exact ⟨by simp only [call, refresh, calm_emit, calm_calm], rfl⟩
  | notify n => exact ⟨by simp only [call, notify, calm_emit, calm_calm], rfl⟩
  | navigate instruction => exact ⟨rfl, rfl⟩

/-! ## Several calls -/

@[simp] theorem callAll_nil : b.callAll server [] = (b, server) := rfl

@[simp] theorem callAll_cons (c : Call) (calls : List Call) :
    b.callAll server (c :: calls) = (b.call server c).1.callAll (b.call server c).2 calls := rfl

/-- Connections that differ in the waiting events alone still do so after calls, and leave the
server alike. -/
theorem callAll_congr {b b' : Backend} (h : b.calm = b'.calm) (server : Server)
    (calls : List Call) :
    (b.callAll server calls).1.calm = (b'.callAll server calls).1.calm ∧
    (b.callAll server calls).2 = (b'.callAll server calls).2 := by
  induction calls generalizing b b' server with
  | nil => exact ⟨h, rfl⟩
  | cons c calls ih =>
    obtain ⟨hconnection, hserver⟩ := b.call_calm server c
    obtain ⟨hconnection', hserver'⟩ := b'.call_calm server c
    rw [h] at hconnection hserver
    rw [callAll_cons, callAll_cons, ← hserver, ← hserver']
    exact ih (hconnection.symm.trans hconnection') _

/-- The replies to calls that are made one after another. -/
def repliesTo (b : Backend) (server : Server) : List Call → List String
  | [] => []
  | c :: calls =>
    (b.replyTo? server c).toList ++ repliesTo (b.call server c).1 (b.call server c).2 calls

theorem Tells.callAll {b : Backend} {server : Server} (calls : List Call) :
    Tells b (b.callAll server calls).1 (b.repliesTo server calls) := by
  induction calls generalizing b server with
  | nil => exact refl
  | cons c calls ih => exact (call c).trans ih

end Backend
end Composer
