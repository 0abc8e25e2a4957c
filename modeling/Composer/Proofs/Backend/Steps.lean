import Composer.Backend.Link
import Composer.Proofs.Backend.Calls
set_option autoImplicit false

/-!
# What a step of a connection does

While no response is in progress, a step changes two things of a connection that is listened to: the
active session, and the events that wait, to which it adds its own. It leaves no response in
progress, so this is all that happens along a run.
-/

namespace Composer

namespace Backend

variable {b : Backend} {server : Server}

/-- The connection with another session and further events. -/
def moved (b : Backend) (id : Option String) (told : List BackendEvent) : Backend :=
  { b with sessionId := id, events := b.events ++ told }

theorem moved_self (b : Backend) : b.moved b.sessionId [] = b := by
  simp only [moved, List.append_nil]

theorem emit_of_isListening (h : b.isListening = true) (e : BackendEvent) :
    b.emit e = b.moved b.sessionId [e] := by
  rw [emit, if_pos h]
  rfl

/-- A response begins and ends, and its reply is told of in between. -/
theorem setResponding_around (hlistening : b.isListening = true) (hidle : b.isResponding = false)
    (reply : Option String) :
    (match reply with
      | none => (b.setResponding true).setResponding false
      | some text => ((b.setResponding true).emit (.reply text)).setResponding false) =
    b.moved b.sessionId
      (.responding true :: (reply.map BackendEvent.reply).toList ++ [.responding false]) := by
  cases reply <;> simp [setResponding, emit, moved, hlistening, hidle]

/-- An active session stays. -/
theorem adopt_of_active {id : String} (h : b.sessionId = some id) (new : Option String) :
    b.adopt new = b := by
  simp only [adopt, h]

@[simp] theorem adopt_none (b : Backend) : b.adopt none = b := by
  cases hid : b.sessionId <;> simp only [adopt, hid]

/-- Where no session is active, the new one is taken and told of. -/
theorem adopt_of_unset (hlistening : b.isListening = true) (h : b.sessionId = none) (new : String) :
    b.adopt (some new) = b.moved (some new) [.sessionAssigned new] := by
  have hchanged : ({ b with sessionId := some new } : Backend).isListening = true := hlistening
  simp only [adopt, h, emit_of_isListening hchanged]
  rfl

/-- An upload fails and leaves the connection, or gives an artifact whose session may be adopted. -/
theorem upload_cases (b : Backend) (server : Server) (file : ArtifactUpload)
    (sessionId : Option String) :
    (∃ e, (b.upload server file sessionId).1 = .error e ∧
      (b.upload server file sessionId).2.1 = b) ∨
    ∃ a, (b.upload server file sessionId).1 = .ok a ∧
      (b.upload server file sessionId).2.1 = b.adopt a.sessionId := by
  simp only [upload]
  cases (server.post b.artifactsUrl (uploadJson file sessionId)).1.bind artifactIn with
  | error e => exact .inl ⟨e, rfl, rfl⟩
  | ok a => exact .inr ⟨a, rfl, rfl⟩

end Backend

namespace Link

variable (l : Link)

/-! ## The session -/

/-- The id that a step takes over from the backend: the one in the answer to an upload, where no
session is active. -/
def adopted? : BackendStep → Option String
  | .upload file sessionId =>
    match l.backend.sessionId, (l.backend.upload l.server file sessionId).1 with
    | none, .ok a => a.sessionId
    | _, _ => none
  | _ => none

/-- The session that is active after a step. -/
def nextId : BackendStep → Option String
  | .setSession id => Text.nonBlank? id
  | step => l.backend.sessionId.or (l.adopted? step)

/-! ## The events -/

/-- The reply that a step brings. -/
def reply? : BackendStep → Option String
  | .submit files message => l.backend.replyTo? l.server (.submit message files)
  | _ => none

/-- The events that a step tells of. -/
def told : BackendStep → List BackendEvent
  | .submit files message =>
    if l.backend.sessionId.isNone then []
    else .responding true :: ((l.reply? (.submit files message)).map BackendEvent.reply).toList
      ++ [.responding false]
  | .upload file sessionId =>
    ((l.adopted? (.upload file sessionId)).map BackendEvent.sessionAssigned).toList
  | .refresh => [.artifactsChanged]
  | .notify n => [.notification n]
  | _ => []

/-! ## Steps -/

/-- Whether a connection is listened to while no response is in progress. -/
structure IsIdle : Prop where
  listening : l.backend.isListening = true
  idle : l.backend.isResponding = false

variable {l}

theorem isIdle_start (baseUrl : String) (server : Server) : (start baseUrl server).IsIdle :=
  ⟨rfl, rfl⟩

theorem backend_submit (h : l.IsIdle) (files : List Attachment) (message : String) :
    (l.backend.submit l.server files message).2.1 =
      l.backend.moved l.backend.sessionId (l.told (.submit files message)) := by
  have haround := Backend.setResponding_around h.listening h.idle
  rcases l.backend.submit_cases l.server files message with
    ⟨hid, heq⟩ | ⟨id, hid, ⟨e, hanswer, heq⟩ | ⟨hanswer, heq⟩ | ⟨reply, hanswer, heq⟩⟩
  · have hnothing : l.told (.submit files message) = [] := by simp [told, hid]
    rw [heq, hnothing, Backend.moved_self]
  · simpa [heq, told, hid, reply?, Backend.replyTo?, hanswer] using haround none
  · simpa [heq, told, hid, reply?, Backend.replyTo?, hanswer] using haround none
  · simpa [heq, told, hid, reply?, Backend.replyTo?, hanswer] using haround (some reply)

theorem backend_cancel (h : l.IsIdle) : (l.backend.cancel l.server).2.1 = l.backend := by
  have hset : l.backend.setResponding false = l.backend := by
    rw [Backend.setResponding, if_pos h.idle]
  unfold Backend.cancel
  split
  · rfl
  · split
    · rfl
    · exact hset

theorem backend_upload (h : l.IsIdle) (file : ArtifactUpload) (sessionId : Option String) :
    (l.backend.upload l.server file sessionId).2.1 =
      l.backend.moved (l.nextId (.upload file sessionId)) (l.told (.upload file sessionId)) := by
  have hsame : l.adopted? (.upload file sessionId) = none →
      l.backend.moved (l.nextId (.upload file sessionId)) (l.told (.upload file sessionId)) =
        l.backend := by
    intro hnone
    simp only [nextId, told, hnone, Option.or_none, Option.map_none, Option.toList_none]
    exact l.backend.moved_self
  rcases l.backend.upload_cases l.server file sessionId with ⟨e, hr, hbackend⟩ | ⟨a, hr, hbackend⟩
  · rw [hbackend, hsame (by simp [adopted?, hr])]
  · cases hid : l.backend.sessionId with
    | some id =>
      rw [hbackend, hsame (by simp [adopted?, hid]), Backend.adopt_of_active hid]
    | none =>
      cases ha : a.sessionId with
      | none =>
        rw [hbackend, hsame (by simp [adopted?, hid, hr, ha]), ha, Backend.adopt_none]
      | some new =>
        have hadopted : l.adopted? (.upload file sessionId) = some new := by
          simp [adopted?, hid, hr, ha]
        rw [hbackend, ha, Backend.adopt_of_unset h.listening hid]
        simp only [nextId, told, hadopted, hid, Option.none_or, Option.map_some,
          Option.toList_some]

/-- A step changes the active session and adds its events, and nothing else. -/
theorem backend_perform (h : l.IsIdle) (step : BackendStep) :
    (l.perform step).2.backend = l.backend.moved (l.nextId step) (l.told step) := by
  cases step with
  | setSession id => exact (Backend.moved_self (l.backend.setSession id)).symm
  | submit files message =>
    simp only [nextId, adopted?, Option.or_none]
    exact backend_submit h files message
  | cancel =>
    simp only [nextId, told, adopted?, Option.or_none, Backend.moved_self]
    exact backend_cancel h
  | upload file sessionId => exact backend_upload h file sessionId
  | refresh =>
    simp only [nextId, adopted?, Option.or_none]
    exact Backend.emit_of_isListening h.listening _
  | notify n =>
    simp only [nextId, adopted?, Option.or_none]
    exact Backend.emit_of_isListening h.listening _
  | changeServer server =>
    simp only [nextId, told, adopted?, Option.or_none, Backend.moved_self]
    rfl

/-- The step lemma. -/
theorem IsIdle.perform (h : l.IsIdle) (step : BackendStep) : (l.perform step).2.IsIdle := by
  have hbackend := backend_perform h step
  exact ⟨by rw [hbackend]; exact h.listening, by rw [hbackend]; exact h.idle⟩

/-- The run lemma. -/
theorem IsIdle.after (h : l.IsIdle) (steps : List BackendStep) : (l.after steps).IsIdle := by
  induction steps generalizing l with
  | nil => exact h
  | cons step steps ih => exact ih (h.perform step)

end Link
end Composer
