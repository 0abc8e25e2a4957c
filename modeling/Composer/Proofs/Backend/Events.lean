import Composer.Proofs.Backend.Calls
set_option autoImplicit false

/-!
# What the events tell

Calls tell of the same events whatever others wait before. Whoever hears all of them, in order,
knows the active session and whether a response is in progress.
-/

namespace Composer

/-! ## What is known from events -/

/-- The part of a connection that its events tell of. -/
structure Situation where
  sessionId : Option String
  isResponding : Bool

namespace Situation

/-- The situation that is known once an event was heard. -/
def hear (s : Situation) : BackendEvent → Situation
  | .responding isResponding => { s with isResponding }
  | .sessionAssigned id => { s with sessionId := some id }
  | _ => s

/-- The situation that is known once several events were heard. -/
def hearAll (s : Situation) (events : List BackendEvent) : Situation := events.foldl hear s

@[simp] theorem hearAll_nil (s : Situation) : s.hearAll [] = s := rfl

@[simp] theorem hearAll_cons (s : Situation) (e : BackendEvent) (events : List BackendEvent) :
    s.hearAll (e :: events) = (s.hear e).hearAll events := rfl

theorem hearAll_append (s : Situation) (first second : List BackendEvent) :
    s.hearAll (first ++ second) = (s.hearAll first).hearAll second := List.foldl_append

end Situation

namespace Backend

variable (b : Backend) (server : Server)

/-- The situation that the connection is in. -/
def situation (b : Backend) : Situation :=
  { sessionId := b.sessionId, isResponding := b.isResponding }

/-! ## Step by step -/

/-- A relation between two states of a connection that composes and holds of every single change: an
event that tells nothing of the situation, a response that begins or ends, a session that is
adopted. -/
structure IsStepwise (R : Backend → Backend → Prop) : Prop where
  refl : ∀ b, R b b
  trans : ∀ {before between after}, R before between → R between after → R before after
  tell : ∀ b e, (∀ s : Situation, s.hear e = s) → R b (b.emit e)
  setResponding : ∀ b isResponding, R b (b.setResponding isResponding)
  adopt : ∀ b id, R b (b.adopt id)

namespace IsStepwise

variable {R : Backend → Backend → Prop} (h : IsStepwise R) {b : Backend} {server : Server}

include h

theorem submit (files : List Attachment) (message : String) :
    R b (b.submit server files message).2.1 := by
  have hbegun : R b (b.setResponding true) := h.setResponding b true
  rcases b.submit_cases server files message with
    ⟨-, heq⟩ | ⟨id, -, ⟨e, -, heq⟩ | ⟨-, heq⟩ | ⟨reply, -, heq⟩⟩
  · rw [heq]
    exact h.refl b
  · rw [heq]
    exact h.trans hbegun (h.setResponding _ false)
  · rw [heq]
    exact h.trans hbegun (h.setResponding _ false)
  · have hreply : R (b.setResponding true) ((b.setResponding true).emit (.reply reply)) :=
      h.tell _ _ fun _ => rfl
    rw [heq]
    exact h.trans (h.trans hbegun hreply) (h.setResponding _ false)

theorem cancel : R b (b.cancel server).2.1 := by
  unfold Backend.cancel
  split
  · exact h.refl b
  · split
    · exact h.refl b
    · exact h.setResponding b false

theorem upload (file : ArtifactUpload) (id : Option String) :
    R b (b.upload server file id).2.1 := by
  simp only [Backend.upload]
  split
  · exact h.refl b
  · exact h.adopt b _

/-- Such a relation holds of every call. -/
theorem call (c : Call) : R b (b.call server c).1 := by
  cases c with
  | submit message files =>
    simp only [Backend.call]
    exact h.submit files message
  | cancel =>
    simp only [Backend.call]
    exact h.cancel
  | upload file id =>
    simp only [Backend.call]
    exact h.upload file id
  | refresh => exact h.tell b _ fun _ => rfl
  | notify n => exact h.tell b _ fun _ => rfl
  | navigate instruction => exact h.refl b

theorem callAll (calls : List Call) : R b (b.callAll server calls).1 := by
  induction calls generalizing b server with
  | nil => exact h.refl b
  | cons c calls ih => exact h.trans (h.call c) ih

end IsStepwise

/-! ## What is told of -/

/-- Between two states of a connection that is listened to, every change of the situation was told
of. -/
structure Informs (before after : Backend) : Prop where
  listening : after.isListening = before.isListening
  heard : before.isListening = true →
    ∃ events, after.events = before.events ++ events ∧
      before.situation.hearAll events = after.situation

namespace Informs

variable {b : Backend}

theorem refl : Informs b b := ⟨rfl, fun _ => ⟨[], (List.append_nil _).symm, rfl⟩⟩

theorem trans {before between after : Backend} (hfirst : Informs before between)
    (hsecond : Informs between after) : Informs before after := by
  refine ⟨hsecond.listening.trans hfirst.listening, ?_⟩
  intro h
  obtain ⟨first, htold, hheard⟩ := hfirst.heard h
  obtain ⟨second, htold', hheard'⟩ := hsecond.heard (hfirst.listening.trans h)
  refine ⟨first ++ second, ?_, ?_⟩
  · rw [htold', htold, List.append_assoc]
  · rw [Situation.hearAll_append, hheard, hheard']

/-- An event tells of the change of the situation that was made before it. -/
theorem emit {changed : Backend} {e : BackendEvent}
    (hlistening : changed.isListening = b.isListening) (hevents : changed.events = b.events)
    (hheard : b.situation.hear e = changed.situation) : Informs b (changed.emit e) := by
  unfold Backend.emit
  split
  · exact ⟨hlistening, fun _ => ⟨[e], by rw [hevents], hheard⟩⟩
  · rename_i hdeaf
    exact ⟨hlistening, fun h => absurd (hlistening.trans h) hdeaf⟩

theorem setResponding (isResponding : Bool) : Informs b (b.setResponding isResponding) := by
  unfold Backend.setResponding
  split
  · exact refl
  · exact emit rfl rfl rfl

theorem adopt (id : Option String) : Informs b (b.adopt id) := by
  unfold Backend.adopt
  split
  · exact emit rfl rfl rfl
  · exact refl

theorem isStepwise : IsStepwise Informs where
  refl := fun _ => refl
  trans := trans
  tell := fun b _ hnothing => emit rfl rfl (hnothing b.situation)
  setResponding := fun _ => setResponding
  adopt := fun _ => adopt

end Informs

/-! ## Events behind others -/

/-- The connection with some events that wait before its own. -/
def behind (b : Backend) (earlier : List BackendEvent) : Backend :=
  { b with events := earlier ++ b.events }

variable (earlier : List BackendEvent)

theorem emit_behind (e : BackendEvent) :
    (b.behind earlier).emit e = (b.emit e).behind earlier := by
  have hlistening : (b.behind earlier).isListening = b.isListening := rfl
  unfold emit
  rw [hlistening]
  split
  · simp only [behind, List.append_assoc]
  · rfl

theorem setResponding_behind (isResponding : Bool) :
    (b.behind earlier).setResponding isResponding =
      (b.setResponding isResponding).behind earlier := by
  have hresponding : (b.behind earlier).isResponding = b.isResponding := rfl
  unfold setResponding
  rw [hresponding]
  split
  · rfl
  · exact emit_behind { b with isResponding } earlier _

theorem adopt_behind (id : Option String) :
    (b.behind earlier).adopt id = (b.adopt id).behind earlier := by
  have hid : (b.behind earlier).sessionId = b.sessionId := rfl
  unfold adopt
  rw [hid]
  split
  · rename_i id _
    exact emit_behind { b with sessionId := some id } earlier _
  · rfl

theorem submit_behind (files : List Attachment) (message : String) :
    ((b.behind earlier).submit server files message).2 =
      ((b.submit server files message).2.1.behind earlier,
        (b.submit server files message).2.2) := by
  have hid : (b.behind earlier).sessionId = b.sessionId := rfl
  have hurl : ∀ id, (b.behind earlier).messagesUrl id = b.messagesUrl id := fun _ => rfl
  simp only [submit, hid, hurl]
  cases b.sessionId with
  | none => rfl
  | some id =>
    dsimp only
    split <;> simp only [setResponding_behind, emit_behind]

theorem cancel_behind :
    ((b.behind earlier).cancel server).2 =
      ((b.cancel server).2.1.behind earlier, (b.cancel server).2.2) := by
  have hid : (b.behind earlier).sessionId = b.sessionId := rfl
  have hurl : ∀ id, (b.behind earlier).cancelUrl id = b.cancelUrl id := fun _ => rfl
  simp only [cancel, hid, hurl]
  cases b.sessionId with
  | none => rfl
  | some id =>
    dsimp only
    split
    · rfl
    · simp only [setResponding_behind]

theorem upload_behind (file : ArtifactUpload) (id : Option String) :
    ((b.behind earlier).upload server file id).2 =
      ((b.upload server file id).2.1.behind earlier, (b.upload server file id).2.2) := by
  have hurl : (b.behind earlier).artifactsUrl = b.artifactsUrl := rfl
  simp only [upload, hurl]
  split
  · rfl
  · simp only [adopt_behind]

theorem call_behind (c : Call) :
    (b.behind earlier).call server c =
      ((b.call server c).1.behind earlier, (b.call server c).2) := by
  cases c with
  | submit message files =>
    simp only [call]
    exact b.submit_behind server earlier files message
  | cancel =>
    simp only [call]
    exact b.cancel_behind server earlier
  | upload file id =>
    simp only [call]
    exact b.upload_behind server earlier file id
  | refresh => exact congrArg (·, server) (b.emit_behind earlier _)
  | notify n => exact congrArg (·, server) (b.emit_behind earlier _)
  | navigate instruction => rfl

theorem callAll_behind (calls : List Call) :
    (b.behind earlier).callAll server calls =
      ((b.callAll server calls).1.behind earlier, (b.callAll server calls).2) := by
  induction calls generalizing b server with
  | nil => rfl
  | cons c calls ih =>
    rw [callAll_cons, call_behind]
    exact ih _ _

/-- The events that calls tell of. -/
def told (b : Backend) (server : Server) (calls : List Call) : List BackendEvent :=
  (b.calm.callAll server calls).1.events

theorem told_congr {b b' : Backend} (h : b.calm = b'.calm) (server : Server) (calls : List Call) :
    b.told server calls = b'.told server calls := by
  rw [told, told, h]

/-- What calls tell of waits behind what waited before. -/
theorem events_callAll (calls : List Call) :
    (b.callAll server calls).1.events = b.events ++ b.told server calls := by
  have hbehind : b = b.calm.behind b.events := by simp only [behind, calm, List.append_nil]
  have hcalls := b.calm.callAll_behind server b.events calls
  rw [← hbehind] at hcalls
  rw [hcalls]
  rfl

variable {b server}

/-- Whoever hears what calls tell of knows the situation that they lead to. -/
theorem situation_callAll (h : b.isListening = true) (calls : List Call) :
    (b.callAll server calls).1.situation = b.situation.hearAll (b.told server calls) := by
  have hinforms : Informs b (b.callAll server calls).1 := Informs.isStepwise.callAll calls
  obtain ⟨events, htold, hheard⟩ := hinforms.heard h
  rw [events_callAll] at htold
  rw [List.append_cancel_left htold, hheard]

/-! ## Between two calls -/

/-- Calls leave no response in progress. -/
theorem isResponding_call (h : b.isResponding = false) (c : Call) :
    (b.call server c).1.isResponding = false := by
  have hcalm : ∀ b' : Backend, b'.isResponding = b'.calm.isResponding := fun _ => rfl
  have hset : ∀ isResponding, (b.setResponding isResponding).isResponding = isResponding := by
    intro isResponding
    rw [hcalm, calm_setResponding]
  cases c with
  | submit message files =>
    rw [hcalm]
    simp only [call, (b.submit_spec server files message).1]
    split
    · rfl
    · exact h
  | cancel =>
    simp only [call, cancel]
    split
    · exact h
    · split
      · exact h
      · exact hset false
  | upload file id =>
    rw [hcalm]
    simp only [call, upload]
    split
    · exact h
    · rename_i a _
      rw [← calm_adopt]
      unfold adopt
      split
      · rw [calm_emit]
        exact h
      · exact h
  | refresh =>
    rw [hcalm]
    simp only [call, refresh, calm_emit]
    exact h
  | notify n =>
    rw [hcalm]
    simp only [call, notify, calm_emit]
    exact h
  | navigate instruction => exact h

theorem isResponding_callAll (h : b.isResponding = false) (calls : List Call) :
    (b.callAll server calls).1.isResponding = false := by
  induction calls generalizing b server with
  | nil => exact h
  | cons c calls ih => exact ih (isResponding_call h c)

end Backend
end Composer
