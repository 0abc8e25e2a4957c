import Composer.Proofs.Backend.Steps
set_option autoImplicit false

/-!
# Where the session comes from

The active session is set by the user, where a blank id counts as none, or taken from the answer to
an upload, where any id counts. So it can be blank, but only where the backend assigns a blank one.
-/

namespace Composer

namespace Link

variable {l : Link}

/-! ## One step -/

/-- A session is adopted only where none is active. -/
theorem sessionId_of_adopted {step : BackendStep} {id : String} (h : l.adopted? step = some id) :
    l.backend.sessionId = none := by
  cases step with
  | upload file sessionId =>
    cases hid : l.backend.sessionId with
    | none => rfl
    | some old => exact absurd h (by simp [adopted?, hid])
  | _ => exact absurd h (by simp [adopted?])

/-- A session that is adopted is active from then on. -/
theorem nextId_of_adopted {step : BackendStep} {id : String} (h : l.adopted? step = some id) :
    l.nextId step = some id := by
  have hnone := sessionId_of_adopted h
  cases step with
  | setSession new => exact absurd h (by simp [adopted?])
  | _ => simp only [nextId, hnone, h, Option.none_or]

/-- A step assigns the session that it adopts, and no other. -/
theorem assigned_told (l : Link) (step : BackendStep) :
    (l.told step).filterMap BackendEvent.assigned? = (l.adopted? step).toList := by
  cases step with
  | submit files message =>
    simp only [told]
    split
    · rfl
    · cases l.reply? (.submit files message) <;> rfl
  | upload file sessionId =>
    simp only [told]
    cases l.adopted? (.upload file sessionId) <;> rfl
  | _ => rfl

/-- A message goes to the active session, and is not sent where there is none. -/
theorem server_submit (l : Link) (files : List Attachment) (message : String) :
    (l.perform (.submit files message)).2.server =
      l.backend.sessionId.elim l.server fun id =>
        (l.server.post (l.backend.messagesUrl id) (Backend.messageJson message files)).2 := by
  have hserver := (l.backend.submit_spec l.server files message).2
  simp only [perform, hserver, Backend.serverAfter]
  cases l.backend.sessionId <;> rfl

theorem server_cancel (l : Link) :
    (l.perform .cancel).2.server =
      l.backend.sessionId.elim l.server fun id =>
        (l.server.post (l.backend.cancelUrl id) (.object [])).2 := by
  cases hid : l.backend.sessionId with
  | none => simp only [perform, Backend.cancel, hid, Option.elim_none]
  | some id =>
    simp only [perform, Backend.cancel, hid, Option.elim_some]
    split <;> simp_all

/-! ## Blank sessions -/

/-- Whether the active session, if there is one, has an id that is not blank. -/
def IsNamed (l : Link) : Prop := ∀ id, l.backend.sessionId = some id → Text.isBlank id = false

/-- Whether the session that a step adopts, if it adopts one, has an id that is not blank. -/
def AdoptsNamed (l : Link) (step : BackendStep) : Prop :=
  ∀ id, l.adopted? step = some id → Text.isBlank id = false

/-- The step lemma. -/
theorem IsNamed.perform (h : l.IsNamed) (hidle : l.IsIdle) {step : BackendStep}
    (hadopts : l.AdoptsNamed step) : (l.perform step).2.IsNamed := by
  intro id hid
  rw [backend_perform hidle] at hid
  change l.nextId step = some id at hid
  cases step with
  | setSession new =>
    obtain ⟨-, hnonblank⟩ := Option.filter_eq_some_iff.mp hid
    simpa using hnonblank
  | _ =>
    rcases Option.or_eq_some_iff.mp hid with hkept | ⟨-, hadopted⟩
    · exact h id hkept
    · exact hadopts id hadopted

/-- The run lemma. -/
theorem IsNamed.after (h : l.IsNamed) (hidle : l.IsIdle) (steps : List BackendStep)
    (hadopts : ∀ earlier step later, steps = earlier ++ step :: later →
      (l.after earlier).AdoptsNamed step) : (l.after steps).IsNamed := by
  induction steps generalizing l with
  | nil => exact h
  | cons step steps ih =>
    refine ih (h.perform hidle (hadopts [] step steps rfl)) (hidle.perform step) ?_
    intro earlier next later hsteps
    exact hadopts (step :: earlier) next later (by rw [hsteps, List.cons_append])

/-- Along a run the session is what was set, if that is not blank, or what was adopted while there
was none, of which one event tells; and messages and requests to stop go to the session that is
active. That session is never blank exactly if no blank one is adopted. -/
theorem session_never_blank_iff (baseUrl : String) (server : Server) (steps : List BackendStep) :
    let reached := (start baseUrl server).after
    (∀ earlier step later, steps = earlier ++ step :: later →
      let before := reached earlier
      let after := (before.perform step).2
      after.backend.sessionId = before.nextId step ∧
      after.backend.events.filterMap BackendEvent.assigned? =
        before.backend.events.filterMap BackendEvent.assigned? ++ (before.adopted? step).toList ∧
      (∀ files message, step = .submit files message →
        after.server = before.backend.sessionId.elim before.server fun id =>
          (before.server.post (before.backend.messagesUrl id)
            (Backend.messageJson message files)).2) ∧
      (step = .cancel →
        after.server = before.backend.sessionId.elim before.server fun id =>
          (before.server.post (before.backend.cancelUrl id) (.object [])).2)) ∧
    ((∀ earlier later, steps = earlier ++ later → ∀ id,
        (reached earlier).backend.sessionId = some id → Text.isBlank id = false) ↔
      ∀ earlier step later, steps = earlier ++ step :: later → ∀ id,
        (reached earlier).adopted? step = some id → Text.isBlank id = false) := by
  intro reached
  have hidle : ∀ earlier, (reached earlier).IsIdle := (isIdle_start baseUrl server).after
  refine ⟨?_, ?_, ?_⟩
  · intro earlier step later hsteps before after
    have hbackend : after.backend = before.backend.moved (before.nextId step) (before.told step) :=
      backend_perform (hidle earlier) step
    refine ⟨by rw [hbackend]; rfl, ?_, ?_, ?_⟩
    · rw [hbackend, ← assigned_told]
      exact List.filterMap_append
    · rintro files message rfl
      exact before.server_submit files message
    · rintro rfl
      exact before.server_cancel
  · intro hnamed earlier step later hsteps id hadopted
    have hnext : (reached (earlier ++ [step])).backend.sessionId = some id := by
      have hstep : reached (earlier ++ [step]) = ((reached earlier).perform step).2 :=
        after_append _ earlier [step]
      rw [hstep, backend_perform (hidle earlier)]
      exact nextId_of_adopted hadopted
    exact hnamed (earlier ++ [step]) later (by rw [hsteps, List.append_assoc]; rfl) id hnext
  · intro hadopts earlier later hsteps
    have hstart : (start baseUrl server).IsNamed := by
      intro id hid
      exact absurd hid (by simp [start, Backend.connect])
    refine hstart.after (isIdle_start baseUrl server) earlier ?_
    intro front step back hearlier
    exact hadopts front step (back ++ later) (by rw [hsteps, hearlier]; simp)

/-- A blank session that the backend assigns is active, and a message is sent to it. -/
theorem blank_session_adopted :
    let answer := Utf8.encode "\x7b\"uri\":\"x\",\"sessionId\":\" \"\x7d"
    let server : Server := { authority := "[::1]", answers := [.response 200 answer] }
    let file : ArtifactUpload :=
      { name := "a", mime := "text/plain", data := [98], description := none }
    let reached := (start "http://[::1]" server).after [.upload file none, .submit [] "hi"]
    reached.backend.sessionId = some " " ∧ Text.isBlank " " = true ∧
      reached.server.received.map Request.target = ["/artifacts", "/sessions/%20/messages"] := by
  decide +kernel

end Link
end Composer
