import Composer.Proofs.Backend.Steps
set_option autoImplicit false

/-!
# When a response is in progress

A message in an active session begins a response, and its answer ends it, whatever the answer is:
what was told in between is the reply, if the message arrived and has one. No other step tells of
responses. So along a run responses begin and end in turn, and none is in progress between two
steps.
-/

namespace Composer

namespace Backend

/-- An answer holds what its body does if its status tells of success. -/
theorem replyIn_eq_ok_iff (r : Response) (reply : Option String) :
    replyIn r = .ok reply ↔ r.isSuccess = true ∧
      (Text.isBlank r.body = true ∧ reply = none ∨
        Text.isBlank r.body = false ∧ Reply.read r.body.toList = .ok reply) := by
  unfold replyIn Reply.parse
  cases r.isSuccess with
  | false => simp
  | true =>
    cases Text.isBlank r.body with
    | true => simp [eq_comm]
    | false => cases Reply.read r.body.toList <;> simp

end Backend

namespace Link

variable {l : Link}

/-! ## Begin and end -/

/-- A step tells of a response that begins and of its end, or of neither. -/
theorem flags_told (l : Link) (step : BackendStep) :
    (l.told step).filterMap BackendEvent.flag? = [] ∨
    (l.told step).filterMap BackendEvent.flag? = [true, false] := by
  cases step with
  | submit files message =>
    simp only [told]
    split
    · exact .inl rfl
    · cases l.reply? (.submit files message) <;> exact .inr rfl
  | upload file sessionId =>
    simp only [told]
    cases l.adopted? (.upload file sessionId) <;> exact .inl rfl
  | _ => exact .inl rfl

/-- Whether the events that wait tell of responses that begin and end in turn. -/
def IsPaired (l : Link) : Prop :=
  ∃ n, l.backend.events.filterMap BackendEvent.flag? = (List.replicate n [true, false]).flatten

/-- The step lemma. -/
theorem IsPaired.perform (h : l.IsPaired) (hidle : l.IsIdle) (step : BackendStep) :
    (l.perform step).2.IsPaired := by
  obtain ⟨n, hflags⟩ := h
  have hnext : (l.perform step).2.backend.events = l.backend.events ++ l.told step := by
    rw [backend_perform hidle]
    rfl
  rcases l.flags_told step with hnone | hpair
  · exact ⟨n, by rw [hnext, List.filterMap_append, hflags, hnone, List.append_nil]⟩
  · refine ⟨n + 1, ?_⟩
    rw [hnext, List.filterMap_append, hflags, hpair, List.replicate_succ', List.flatten_append,
      List.flatten_singleton]

/-- The run lemma. -/
theorem IsPaired.after (h : l.IsPaired) (hidle : l.IsIdle) (steps : List BackendStep) :
    (l.after steps).IsPaired := by
  induction steps generalizing l with
  | nil => exact h
  | cons step steps ih => exact ih (h.perform hidle step) (hidle.perform step)

/-- Flags that come in pairs end with a response that is over. -/
theorem getLastD_flatten_replicate (n : Nat) :
    (List.replicate n [true, false]).flatten.getLastD false = false := by
  cases n with
  | zero => rfl
  | succ n => simp [List.replicate_succ', List.getLastD_eq_getLast?]

/-! ## One message -/

/-- Without a session nothing is sent and nothing is told. -/
theorem perform_of_no_session (h : l.backend.sessionId = none) :
    (∀ files message, l.perform (.submit files message) =
      (.completed (.error (.validation "No active session")), l)) ∧
    l.perform .cancel = (.completed (.error (.validation "No active session")), l) := by
  constructor
  · intro files message
    simp only [perform, Backend.submit, h]
    rfl
  · simp only [perform, Backend.cancel, h]
    rfl

/-- What is sent in a session arrives if its answer can be read. -/
theorem result_submit {id : String} (h : l.backend.sessionId = some id) (files : List Attachment)
    (message : String) :
    ∃ result, (l.perform (.submit files message)).1 = .completed result ∧
      (result = .ok () ↔ ∃ reply, l.backend.answer l.server files message = .ok reply) := by
  refine ⟨(l.backend.submit l.server files message).1, rfl, ?_⟩
  rcases l.backend.submit_cases l.server files message with
    ⟨hid, -⟩ | ⟨active, -, ⟨e, hanswer, heq⟩ | ⟨hanswer, heq⟩ | ⟨reply, hanswer, heq⟩⟩
  · exact absurd (hid.symm.trans h) (by simp)
  · simp [heq, hanswer]
  · simp [heq, hanswer]
  · simp [heq, hanswer]

/-- The answer to a message in terms of what the server answers. -/
theorem answer_eq_ok_iff {id : String} (h : l.backend.sessionId = some id)
    (files : List Attachment) (message : String) (reply : Option String) :
    l.backend.answer l.server files message = .ok reply ↔
      ∃ r, (l.server.post (l.backend.messagesUrl id) (Backend.messageJson message files)).1 =
          .ok r ∧
        r.isSuccess = true ∧
        (Text.isBlank r.body = true ∧ reply = none ∨
          Text.isBlank r.body = false ∧ Reply.read r.body.toList = .ok reply) := by
  simp only [Backend.answer, h]
  cases (l.server.post (l.backend.messagesUrl id) (Backend.messageJson message files)).1 with
  | error e => simp [Except.bind]
  | ok r => simp [Except.bind, Backend.replyIn_eq_ok_iff]

/-- A message in a session tells that a response begins, of its reply, and that it is over. -/
theorem events_submit (hidle : l.IsIdle) {id : String} (h : l.backend.sessionId = some id)
    (files : List Attachment) (message : String) :
    (l.perform (.submit files message)).2.backend.events = l.backend.events ++
      .responding true :: ((l.reply? (.submit files message)).map BackendEvent.reply).toList
        ++ [.responding false] := by
  have htold : l.told (.submit files message) =
      .responding true :: ((l.reply? (.submit files message)).map BackendEvent.reply).toList
        ++ [.responding false] := by
    simp [told, h]
  rw [backend_perform hidle, htold, List.append_assoc]
  rfl

/-- The reply to a message is what the server's answer to it holds. -/
theorem reply?_eq_some_iff {id : String} (h : l.backend.sessionId = some id)
    (files : List Attachment) (message text : String) :
    l.reply? (.submit files message) = some text ↔
      ∃ r, (l.server.post (l.backend.messagesUrl id) (Backend.messageJson message files)).1 =
          .ok r ∧
        r.isSuccess = true ∧ Text.isBlank r.body = false ∧
          Reply.read r.body.toList = .ok (some text) := by
  have hread : l.reply? (.submit files message) = some text ↔
      l.backend.answer l.server files message = .ok (some text) := by
    simp only [reply?, Backend.replyTo?]
    cases l.backend.answer l.server files message <;> simp
  simp only [hread, answer_eq_ok_iff h, reduceCtorEq, and_false, false_or]

/-- An answer can be read if its status tells of success and it is blank or holds something. -/
theorem exists_answer_iff {id : String} (h : l.backend.sessionId = some id)
    (files : List Attachment) (message : String) :
    (∃ reply, l.backend.answer l.server files message = .ok reply) ↔
      ∃ r, (l.server.post (l.backend.messagesUrl id) (Backend.messageJson message files)).1 =
          .ok r ∧
        r.isSuccess = true ∧
          (Text.isBlank r.body = true ∨ ∃ read, Reply.read r.body.toList = .ok read) := by
  simp only [answer_eq_ok_iff h]
  constructor
  · rintro ⟨reply, r, hr, hsuccess, ⟨hblank, -⟩ | ⟨-, hread⟩⟩
    · exact ⟨r, hr, hsuccess, .inl hblank⟩
    · exact ⟨r, hr, hsuccess, .inr ⟨reply, hread⟩⟩
  · rintro ⟨r, hr, hsuccess, hbody⟩
    cases hblank : Text.isBlank r.body with
    | true => exact ⟨none, r, hr, hsuccess, .inl ⟨hblank, rfl⟩⟩
    | false =>
      rcases hbody with hbody | ⟨read, hread⟩
      · exact absurd (hblank.symm.trans hbody) (by simp)
      · exact ⟨read, r, hr, hsuccess, .inr ⟨hblank, hread⟩⟩

/-- After every run no response is in progress, and the events have told of responses that began and
ended in turn. A message in a session tells that a response begins, of its reply if it has one, and
that the response is over, and succeeds exactly if its answer has a status of success and is blank
or can be read; without a session nothing is requested and nothing told. -/
theorem responses_told_in_pairs (baseUrl : String) (server : Server) (steps : List BackendStep) :
    let reached := (start baseUrl server).after steps
    let b := reached.backend
    let flags := b.events.filterMap BackendEvent.flag?
    b.isResponding = false ∧
    (∃ n, flags = (List.replicate n [true, false]).flatten) ∧
    flags.getLastD false = b.isResponding ∧
    (b.sessionId = none →
      (∀ files message, reached.perform (.submit files message) =
        (.completed (.error (.validation "No active session")), reached)) ∧
      reached.perform .cancel =
        (.completed (.error (.validation "No active session")), reached)) ∧
    ∀ id files message, b.sessionId = some id →
      let answer := (reached.server.post (b.messagesUrl id) (Backend.messageJson message files)).1
      let after := (reached.perform (.submit files message)).2
      ∃ result reply, (reached.perform (.submit files message)).1 = .completed result ∧
        after.backend.events = b.events ++
          .responding true :: (reply.map BackendEvent.reply).toList ++ [.responding false] ∧
        (∀ text, reply = some text ↔ ∃ r, answer = .ok r ∧ r.isSuccess = true ∧
          Text.isBlank r.body = false ∧ Reply.read r.body.toList = .ok (some text)) ∧
        (result = .ok () ↔ ∃ r, answer = .ok r ∧ r.isSuccess = true ∧
          (Text.isBlank r.body = true ∨ ∃ read, Reply.read r.body.toList = .ok read)) := by
  intro reached b flags
  have hidle : reached.IsIdle := (isIdle_start baseUrl server).after steps
  have hpaired : reached.IsPaired := by
    have hstart : (start baseUrl server).IsPaired := ⟨0, rfl⟩
    exact hstart.after (isIdle_start baseUrl server) steps
  refine ⟨hidle.idle, hpaired, ?_, perform_of_no_session, ?_⟩
  · obtain ⟨n, hflags⟩ := hpaired
    rw [hidle.idle]
    simp only [flags, b, hflags, getLastD_flatten_replicate]
  · intro id files message hid answer after
    obtain ⟨result, hresult, hok⟩ := result_submit hid files message
    refine ⟨result, reached.reply? (.submit files message), hresult, ?_, ?_, ?_⟩
    · exact events_submit hidle hid files message
    · intro text
      exact reply?_eq_some_iff hid files message text
    · exact hok.trans (exists_answer_iff hid files message)

end Link
end Composer
