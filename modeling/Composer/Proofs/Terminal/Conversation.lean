import Composer.Proofs.Backend.Calls
import Composer.Proofs.Terminal.Moves
set_option autoImplicit false

/-!
# The conversation

What was said is read off the log and the backend: a message was said if it arrived, and its reply
comes behind it. Replaying the calls of the log shows which answers there were. A run of the program
never loses track of this: the state between two operations is the one that a replay leads to.
-/

namespace Composer

/-! ## What was said -/

/-- Who says something. -/
inductive Speaker where
  /-- The user, with a line that was typed. -/
  | typist
  /-- The user, with a question that a signal sent at once. -/
  | asker
  | assistant
  deriving DecidableEq, Repr

/-- Something that was said in a session. -/
structure Utterance where
  speaker : Speaker
  session : String
  text : String
  deriving DecidableEq, Repr

namespace Utterance

/-- The line for it in a transcript. -/
def line (u : Utterance) : String :=
  match u.speaker with
  | .assistant => "assistant: " ++ u.text
  | _ => "user: " ++ u.text

/-- Whether it is no question of a signal. -/
def isKept (u : Utterance) : Bool := u.speaker != .asker

end Utterance

namespace Backend

/-- What is said by a call: a message that arrives, and the reply to it. -/
def exchange (b : Backend) (server : Server) (speaker : Speaker) : Call → List Utterance
  | .submit message files =>
    match b.sessionId, b.answer server files message with
    | some session, .ok reply =>
      { speaker, session, text := message } ::
        reply.toList.map fun text => { speaker := .assistant, session, text }
    | _, _ => []
  | _ => []

/-- What is said by calls that are made one after another. -/
def exchanges (b : Backend) (server : Server) (speaker : Speaker) : List Call → List Utterance
  | [] => []
  | c :: calls =>
    b.exchange server speaker c
      ++ exchanges (b.call server c).1 (b.call server c).2 speaker calls

theorem exchanges_congr {b b' : Backend} (h : b.calm = b'.calm) (server : Server)
    (speaker : Speaker) (calls : List Call) :
    b.exchanges server speaker calls = b'.exchanges server speaker calls := by
  induction calls generalizing b b' server with
  | nil => rfl
  | cons c calls ih =>
    have hexchange : b.exchange server speaker c = b'.exchange server speaker c := by
      calc b.exchange server speaker c = b.calm.exchange server speaker c := rfl
        _ = b'.calm.exchange server speaker c := by rw [h]
        _ = b'.exchange server speaker c := rfl
    obtain ⟨hconnection, hserver⟩ := callAll_congr h server [c]
    simp only [callAll_cons, callAll_nil] at hconnection hserver
    rw [exchanges, exchanges, hexchange, hserver, ih hconnection]

theorem exchange_submit_of_ok {b : Backend} {server : Server} {files : List Attachment}
    {message session : String} {reply : Option String} (hid : b.sessionId = some session)
    (hanswer : b.answer server files message = .ok reply) (speaker : Speaker) :
    b.exchange server speaker (.submit message files) =
      { speaker, session, text := message } ::
        reply.toList.map fun text => { speaker := .assistant, session, text } := by
  simp only [exchange, hid, hanswer]

theorem exchange_submit_of_error {b : Backend} {server : Server} {files : List Attachment}
    {message : String} {e : Fault} (hanswer : b.answer server files message = .error e)
    (speaker : Speaker) : b.exchange server speaker (.submit message files) = [] := by
  simp only [exchange, hanswer]
  cases b.sessionId <;> rfl

/-- Of a message that a signal sent, the reply alone is kept. -/
theorem kept_exchange_asker (b : Backend) (server : Server) (c : Call) :
    ((b.exchange server .asker c).filter Utterance.isKept).map Utterance.line =
      (b.replyTo? server c).toList.map ("assistant: " ++ ·) := by
  cases c with
  | submit message files =>
    cases hanswer : b.answer server files message with
    | error e => simp [exchange_submit_of_error hanswer, replyTo?, hanswer]
    | ok reply =>
      cases hid : b.sessionId with
      | none =>
        simp only [answer, hid] at hanswer
        exact absurd hanswer (by simp)
      | some session =>
        rw [exchange_submit_of_ok hid hanswer]
        simp only [replyTo?, hanswer]
        cases reply <;> rfl
  | _ => rfl

theorem kept_exchanges_asker (b : Backend) (server : Server) (calls : List Call) :
    ((b.exchanges server .asker calls).filter Utterance.isKept).map Utterance.line =
      (b.repliesTo server calls).map ("assistant: " ++ ·) := by
  induction calls generalizing b server with
  | nil => rfl
  | cons c calls ih =>
    rw [exchanges, repliesTo, List.filter_append, List.map_append, kept_exchange_asker, ih,
      List.map_append]

end Backend

/-! ## Replaying the log -/

/-- Who sends the messages of an operation. -/
def Operation.speaker : Operation → Speaker
  | .submit => .typist
  | _ => .asker

/-- The connection in which the calls of an operation are made: the session is the observed one. -/
def Operation.connected (op : Operation) (b : Backend) : Backend :=
  match op with
  | .observeSession id => { b with sessionId := id }
  | _ => b

theorem Operation.calm_connected (op : Operation) (b : Backend) :
    (op.connected b).calm = op.connected b.calm := by
  cases op <;> rfl

namespace Terminal

/-- Makes the calls of the log again. -/
def replay (b : Backend) (server : Server) : List LogEntry → Backend × Server
  | [] => (b, server)
  | e :: log =>
    let made := (e.op.connected b).callAll server e.calls
    replay made.1 made.2 log

/-- What was said, replayed from the log. -/
def conversation (b : Backend) (server : Server) : List LogEntry → List Utterance
  | [] => []
  | e :: log =>
    let made := (e.op.connected b).callAll server e.calls
    (e.op.connected b).exchanges server e.op.speaker e.calls ++ conversation made.1 made.2 log

theorem replay_snoc (b : Backend) (server : Server) (log : List LogEntry) (e : LogEntry) :
    replay b server (log ++ [e]) =
      (e.op.connected (replay b server log).1).callAll (replay b server log).2 e.calls := by
  induction log generalizing b server with
  | nil => rfl
  | cons first log ih => exact ih _ _

theorem conversation_snoc (b : Backend) (server : Server) (log : List LogEntry) (e : LogEntry) :
    conversation b server (log ++ [e]) =
      conversation b server log ++
        (e.op.connected (replay b server log).1).exchanges (replay b server log).2 e.op.speaker
          e.calls := by
  induction log generalizing b server with
  | nil => simp [conversation, replay]
  | cons first log ih =>
    rw [List.cons_append, conversation, conversation, ih, List.append_assoc]
    rfl

namespace Repl

/-- The state is where a replay of the log from some connection leads. -/
structure Tracked (b : Backend) (server : Server) (r : Repl) : Prop where
  listening : r.backend.isListening = true
  connection : (replay b server r.log).1.calm = r.backend.calm
  served : (replay b server r.log).2 = r.server

variable {b : Backend} {server : Server} {r : Repl}

/-- The step lemma: what an operation's calls say is added to the conversation. -/
theorem tracked_perform {op : Operation} (hlistening : r.backend.isListening = true)
    (hconnection : (op.connected (replay b server r.log).1).calm = r.backend.calm)
    (hserver : (replay b server r.log).2 = r.server) :
    Tracked b server (r.perform op).repl ∧
    conversation b server (r.perform op).repl.log =
      conversation b server r.log ++
        r.backend.exchanges r.server op.speaker (r.input.perform r.session op).calls := by
  have hlog : (r.perform op).repl.log =
      r.log ++ [{ op, calls := (r.input.perform r.session op).calls }] := rfl
  refine ⟨⟨?_, ?_, ?_⟩, ?_⟩
  · exact (Backend.Tells.callAll _).listening hlistening
  · rw [hlog, replay_snoc, hserver]
    exact (Backend.callAll_congr hconnection _ _).1
  · rw [hlog, replay_snoc, hserver]
    exact (Backend.callAll_congr hconnection _ _).2
  · rw [hlog, conversation_snoc, hserver, Backend.exchanges_congr hconnection]

end Repl
end Terminal
end Composer
