import Composer.Proofs.Backend.Events
import Composer.Proofs.Terminal.Conversation
set_option autoImplicit false

/-!
# Where events arrive

An event that tells whether a response is in progress goes to the input; any other is shown to the
user. Nothing else that the user is told is an event: a line by itself shows none.
-/

namespace Composer

/-- Whether an event is shown to the user. -/
def BackendEvent.isShown (e : BackendEvent) : Bool := e.flag?.isNone

namespace Terminal

/-- What the input was told about a response in progress. -/
def LogEntry.observed? (e : LogEntry) : Option Bool :=
  match e.op with
  | .observeResponding isResponding => some isResponding
  | _ => none

/-- The event that a notice shows. -/
def Notice.event? : Notice → Option BackendEvent
  | .notification n => some (.notification n)
  | .artifactsUpdated => some .artifactsChanged
  | .sessionAssigned id => some (.sessionAssigned id)
  | .reply text => some (.reply text)
  | _ => none

/-- The events that notices show. -/
def shown (notices : List Notice) : List BackendEvent := notices.filterMap Notice.event?

@[simp] theorem shown_nil : shown [] = [] := rfl

@[simp] theorem shown_append (first second : List Notice) :
    shown (first ++ second) = shown first ++ shown second := List.filterMap_append

theorem shown_cons (n : Notice) (notices : List Notice) :
    shown (n :: notices) = n.event?.toList ++ shown notices := by
  cases hevent : n.event? <;> simp [shown, hevent]

/-! ## The events of a log -/

/-- The events that the calls of the log tell of, replayed. -/
def toldEvents (b : Backend) (server : Server) : List LogEntry → List BackendEvent
  | [] => []
  | e :: log =>
    let made := (e.op.connected b).callAll server e.calls
    (e.op.connected b).told server e.calls ++ toldEvents made.1 made.2 log

theorem toldEvents_snoc (b : Backend) (server : Server) (log : List LogEntry) (e : LogEntry) :
    toldEvents b server (log ++ [e]) =
      toldEvents b server log ++
        (e.op.connected (replay b server log).1).told (replay b server log).2 e.calls := by
  induction log generalizing b server with
  | nil => simp [toldEvents, replay]
  | cons first log ih =>
    rw [List.cons_append, toldEvents, toldEvents, ih, List.append_assoc]
    rfl

/-! ## Lines -/

namespace Repl

variable {r : Repl}

theorem event?_of_noticeOfCall {c : Call} {n : Notice} (h : noticeOfCall c = some n) :
    n.event? = none := by
  cases c with
  | navigate instruction =>
    obtain rfl := Option.some.inj h
    rfl
  | _ => exact absurd h (by simp [noticeOfCall])

@[simp] theorem shown_perform (op : Operation) : shown (r.perform op).notices = [] := by
  refine List.filterMap_eq_nil_iff.mpr ?_
  intro n hn
  obtain ⟨c, -, hnotice⟩ := List.mem_filterMap.mp hn
  exact event?_of_noticeOfCall hnotice

@[simp] theorem shown_performAll (ops : List Operation) :
    shown (r.performAll ops).notices = [] := by
  induction ops generalizing r with
  | nil => rfl
  | cons op ops ih =>
    have hrest : (r.performAll (op :: ops)).notices =
        (r.perform op).notices ++ ((r.perform op).repl.performAll ops).notices := rfl
    rw [hrest, shown_append, shown_perform, ih]
    rfl

theorem shown_listing : shown r.listing = [] := by
  unfold listing
  split
  · rfl
  · simp [shown, Notice.event?, List.filterMap_map, Function.comp_def]

theorem shown_attach (paths : List String) : shown (r.attach paths).notices = [] := by
  unfold attach
  split
  · rfl
  · dsimp only
    split <;> rfl

theorem shown_pasteText (text : String) : shown (r.pasteText text).notices = [] := by
  unfold pasteText
  dsimp only
  split
  · exact shown_perform _
  · rfl
  · rfl
  · simp only [tell]
    split <;> rfl

theorem shown_save (title : String) (mime : MimeChoice) :
    shown (r.save title mime).notices = [] := by
  unfold save
  split
  · rfl
  · dsimp only
    split <;> rfl

theorem shown_handleCommand (command : Command) :
    shown (r.handleCommand command).notices = [] := by
  cases command with
  | attach paths => exact shown_attach paths
  | paste path =>
    simp only [handleCommand]
    split
    · rfl
    · exact shown_pasteText _
  | save title mime => exact shown_save title mime
  | discard =>
    simp only [handleCommand]
    split <;> rfl
  | files => exact shown_listing
  | remove index =>
    simp only [handleCommand]
    split <;> rfl
  | unlink index =>
    simp only [handleCommand]
    split
    · rfl
    · exact shown_perform _
  | session id =>
    simp only [handleCommand, switchSession]
    split <;> rfl
  | followUp selection question => rfl
  | context text => exact shown_perform _
  | say text => exact shown_perform _
  | cancel =>
    simp only [handleCommand]
    split <;> rfl
  | help => rfl
  | quit => rfl

theorem shown_send : shown r.send.notices = [] := by
  unfold send
  split
  · rfl
  · dsimp only
    split
    · rfl
    · simp only [tell]
      split <;> rfl

theorem shown_selectPrompt {query : String} {told : Told LineResult}
    (h : r.selectPrompt query = some told) : shown told.notices = [] := by
  unfold selectPrompt at h
  split at h
  · obtain rfl := Option.some.inj h
    rfl
  · split at h
    · obtain rfl := Option.some.inj h
      exact shown_perform _
    · split at h
      · exact absurd h (by simp)
      · split at h
        · obtain rfl := Option.some.inj h
          exact shown_perform _
        · obtain rfl := Option.some.inj h
          rfl

theorem shown_handleMessage (line : List Char) : shown (r.handleMessage line).notices = [] := by
  unfold handleMessage
  dsimp only
  split
  · exact shown_send
  · split
    · rename_i told htold
      exact shown_selectPrompt htold
    · exact shown_send

/-- A line shows no event by itself. -/
@[simp] theorem shown_handleLine (initial line : String) :
    shown (r.handleLine initial line).notices = [] := by
  unfold handleLine
  split
  · split
    · rfl
    · exact shown_handleCommand _
  · exact shown_handleMessage _

end Repl
end Terminal
end Composer
