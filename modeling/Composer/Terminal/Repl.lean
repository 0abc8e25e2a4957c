import Composer.Backend
import Composer.Disk.Attachment
import Composer.MessageInput.Operation
import Composer.SignalBus
import Composer.Terminal.Completion
import Composer.Terminal.Notice
set_option autoImplicit false

/-!
# Lines of input

A line is a command or a message. A message whose last word starts with a slash may name a prompt,
which is then inserted instead of sending the line. After each line everything that has arrived
since is told to the user.
-/

namespace Composer.Terminal

/-- An operation of the input that was performed, with the calls that it made. -/
structure LogEntry where
  op : Operation
  calls : List Call

/-- The state between two lines: the message input, the backend it talks to, and what both can see
of the world. -/
structure Repl where
  input : MessageInput
  backend : Backend
  server : Server
  disk : Disk
  bus : SignalBus
  /-- The number of the input's subscription to signals. -/
  subscription : Nat
  prompts : List PromptGroup
  /-- What was said, line by line. -/
  transcript : List String := []
  /-- What the input was made to do, the oldest first; badges are numbered by it. -/
  log : List LogEntry := []
  /-- The time that badges are marked with. -/
  clock : Instant

/-- An action of the terminal: its result, the state after it, and what it told the user. -/
structure Told (α : Type) where
  result : α
  repl : Repl
  notices : List Notice := []

namespace Repl

/-- What the input sees of the backend. -/
def session (r : Repl) : Session := r.backend.session r.server s!"badge {r.log.length}" r.clock

/-- What the user is told at once about a call of the input. -/
def noticeOfCall : Call → Option Notice
  | .navigate instruction => some (.authoring instruction)
  | _ => none

/-- Performs an operation of the input, and makes the calls that it leads to. -/
def perform (r : Repl) (op : Operation) : Told Reply :=
  let reaction := r.input.perform r.session op
  let (backend, server) := r.backend.callAll r.server reaction.calls
  { result := reaction.result,
    repl :=
      { r with input := reaction.input, backend, server,
               log := r.log ++ [{ op, calls := reaction.calls }] },
    notices := reaction.calls.filterMap noticeOfCall }

/-- Performs operations one after another. -/
def performAll (r : Repl) : List Operation → Told Unit
  | [] => { result := (), repl := r }
  | op :: ops =>
    let first := r.perform op
    let rest := first.repl.performAll ops
    { rest with notices := first.notices ++ rest.notices }

/-! ## What has arrived -/

/-- Handles an event of the backend. -/
def handleEvent (r : Repl) (e : BackendEvent) : Told Unit :=
  match e with
  | .notification n => { result := (), repl := r, notices := [.notification n] }
  | .responding b => { result := (), repl := (r.perform (.observeResponding b)).repl }
  | .artifactsChanged => { result := (), repl := r, notices := [.artifactsUpdated] }
  | .sessionAssigned id =>
    { result := (), repl := (r.perform (.observeSession (some id))).repl,
      notices := [.sessionAssigned id] }
  | .reply text =>
    { result := (), repl := { r with transcript := r.transcript ++ ["assistant: " ++ text] },
      notices := [.reply text] }

/-- Handles events one after another. -/
def handleEvents (r : Repl) : List BackendEvent → Told Unit
  | [] => { result := (), repl := r }
  | e :: events =>
    let first := r.handleEvent e
    let rest := first.repl.handleEvents events
    { rest with notices := first.notices ++ rest.notices }

/-- Takes and handles the events that wait. -/
def drainEvents (r : Repl) : Told Unit :=
  let (events, backend) := r.backend.takeEvents
  ({ r with backend } : Repl).handleEvents events

/-- Takes and handles the signals that wait. -/
def drainSignals (r : Repl) : Told Unit :=
  let (signals, bus) := r.bus.receiveAll r.subscription r.bus.capacity
  ({ r with bus } : Repl).performAll (signals.map .handleSignal)

/-- What the user sees of a request to the view. -/
def noticeOfEffect : ViewEffect → Option Notice
  | .scrollToBottom => some .scrolled
  | .focusInput => none

/-- Carries out what the view was asked for. -/
def drainEffects (r : Repl) : Told Unit :=
  { result := (), repl := { r with input := { r.input with effects := {} } },
    notices := r.input.effects.queue.filterMap noticeOfEffect }

/-- Handles all that has arrived since the last line: events, signals, the events that these led to,
and last the requests to the view. -/
def pump (r : Repl) : Told Unit :=
  let events := r.drainEvents
  let signals := events.repl.drainSignals
  let late := signals.repl.drainEvents
  let effects := late.repl.drainEffects
  { effects with notices := events.notices ++ signals.notices ++ late.notices ++ effects.notices }

/-! ## The prompt -/

/-- What the prompt reminds of. -/
def reminders (r : Repl) : List String :=
  (if r.input.files.isEmpty then [] else [s!"{r.input.files.files.length} file(s)"])
    ++ (if r.input.badges.isEmpty then [] else [s!"{r.input.badges.length} artifact(s)"])
    ++ (if r.input.overlay.pending?.isSome then ["paste pending"] else [])
    ++ (if r.input.draft.context.isSome then ["context"] else [])

/-- The text in front of the cursor. -/
def promptText (r : Repl) : String :=
  match r.reminders with
  | [] => ">> "
  | reminders => "[" ++ ", ".intercalate reminders ++ "] >> "

/-! ## Commands -/

/-- The result of a line: whether the program goes on, or why the line was not carried out. -/
abbrev LineResult := Except LineError Bool

/-- A line that was carried out without changing anything. -/
def tell (r : Repl) (notices : List Notice) : Told LineResult :=
  { result := .ok true, repl := r, notices }

/-- A line that was not carried out. -/
def fail (r : Repl) (e : LineError) : Told LineResult := { result := .error e, repl := r }

/-- An operation as a line that goes on. -/
def act (r : Repl) (op : Operation) : Told LineResult :=
  let done := r.perform op
  { result := .ok true, repl := done.repl, notices := done.notices }

/-- The files at paths as attachments, if all can be read. -/
def loadAll (d : Disk) : List String → Except LineError (List Attachment)
  | [] => .ok []
  | path :: paths =>
    match d.attachment path with
    | .error fault => .error (.cannotAttach path fault)
    | .ok f => (loadAll d paths).map (f :: ·)

/-- Attaches files. -/
def attach (r : Repl) (paths : List String) : Told LineResult :=
  match loadAll r.disk paths with
  | .error e => r.fail e
  | .ok files =>
    let added := (r.input.takeFiles r.session files).1
    let done := r.perform (.takeFiles files)
    { result := .ok true, repl := done.repl,
      notices := .attached added :: if added < paths.length then [.duplicatesSkipped] else [] }

/-- Pastes a text. A small one is appended to the draft. -/
def pasteText (r : Repl) (text : String) : Told LineResult :=
  let outcome := (r.input.paste r.session (.text text)).1
  let pasted := (r.perform (.paste (.text text))).repl
  match outcome with
  | .insertDefault =>
    let longer := pasted.input.draft.text ++ text
    pasted.act (.changeText longer longer.length)
  | .artifactPending => pasted.tell [.pasteHeld text.length (Text.lineCount text)]
  | .filesAttached n => pasted.tell [.attached n]
  | .ignored =>
    pasted.tell [if r.session.responding then .pasteRefusedResponding else .pasteRefusedPending]

/-- Stores the paste that waits. -/
def save (r : Repl) (title : String) (mime : MimeChoice) : Told LineResult :=
  if r.input.overlay.pending?.isNone then r.fail .nothingToSave
  else
    let stored := (r.input.savePaste r.session title mime none).result
    let done := r.perform (.savePaste title mime none)
    { result := .ok true, repl := done.repl,
      notices := match stored with
        | some b => [.saved b.displayName b.artifact.uri]
        | none => [] }

/-- Items with their numbers, counted from one. -/
def numbered {α : Type} (xs : List α) : List (Nat × α) := (List.range' 1 xs.length).zip xs

/-- The files and artifacts that are attached. -/
def listing (r : Repl) : List Notice :=
  if r.input.files.isEmpty && r.input.badges.isEmpty then [.nothingAttached]
  else (numbered r.input.files.files).map (fun (n, f) => .file n f)
    ++ (numbered r.input.badges).map (fun (n, b) => .badge n b)

/-- Switches to another session. -/
def switchSession (r : Repl) (id : Option String) : Told LineResult :=
  let transition := r.input.tracker.transition id
  let r : Repl := { r with backend := r.backend.setSession id }
  { result := .ok true, repl := (r.perform (.observeSession id)).repl,
    notices := if transition.requiresReset then [.sessionChanged] else [] }

/-- Carries out a command. -/
def handleCommand (r : Repl) : Command → Told LineResult
  | .attach paths => r.attach paths
  | .paste path =>
    match r.disk.text path with
    | .error fault => r.fail (.cannotRead path fault)
    | .ok text => r.pasteText text
  | .save title mime => r.save title mime
  | .discard =>
    match r.input.overlay.pending? with
    | none => r.fail .nothingPending
    | some _ => (r.perform .discardPaste).repl.tell [.pasteDiscarded]
  | .files => r.tell r.listing
  | .remove index =>
    match r.input.files.files[index]? with
    | none => r.fail (.noFile (index + 1))
    | some f => (r.perform (.removeFile index)).repl.tell [.fileRemoved f.name]
  | .unlink index =>
    match r.input.badges[index]? with
    | none => r.fail (.noArtifact (index + 1))
    | some b => r.act (.removeBadge b.id)
  | .session id => r.switchSession id
  | .followUp selection question =>
    let (_, bus) := r.bus.publish (.followUp selection question question.isSome)
    ({ r with bus } : Repl).tell []
  | .context text => r.act (.setContext text)
  | .say text => r.act (.transcribe text)
  | .cancel =>
    let done := r.perform .cancelResponse
    { result := .ok true, repl := done.repl,
      notices := if r.backend.isResponding then [] else [.notResponding] }
  | .help => r.tell [.help]
  | .quit => { result := .ok false, repl := r }

/-! ## Messages -/

/-- Records that the line was typed: first its last word's slash, which may open the list of
prompts, then the whole line. -/
def typeLine (r : Repl) (line : List Char) : Repl :=
  let (before, word) := Chars.cutLastWord line
  let r := match word with
    | '/' :: _ =>
      let typed := before ++ ['/']
      (r.perform (.changeText (String.ofList typed) typed.length)).repl
    | _ => r
  (r.perform (.changeText (String.ofList line) line.length)).repl

/-- The conversation, if there was one. -/
def conversation? (r : Repl) : Option String :=
  let text := "\n".intercalate r.transcript
  if text.isEmpty then none else some text

/-- Looks up what the open list of prompts is filtered for. Nothing comes of a filter that no prompt
and no reserved command goes by; the list is then closed. -/
def selectPrompt (r : Repl) (query : String) : Option (Told LineResult) :=
  if query.isEmpty then some (r.tell [.prompts r.prompts])
  else match ReservedCommand.ofName? query with
    | some command => some (r.act (.runReserved command r.conversation?))
    | none =>
      match r.prompts.find? fun g => g.name == query || g.id == query with
      | none => none
      | some g =>
        if (r.input.selectPrompt g).1 then some (r.act (.selectPrompt g))
        else some (r.tell [.formOpen])

/-- Sends the message, if there is anything to send. -/
def send (r : Repl) : Told LineResult :=
  if r.input.draft.isBlank && r.input.files.isEmpty then r.tell []
  else
    let message := r.input.draft.message
    let sent := (r.input.submit r.session).result
    let done := r.perform .submit
    if sent then
      { result := .ok true,
        repl := { done.repl with transcript := done.repl.transcript ++ ["user: " ++ message] } }
    else done.repl.tell (if done.repl.backend.isResponding then [.stillResponding] else [])

/-- Handles a line that is no command. -/
def handleMessage (r : Repl) (line : List Char) : Told LineResult :=
  let r := r.typeLine line
  match r.input.slashQuery? with
  | none => r.send
  | some query =>
    match r.selectPrompt query with
    | some told => told
    | none => (r.perform .closeMenu).repl.send

/-- The command in a line: behind the draft that the line was filled with, or the whole line. -/
def commandIn? (initial line : List Char) : Option (List Char) :=
  let behind := (initial.isPrefixOf? line).map Chars.trimStart
  let isCommand (cs : List Char) : Bool := cs.head? == some ':'
  match behind.filter isCommand with
  | some command => some command
  | none => (some (Chars.trim line)).filter isCommand

/-- Handles a line that was filled with a text before the user went on. -/
def handleLine (r : Repl) (initial line : String) : Told LineResult :=
  match commandIn? initial.toList line.toList with
  | some text =>
    match Command.ofChars text with
    | .error e => r.fail (.badCommand e)
    | .ok command => r.handleCommand command
  | none => r.handleMessage line.toList

end Repl
end Composer.Terminal
