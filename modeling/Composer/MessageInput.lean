import Composer.Artifact
import Composer.Draft
import Composer.Fault
import Composer.Notification
import Composer.Overlay
import Composer.Paste
import Composer.Prompt.Reserved
import Composer.SessionTracker
import Composer.Signal
import Composer.View
set_option autoImplicit false

/-!
# The message input

The state of everything the user is composing, and the operations on it. An operation that involves
the session is given what it sees of the session at that moment, answers included, and returns the
calls that it made, in order. Every failed call leads to exactly one notification, and nothing is
tried twice.
-/

namespace Composer

/-! ## The session -/

/-- What the input sees of its session during one operation. -/
structure Session where
  /-- Whether a response is in progress. -/
  responding : Bool
  /-- The id of the active session, if there is one. -/
  id : Option String
  /-- The answer to a message with these files. -/
  submit : List Attachment → String → Except Fault Unit
  /-- The answer to a request to stop the response. -/
  cancel : Except Fault Unit
  /-- The answer to an upload for a session. -/
  upload : ArtifactUpload → Option String → Except Fault ArtifactRef
  /-- The id of the next badge. -/
  freshId : String
  /-- The present moment. -/
  now : Instant

/-- A call that the input makes on its session, or on the navigation around it. -/
inductive Call where
  | submit (message : String) (files : List Attachment)
  | cancel
  | upload (file : ArtifactUpload) (sessionId : Option String)
  /-- The list of artifacts has to be loaded anew. -/
  | refresh
  | notify (n : Notification)
  /-- The authoring of a template starts with this instruction. -/
  | navigate (instruction : String)
  deriving DecidableEq, Repr

/-- The fault with which the session answers a call, if it does. -/
def Session.fault? (s : Session) : Call → Option Fault
  | .submit message files =>
    match s.submit files message with
    | .ok _ => none
    | .error e => some e
  | .cancel =>
    match s.cancel with
    | .ok _ => none
    | .error e => some e
  | .upload file sessionId =>
    match s.upload file sessionId with
    | .ok _ => none
    | .error e => some e
  | _ => none

/-! ## The state -/

/-- The state of the message input. -/
structure MessageInput where
  classifier : PasteClassifier
  draft : Draft
  files : Selection
  badges : List Badge
  overlay : Overlay
  tracker : SessionTracker
  /-- Whether a response was in progress when the host last said so. -/
  wasResponding : Bool
  effects : ViewEffects
  deriving DecidableEq, Repr

/-- The outcome of an operation: its result, the state after it, and the calls that it made. -/
structure Reaction (α : Type) where
  result : α
  input : MessageInput
  calls : List Call := []

namespace MessageInput

/-- The input as it is first shown; the session's id is observed and is no change. -/
def start (classifier : PasteClassifier) (session : Session) : MessageInput :=
  { classifier, draft := {}, files := {}, badges := [], overlay := .none,
    tracker := { current := session.id }, wasResponding := session.responding, effects := {} }

/-- The filter behind the slash, while the list of prompts is open. -/
def slashQuery? (m : MessageInput) : Option String :=
  match m.overlay with
  | .slashMenu => (SlashToken.query? m.draft.text.toList m.draft.cursor).map String.ofList
  | _ => none

/-- Whether there is something to send and no response in progress. -/
def canSubmit (m : MessageInput) (session : Session) : Bool :=
  !session.responding && (!m.draft.isBlank || !m.files.isEmpty)

/-- Asks the view for something. -/
def request (m : MessageInput) (e : ViewEffect) : MessageInput :=
  { m with effects := m.effects.push e }

/-- Closes the list of prompts if it is open. -/
def closeMenu (m : MessageInput) : MessageInput := { m with overlay := m.overlay.closeMenu }

/-- Takes the requests that wait for the view. -/
def drainEffects (m : MessageInput) : List ViewEffect × MessageInput :=
  (m.effects.queue, { m with effects := {} })

/-! ## Text -/

/-- The overlay after the draft was edited: a slash that starts a word opens the list of prompts if
nothing is open, and the list closes when no slash is left before the cursor. -/
def overlayAfterEdit (overlay : Overlay) (d : Draft) : Overlay :=
  if SlashToken.isTrigger d.text.toList d.cursor then
    match overlay with
    | .none => .slashMenu
    | o => o
  else
    match overlay with
    | .slashMenu =>
      if (SlashToken.before d.text.toList d.cursor).contains '/' then .slashMenu else .none
    | o => o

/-- Records an edit of the text. -/
def changeText (m : MessageInput) (text : String) (cursor : Nat) : MessageInput :=
  let draft := m.draft.set text cursor
  { m with draft, overlay := overlayAfterEdit m.overlay draft }

/-- Appends spoken text to the draft. -/
def transcribe (m : MessageInput) (speech : String) : MessageInput :=
  { m with draft := m.draft.appendTranscript speech }.request .focusInput

/-- Sets or removes the context. -/
def setContext (m : MessageInput) (context : Option String) : MessageInput :=
  { m with draft := m.draft.setContext context }

/-! ## Files and pastes -/

/-- Takes files into the selection; the result counts the new ones. -/
def mergeFiles (m : MessageInput) (incoming : List Attachment) : Nat × MessageInput :=
  (m.files.added incoming, { m with files := m.files.merge incoming })

/-- Takes files that were picked or dropped, unless a response is in progress. -/
def takeFiles (m : MessageInput) (session : Session) (incoming : List Attachment) :
    Nat × MessageInput :=
  if session.responding then (0, m) else m.mergeFiles incoming

/-- Handles a paste. While a response is in progress nothing happens; a large text needs an overlay
that gives way. -/
def paste (m : MessageInput) (session : Session) (clipboard : Clipboard) :
    PasteOutcome × MessageInput :=
  if session.responding then (.ignored, m)
  else match clipboard with
    | .files incoming =>
      let (added, m) := m.mergeFiles incoming
      (.filesAttached added, m)
    | .text text =>
      match m.classifier.classify text with
      | .small => (.insertDefault, m)
      | .large =>
        if m.overlay.givesWay then (.artifactPending, { m with overlay := .artifactForm text })
        else (.ignored, m)

/-- Takes the file at a position out of the selection. -/
def removeFile (m : MessageInput) (index : Nat) : Option Attachment × MessageInput :=
  let (file, files) := m.files.remove index
  (file, { m with files })

/-- Removes the badge with this id; the result tells whether there was one. -/
def removeBadge (m : MessageInput) (id : String) : Bool × MessageInput :=
  (m.badges.any fun b => b.id == id, { m with badges := m.badges.filter fun b => b.id != id })

/-- Takes the text out of the artifact form and closes it. -/
def discardPaste (m : MessageInput) : Option String × MessageInput :=
  match m.overlay with
  | .artifactForm text => (some text, { m with overlay := .none })
  | _ => (none, m)

/-- Stores the text of the artifact form with the backend. The form closes whatever the answer is.
-/
def savePaste (m : MessageInput) (session : Session) (title : String) (choice : MimeChoice)
    (description : Option String) : Reaction (Option Badge) :=
  match m.discardPaste with
  | (none, m) => { result := none, input := m }
  | (some content, m) =>
    let file := ArtifactUpload.ofPaste title choice description content
    match session.upload file session.id with
    | .ok artifact =>
      let badge : Badge :=
        { id := session.freshId, artifact, displayName := file.name, createdAt := session.now }
      { result := some badge,
        input := { m with badges := m.badges ++ [badge] }.request .focusInput,
        calls := [.upload file session.id, .refresh] }
    | .error e =>
      { result := none,
        input := m.request .focusInput,
        calls := [.upload file session.id,
          .notify { level := .error, title := "Failed to save pasted content",
                    message := e.userMessage }] }

/-! ## Sending -/

/-- Sends the draft with the selected files. Success leaves the input empty, failure leaves it as it
is; the result tells which it was. Without anything to send, no call is made. -/
def submit (m : MessageInput) (session : Session) : Reaction Bool :=
  if !m.canSubmit session then { result := false, input := m }
  else
    let message := m.draft.message
    let files := m.files.files
    match session.submit files message with
    | .ok _ =>
      { result := true,
        input :=
          { m with draft := {}, files := {}, badges := [] }.closeMenu.request .scrollToBottom,
        calls := [.submit message files] }
    | .error e =>
      { result := false,
        input := m.request .focusInput,
        calls := [.submit message files,
          .notify { level := .error, title := "Failed to send message",
                    message := e.userMessage }] }

/-- Asks the session to stop the response in progress. -/
def cancelResponse (m : MessageInput) (session : Session) : Reaction Unit :=
  if !session.responding then { result := (), input := m }
  else match session.cancel with
    | .ok _ => { result := (), input := m, calls := [.cancel] }
    | .error e =>
      { result := (), input := m,
        calls := [.cancel,
          .notify { level := .error, title := "Failed to cancel response",
                    message := e.userMessage }] }

/-- Learns whether a response is in progress; the end of one asks for the focus. -/
def observeResponding (m : MessageInput) (responding : Bool) : MessageInput :=
  let m := if m.wasResponding && !responding then m.request .focusInput else m
  { m with wasResponding := responding }

/-! ## Prompts -/

/-- Puts a prompt in place of the slash token. -/
def insertPrompt (m : MessageInput) (text : String) : MessageInput :=
  { m with draft := m.draft.replaceSlashToken text }.closeMenu.request .focusInput

/-- Selects a saved prompt: one with variables opens the dialog, any other is inserted. Nothing
happens while an overlay is open that does not give way. -/
def selectPrompt (m : MessageInput) (group : PromptGroup) : Bool × MessageInput :=
  if !m.overlay.givesWay then (false, m)
  else match group.variableNames with
    | [] => (true, m.insertPrompt group.text)
    | names =>
      (true, { m with overlay := .variableDialog { group, names, target := .slashToken } })

/-- Completes the dialog with values. Every variable needs one that is not blank; otherwise the
dialog stays open. The result is the text that was inserted. -/
def submitVariables (m : MessageInput) (values : VariableValues) :
    Except Fault String × MessageInput :=
  match m.overlay with
  | .variableDialog dialog =>
    match Template.missing dialog.group.text values with
    | [] =>
      let text := Template.substitute dialog.group.text values
      let draft := match dialog.target with
        | .slashToken => m.draft.replaceSlashToken text
        | .draft => m.draft.setText text
      (.ok text, { m with overlay := .none, draft }.request .focusInput)
    | names => (.error (.validation ("Missing values for: " ++ ", ".intercalate names)), m)
  | _ => (.error (.validation "No prompt is waiting for variables"), m)

/-- Closes the dialog and leaves the draft alone. -/
def cancelVariables (m : MessageInput) : MessageInput :=
  match m.overlay with
  | .variableDialog _ => { m with overlay := .none }.request .focusInput
  | _ => m

/-- Applies a prompt that navigation brought along, and uses it up. While an overlay is open that
does not give way, the prompt is left for a later call. -/
def applyPending (m : MessageInput) (pending : Option PendingPrompt) :
    Bool × Option PendingPrompt × MessageInput :=
  match pending with
  | none => (false, none, m)
  | some p =>
    if !m.overlay.givesWay then (false, some p, m)
    else
      let group := p.group
      let m := match group.variableNames with
        | [] => { m with draft := m.draft.setText group.text }
        | names =>
          { m with overlay := .variableDialog { group, names, target := .draft } }
      (true, none, m.request .focusInput)

/-- Runs a reserved command, which takes the place of the typed text. -/
def runReserved (m : MessageInput) (command : ReservedCommand) (transcript : Option String) :
    Reaction Unit :=
  match command with
  | .createTemplate =>
    { result := (),
      input := { m with draft := m.draft.clearText }.closeMenu,
      calls := [.navigate (authoringInstruction transcript)] }

/-! ## Session and signals -/

/-- Observes the id of the active session; a change leaves an empty input. -/
def observeSession (m : MessageInput) (id : Option String) : SessionTransition × MessageInput :=
  let transition := m.tracker.transition id
  let m := { m with tracker := m.tracker.observe id }
  if transition.requiresReset then
    (transition, { m with draft := {}, files := {}, badges := [], overlay := .none })
  else (transition, m)

/-- Reacts to a signal. A follow-up question takes the place of the draft's text, the selected text
becomes the context, and the message is sent at once if the signal says so. -/
def handleSignal (m : MessageInput) (session : Session) : Signal → Reaction Unit
  | .focusInput => { result := (), input := m.request .focusInput }
  | .followUp selected question autoSubmit =>
    let question := Text.nonBlank? question
    let draft := match question with
      | some q => m.draft.setText q
      | none => m.draft
    let m := { m with draft := draft.setContext (some (quoteSelection selected)) }
    if autoSubmit && question.isSome then
      let r := m.submit session
      { result := (), input := r.input, calls := r.calls }
    else { result := (), input := m.request .focusInput }

end MessageInput
end Composer
