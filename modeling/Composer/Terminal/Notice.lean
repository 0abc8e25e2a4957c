import Composer.MessageInput
import Composer.Terminal.Command
import Composer.Terminal.Style
set_option autoImplicit false

/-!
# Notices

Everything the terminal tells the user, as values, and how each is worded and coloured.
-/

namespace Composer.Terminal

/-- Why a line could not be carried out. -/
inductive LineError where
  | badCommand (e : CommandError)
  | cannotAttach (path : String) (fault : Fault)
  | cannotRead (path : String) (fault : Fault)
  | nothingToSave
  | nothingPending
  /-- There is no file with this number. -/
  | noFile (number : Nat)
  /-- There is no artifact with this number. -/
  | noArtifact (number : Nat)
  deriving DecidableEq, Repr

/-- The wording of an error. -/
def LineError.message : LineError → String
  | badCommand e => e.message
  | cannotAttach path fault => s!"failed to attach {path}: {fault.message}"
  | cannotRead path fault => s!"failed to read {path}: {fault.message}"
  | nothingToSave => "no pasted content is waiting to be saved"
  | nothingPending => "no pasted content is pending"
  | noFile n => s!"no attached file #{n}"
  | noArtifact n => s!"no saved artifact #{n}"

/-- Something that is told to the user. -/
inductive Notice where
  /-- The greeting, with the backend and the session. -/
  | banner (baseUrl : String) (sessionId : Option String)
  | notification (n : Notification)
  | artifactsUpdated
  | sessionAssigned (id : String)
  | reply (text : String)
  /-- An empty line that moves the conversation up. -/
  | scrolled
  /-- A template would be made with this instruction. -/
  | authoring (instruction : String)
  /-- The list of prompts. -/
  | prompts (groups : List PromptGroup)
  | formOpen
  | stillResponding
  | attached (count : Nat)
  | duplicatesSkipped
  | saved (name uri : String)
  | pasteDiscarded
  | fileRemoved (name : String)
  | sessionChanged
  | notResponding
  | help
  | pasteHeld (chars lines : Nat)
  | pasteRefusedResponding
  | pasteRefusedPending
  | nothingAttached
  /-- An attached file with its number. -/
  | file (number : Nat) (f : Attachment)
  /-- A stored artifact with its number. -/
  | badge (number : Nat) (b : Badge)
  | failed (e : LineError)
  /-- The dialog of a prompt opens. -/
  | dialog (promptName : String)
  | dialogFailed (fault : Fault)
  | dialogCancelled
  | goodbye
  | endOfInput
  /-- The next line is awaited behind this text. -/
  | prompt (text : String)
  deriving Repr

namespace Notice

/-- A name filled up with spaces to a width. -/
def padded (width : Nat) (name : String) : String :=
  String.ofList (name.toList ++ List.replicate (width - name.length) ' ')

/-- A line of the list of prompts. -/
def promptLine (name description : String) : Line :=
  { spans := [{ text := s!"  /{padded 20 name} " }, { text := description, color := some .grey }] }

/-- The colour of a notification. -/
def levelColor : NotificationLevel → Color
  | .error => .red
  | .success => .green
  | .info => .grey

/-- The stream that notifications of a level go to. -/
def levelStream : NotificationLevel → Stream
  | .error => .errors
  | _ => .output

/-- A line that reports an error. -/
def errorLine (text : String) : Line :=
  { stream := .errors, spans := [{ text, color := some .red }] }

/-- The lines that tell a notice. -/
def lines : Notice → List Line
  | banner baseUrl sessionId => [
      { spans := [{ text := "=== ChatDeck ===", color := some .brightMagenta, isBold := true }] },
      .of .grey s!"Backend: {baseUrl}",
      .of .grey (match sessionId with
        | some id => s!"Session: {id}"
        | none => "No session yet (:session <id>)"),
      .of .grey "Type a message, '/' for prompts, ':help' for commands.",
      .plain ""]
  | notification n => [
      { stream := levelStream n.level,
        spans := [{ text := n.line, color := some (levelColor n.level) }] }]
  | artifactsUpdated => [.of .grey "Artifacts updated"]
  | sessionAssigned id => [.of .grey s!"Session {id}"]
  | reply text => (Text.lines text).map (.of .brightBlue)
  | scrolled => [.plain ""]
  | authoring instruction =>
      .of .brightMagenta "Template authoring requested:" :: (Text.lines instruction).map fun l =>
        { spans := [{ text := "  " }, { text := l, color := some .grey }] }
  | prompts groups =>
      .of .brightMagenta "Prompts:"
        :: groups.map (fun g => promptLine g.name (g.description.getD ""))
        ++ ReservedCommand.all.map (fun c => promptLine c.name c.description)
  | formOpen => [.of .yellow "Finish the open form first (:save or :discard)"]
  | stillResponding => [.of .yellow "A response is still in progress (:cancel to stop it)"]
  | attached count => [.of .green s!"Attached {count} file(s)"]
  | duplicatesSkipped => [.of .grey "Duplicates were skipped"]
  | saved name uri => [.of .green s!"Saved {name} ({uri})"]
  | pasteDiscarded => [.of .grey "Pasted content discarded"]
  | fileRemoved name => [.of .grey s!"Removed {name}"]
  | sessionChanged => [.of .grey "Session changed, input cleared"]
  | notResponding => [.of .grey "No response in progress"]
  | help => Command.helpLines.map .plain
  | pasteHeld chars lines => [
      .of .yellow
        s!"Large paste ({chars} chars, {lines} lines) held back. :save <title> [mime] or :discard"]
  | pasteRefusedResponding => [.of .yellow "Paste ignored while a response is in progress"]
  | pasteRefusedPending => [.of .yellow "Paste ignored: save or discard the pending paste first"]
  | nothingAttached => [.of .grey "Nothing attached"]
  | file number f => [.plain s!"  {number}. {f.name} ({f.mime}, {f.size.toNat} bytes)"]
  | badge number b => [
      { spans := [{ text := s!"  @{number}. {b.displayName} " },
          { text := b.artifact.uri, color := some .grey }] }]
  | failed e => [errorLine s!"Error: {e.message}"]
  | dialog promptName => [.of .brightMagenta s!"Fill in the variables for '{promptName}':"]
  | dialogFailed fault => [errorLine fault.userMessage]
  | dialogCancelled => [.of .grey "Prompt cancelled"]
  | goodbye => [.of .brightGreen "Goodbye!"]
  | endOfInput => [.of .brightGreen "CTRL-D detected. Exiting..."]
  | prompt text => [{ spans := [{ text }], isOpen := true }]

/-- Whether a notice only awaits the next line. -/
def isPrompt : Notice → Bool
  | prompt _ => true
  | _ => false

end Notice
end Composer.Terminal
