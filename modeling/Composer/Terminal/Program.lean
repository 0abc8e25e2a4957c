import Composer.Config.Store
import Composer.Terminal.Console
import Composer.Terminal.LogFilter
import Composer.Terminal.Repl
import Composer.Text.Cluster
set_option autoImplicit false

/-!
# The program

The program loads its configuration, greets the user, and then reads lines until it is told to quit
or the input ends. While a prompt's dialog is open, each line is the answer for one variable.
-/

namespace Composer.Terminal

/-- What the program is started with. -/
structure Arguments where
  /-- The path of the configuration file. -/
  config : Option String := none
  /-- The session to start in. -/
  session : Option String := none
  /-- The id of the prompt to start the draft with. -/
  prompt : Option String := none
  /-- How much more is logged than usual. -/
  verbosity : Nat := 0
  deriving DecidableEq, Repr

namespace Arguments

/-- The option with this name, set to a value. -/
def set (a : Arguments) (name value : String) : Option Arguments :=
  match name with
  | "--config" => some { a with config := some value }
  | "--session" => some { a with session := some value }
  | "--prompt" => some { a with prompt := some value }
  | _ => none

/-- Whether a text raises the verbosity: `-v`, with more of the letter for more of it. -/
def isVerbose (cs : List Char) : Bool :=
  match cs with
  | '-' :: 'v' :: more => more.all (· == 'v')
  | _ => false

/-- Reads options; a value stands behind the option's name or behind an equals sign. -/
def read (a : Arguments) : List String → Option Arguments
  | [] => some a
  | "--verbose" :: rest => ({ a with verbosity := a.verbosity + 1 } : Arguments).read rest
  | [word] => readOne a word
  | word :: value :: rest =>
    match readOne a word with
    | some a => a.read (value :: rest)
    | none => (a.set word value).bind fun a => a.read rest
where
  /-- Reads an option that is complete in itself. -/
  readOne (a : Arguments) (word : String) : Option Arguments :=
    let cs := word.toList
    if isVerbose cs then some { a with verbosity := a.verbosity + cs.length - 1 }
    else match Chars.splitFirst (· == '=') cs with
      | some (name, value) => a.set (String.ofList name) (String.ofList value)
      | none => none

/-- Reads the options of a command line. -/
def parse (words : List String) : Option Arguments := ({} : Arguments).read words

end Arguments

/-! ## Starting -/

/-- The state before the first line, under a configuration. -/
def Repl.start (c : Config) (session : Option String) (server : Server) (disk : Disk)
    (clock : Instant) : Repl :=
  let backend := (Backend.connect c.api.baseUrl).setSession session
  let (subscription, bus) := (SignalBus.withCapacity SignalBus.defaultCapacity).subscribe
  { input := .start c.paste (backend.session server "" clock), prompts := c.prompts,
    backend, server, disk, bus, subscription, clock }

/-- The prompt with an id, as it is handed over to the input. -/
def pendingPrompt? (groups : List PromptGroup) (id : Option String) : Option PendingPrompt := do
  let id ← id
  let g ← groups.find? fun g => g.id == id
  return { text := g.text, groupId := some g.id, groupName := some g.name }

/-! ## Running -/

/-- A dialog that is being answered. -/
structure Questions where
  dialog : VariableDialog
  /-- The answers so far. -/
  answers : VariableValues := []
  deriving DecidableEq, Repr

/-- The program between two lines. -/
structure Program where
  repl : Repl
  /-- The dialog whose variables are asked for. -/
  questions : Option Questions := none
  isRunning : Bool := true

/-- The program after it told the user something. -/
abbrev Program.Step := Program × List Notice

namespace Program

/-- Completes the dialog with answers. -/
def answer (r : Repl) (answers : VariableValues) : Told Unit :=
  let done := r.perform (.submitVariables answers)
  { result := (), repl := done.repl,
    notices := match done.result with
      | .filled (.error fault) => [.dialogFailed fault]
      | _ => [] }

/-- The text in front of the cursor. -/
def promptText (p : Program) : String :=
  match p.questions with
  | none => p.repl.promptText
  | some q =>
    match q.dialog.names[q.answers.length]? with
    | some name => "  \x7b\x7b" ++ name ++ "\x7d\x7d: "
    | none => ""

/-- Asks for the next line. -/
def ask (p : Program) (notices : List Notice) : Step := (p, notices ++ [.prompt p.promptText])

/-- Gets ready for the next line: what has arrived is handled, and an open dialog starts to ask. -/
def await (r : Repl) : Step :=
  let pumped := r.pump
  match pumped.repl.input.overlay.dialog? with
  | none => ask { repl := pumped.repl } pumped.notices
  | some dialog =>
    let notices := pumped.notices ++ [.dialog dialog.group.name]
    if dialog.names.isEmpty then
      let answered := answer pumped.repl []
      ask { repl := answered.repl } (notices ++ answered.notices)
    else ask { repl := pumped.repl, questions := some { dialog } } notices

/-- Starts the program under a configuration. -/
def start (c : Config) (a : Arguments) (server : Server) (disk : Disk) (clock : Instant) : Step :=
  let r := Repl.start c a.session server disk clock
  let r := (r.perform (.applyPending (pendingPrompt? c.prompts a.prompt))).repl
  let (p, notices) := await r
  (p, .banner r.backend.baseUrl r.backend.sessionId :: notices)

/-- Takes a line as the answer for the next variable; the last answer completes the dialog. -/
def takeAnswer (p : Program) (q : Questions) (line : String) : Step :=
  match q.dialog.names.drop q.answers.length with
  | [] => await p.repl
  | name :: others =>
    let q := { q with answers := q.answers ++ [(name, Text.trim line)] }
    if others.isEmpty then
      let answered := answer p.repl q.answers
      let (p, notices) := await answered.repl
      (p, answered.notices ++ notices)
    else ask { p with questions := some q } []

/-- Takes a line as a command or a message. -/
def takeLine (p : Program) (line : String) : Step :=
  let told := p.repl.handleLine p.repl.input.draft.text line
  match told.result with
  | .ok true =>
    let (p, notices) := await told.repl
    (p, told.notices ++ notices)
  | .ok false => ({ p with repl := told.repl, isRunning := false }, told.notices ++ [.goodbye])
  | .error e =>
    let (p, notices) := await told.repl
    (p, told.notices ++ .failed e :: notices)

/-- Takes a line, unless the program has ended. -/
def feed (p : Program) (line : String) : Step :=
  if !p.isRunning then (p, [])
  else match p.questions with
    | some q => p.takeAnswer q line
    | none => p.takeLine line

/-- Takes the end of the input: an open dialog is cancelled, and the program ends. -/
def finish (p : Program) : Step :=
  if !p.isRunning then (p, [])
  else match p.questions with
    | some _ =>
      let cancelled := p.repl.perform .cancelVariables
      let pumped := cancelled.repl.pump
      let (p, notices) := ask { repl := pumped.repl } (.dialogCancelled :: pumped.notices)
      ({ p with isRunning := false }, notices ++ [.endOfInput])
    | none => ({ p with isRunning := false }, [.endOfInput])

/-- Takes lines one after another. -/
def feedAll (p : Program) : List String → Step
  | [] => (p, [])
  | line :: lines =>
    let (p, notices) := p.feed line
    let (p, rest) := p.feedAll lines
    (p, notices ++ rest)

/-- Takes all lines and the end of the input. -/
def run (p : Program) (lines : List String) : Step :=
  let (p, notices) := p.feedAll lines
  let (p, rest) := p.finish
  (p, notices ++ rest)

end Program

/-! ## From start to end -/

/-- A line while it is read. -/
structure Typed where
  /-- The characters, the last one first. -/
  chars : List Char := []
  /-- How many bytes each backspace to come takes away, the next one first. -/
  sizes : List Nat := []
  deriving DecidableEq, Repr

namespace Typed

/-- Takes a cluster of characters. A backspace takes the cluster before it away; the size of a
cluster is remembered as one byte. -/
def push (t : Typed) (cluster : List Char) : Typed :=
  if cluster = ['\x08'] then
    match t.sizes with
    | [] => t
    | n :: sizes => { chars := Utf8.drop n t.chars, sizes }
  else
    { chars := cluster.reverse ++ t.chars, sizes := Utf8.size cluster % 256 :: t.sizes }

end Typed

/-- A line as it is read, with its backspaces carried out. -/
def withoutBackspaces (cs : List Char) : List Char :=
  if !cs.contains '\x08' then cs
  else ((Chars.clusters cs).foldl Typed.push {}).chars.reverse

/-- The lines of the standard input. -/
def inputLines (s : String) : List String :=
  (Chars.lines s.toList).map fun line => String.ofList (withoutBackspaces line)

/-- What is printed when the program cannot start. -/
def startFailure (fault : Fault) : String :=
  let indented := fault.message.toList.flatMap fun c =>
    if c = '\n' then ['\n', ' ', ' ', ' ', ' '] else [c]
  "Error: failed to load configuration\n\nCaused by:\n    " ++ String.ofList indented ++ "\n"

/-- What a run of the program leaves behind. -/
structure Outcome where
  exitCode : Nat
  output : String
  errors : String
  server : Server

/-- The lines that tell notices on a console. -/
def told (k : Console) (notices : List Notice) : List Line :=
  (notices.filter fun n => k.showsPrompts || !n.isPrompt).flatMap Notice.lines

/-- The lines that report on the log filter. -/
def logLines (k : Console) (c : Config) (a : Arguments) : List Line :=
  (LogFilter.reports k.logFilter c.logFilter a.verbosity).map fun text =>
    { stream := .errors, spans := [{ text }] }

/-- Runs the program on a whole input. -/
def runProgram (a : Arguments) (e : Environment) (k : Console) (server : Server) (disk : Disk)
    (clock : Instant) (stdin : String) : Outcome :=
  match (ConfigStore.get { path := a.config } e disk).1 with
  | .error fault => { exitCode := 1, output := "", errors := startFailure fault, server }
  | .ok c =>
    let (p, notices) := Program.start c a server disk clock
    let (p, rest) := p.run (inputLines stdin)
    let lines := logLines k c a ++ told k (notices ++ rest)
    { exitCode := 0, output := printed k.usesColors .output lines,
      errors := printed k.usesColors .errors lines, server := p.repl.server }

end Composer.Terminal
