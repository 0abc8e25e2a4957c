import Composer.Backend.Exchange
import Composer.Terminal.Program
import Std.Async.DNS
import Std.Async.TCP
set_option autoImplicit false

/-!
# The command line

Runs the program on the standard input. All decisions are made elsewhere: here the environment, the
files that a line refers to and the answers of the backend are fetched, and what the program tells
is printed.
-/

namespace Composer.Terminal

/-! ## Surroundings -/

/-- The part of the environment that bears on the program. -/
def readEnvironment : IO Environment := do
  return {
    home := ← IO.getEnv "HOME",
    configHome := ← IO.getEnv "XDG_CONFIG_HOME",
    apiUrl := ← IO.getEnv "CHATDECK_API_URL" }

/-- The part of the environment that bears on the way in which the program talks. -/
def readConsole : IO Console := do
  return {
    logFilter := ← IO.getEnv "RUST_LOG",
    terminal := ← IO.getEnv "TERM",
    forcesColors := ← IO.getEnv "CLICOLOR_FORCE",
    refusesColors := ← IO.getEnv "NO_COLOR",
    allowsColors := ← IO.getEnv "CLICOLOR",
    isTerminal := ← (← IO.getStdout).isTty }

/-- What stands at a place. What cannot be read counts as missing, and a device is not read. -/
def nodeAt (place : Place) : IO (Option Node) := do
  let path := (← IO.currentDir) / ("/" ++ "/".intercalate place)
  try
    let m ← path.metadata
    match m.type with
    | .dir => return some .folder
    | .file =>
      let modified : Int := m.modified.sec * 1000000000 + m.modified.nsec.toNat
      return some (.file (← IO.FS.readBinFile path).toList modified)
    | _ => return some (.device [])
  catch _ => return none

/-- Takes what stands on the way to a path onto a disk. -/
def look (disk : Disk) (path : String) : IO Disk := do
  let p := Path.ofString path
  let mut disk := disk
  let mut here := disk.startOf p
  for name in p.parts do
    if disk.step here name matches .error .notFound then
      if let some node ← nodeAt (here ++ [name]) then disk := disk.put (here ++ [name]) node
    match disk.step here name with
    | .ok there => here := there
    | .error _ => return disk
  return disk

/-- A disk with all that these paths lead to. -/
def diskWith (paths : List String) : IO Disk := do
  let workingFolder := Path.names (← IO.currentDir).toString.toList
  paths.foldlM look { workingFolder }

/-- The paths of the files that a line refers to. -/
def pathsIn (initial line : String) : List String :=
  match (Repl.commandIn? initial.toList line.toList).map Command.ofChars with
  | some (.ok (.attach paths)) => paths
  | some (.ok (.paste path)) => [path]
  | _ => []

/-! ## The backend -/

/-- Sends a text to a host and waits for all that comes back. -/
def exchange (host : String) (port : Nat) (text : String) : IO ByteArray := do
  let addresses ← (Std.Async.DNS.getAddrInfo host "").block
  let some address := addresses[0]? | throw (IO.userError "unknown host")
  let target : Std.Net.SocketAddress := match address with
    | .v4 addr => .v4 { addr, port := UInt16.ofNat port }
    | .v6 addr => .v6 { addr, port := UInt16.ofNat port }
  let client ← Std.Async.TCP.Socket.Client.mk
  (client.connect target).block
  (client.send text.toUTF8).block
  let mut received := ByteArray.empty
  repeat
    match ← (client.recv? 65536).block with
    | some more => received := received ++ more
    | none => break
  return received

/-- The answer to a request. -/
def send (url : Url) (r : Request) : IO Answer := do
  try
    let received ← exchange (url.host.getD "") (url.port.getD 80)
      (Exchange.requestText url.authority r)
    return Exchange.answer received.toList
  catch _ => return .closed

/-- Takes a step of the program. When it makes a request, the request is sent and the step is taken
anew with the answer, until no request is left without one. -/
def settle (url : Url) (p : Program) (step : Program → Program.Step) : IO Program.Step := do
  let before := p.repl.server.received.length
  let mut answers := []
  repeat
    let server := { p.repl.server with answers }
    let done := step { p with repl := { p.repl with server } }
    match done.1.repl.server.received[before + answers.length]? with
    | some r => answers := answers ++ [← send url r]
    | none => return done
  return (p, [])

/-! ## Lines -/

/-- Prints lines. -/
def print (k : Console) (lines : List Line) : IO Unit := do
  for line in lines do
    let text := String.ofList (line.written k.usesColors)
    match line.stream with
    | .output => IO.print text
    | .errors => IO.eprint text
  (← IO.getStdout).flush

/-- Reads lines until the program ends. On a terminal the program prints its prompts. -/
def serve (k : Console) (url : Url) (start : Program.Step) : IO Unit := do
  let input ← IO.getStdin
  let isInteractive ← input.isTty
  let tell (notices : List Notice) : IO Unit :=
    print k (if isInteractive then notices.flatMap Notice.lines else told k notices)
  let mut p := start.1
  tell start.2
  while p.isRunning do
    let text ← input.getLine
    let (next, notices) ← match inputLines text with
      | [] => settle url p Program.finish
      | line :: _ =>
        let disk ← diskWith (pathsIn p.repl.input.draft.text line)
        settle url { p with repl := { p.repl with disk } } fun p => p.feed line
    p := next
    tell notices

/-- Runs the program with the options of a command line; the result is the exit code. -/
def runWith (a : Arguments) : IO UInt32 := do
  let e ← readEnvironment
  let file := ({ path := a.config } : ConfigStore).file e
  let disk ← diskWith (match file with
    | .ok path => [path]
    | .error _ => [])
  match (ConfigStore.get { path := a.config } e disk).1 with
  | .error fault =>
    IO.eprint (startFailure fault)
    return 1
  | .ok c =>
    let k ← readConsole
    print k (logLines k c a)
    let url := (Url.parse? c.api.baseUrl).getD { scheme := "", host := none, path := "" }
    serve k url (Program.start c a { authority := url.authority } disk ⟨0, 0⟩)
    return 0

end Composer.Terminal

/-- Runs the program. -/
def main (args : List String) : IO UInt32 := do
  match Composer.Terminal.Arguments.parse args with
  | some a => Composer.Terminal.runWith a
  | none =>
    IO.eprintln "usage: chatdeck [--config <path>] [--session <id>] [--prompt <id>] [-v]"
    return 2
