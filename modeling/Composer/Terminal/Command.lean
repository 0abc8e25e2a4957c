import Composer.Artifact
import Composer.Text.Words
set_option autoImplicit false

/-!
# Commands

A line that starts with a colon is a command: a name, and arguments behind white space.
-/

namespace Composer.Terminal

/-- A command. Positions count from zero. -/
inductive Command where
  | attach (paths : List String)
  | paste (path : String)
  | save (title : String) (mime : MimeChoice)
  | discard
  | files
  | remove (index : Nat)
  | unlink (index : Nat)
  | session (id : Option String)
  | followUp (selection : String) (question : Option String)
  | context (text : Option String)
  | say (text : String)
  | cancel
  | help
  | quit
  deriving DecidableEq, Repr

/-- Why a line is no command. -/
inductive CommandError where
  | noColon
  /-- Arguments are missing or not understood; the text shows how the command is used. -/
  | usage (text : String)
  | unknown (name : String)
  | indexZero
  deriving DecidableEq, Repr

/-- The wording of an error. -/
def CommandError.message : CommandError → String
  | noColon => "commands start with ':'"
  | usage text => "usage: " ++ text
  | unknown name => s!"unknown command ':{name}' (try :help)"
  | indexZero => "indexes start at 1"

namespace Command

/-- The names that are offered while a command is typed. -/
def names : List String := [
  ":attach", ":paste", ":save", ":discard", ":files", ":rm", ":unlink", ":session", ":followup",
  ":context", ":say", ":cancel", ":help", ":quit"]

/-- What the commands do. -/
def helpLines : List String := [
  "<text>                 type and send a message",
  "  /<prompt>              insert a configured prompt (Tab completes)",
  "  :attach <path>...      attach files",
  "  :paste <path>          paste a file's text as if from the clipboard",
  "  :save <title> [mime]   save the pending large paste as an artifact",
  "  :discard               drop the pending large paste",
  "  :files                 list attached files and saved artifacts",
  "  :rm <n>                remove attached file n",
  "  :unlink <n>            remove saved artifact n",
  "  :session [id]          switch to another session",
  "  :followup <sel> [-- <question>]",
  "                         ask about a selection (auto-sends with a question)",
  "  :context [text]        set or clear the context sent with the message",
  "  :say <text>            append transcribed speech to the draft",
  "  :cancel                stop the response in progress",
  "  :quit                  exit"]

/-! ## Arguments -/

/-- The result of reading a command. -/
abbrev Parsed := Except CommandError

/-- An argument that has to be there. -/
def required (usage : String) (rest : List Char) : Parsed String :=
  if rest.isEmpty then .error (.usage usage) else .ok (String.ofList rest)

/-- An argument that may be missing. -/
def optional (rest : List Char) : Option String :=
  if rest.isEmpty then none else some (String.ofList rest)

/-- A position; it is written counting from one. -/
def position (usage : String) (rest : List Char) : Parsed Nat :=
  match Numeral.unsigned? rest with
  | none => .error (.usage usage)
  | some 0 => .error .indexZero
  | some (n + 1) => .ok n

/-- Paths with white space between them. -/
def paths (rest : List Char) : Parsed (List String) :=
  match (Chars.words rest).map String.ofList with
  | [] => .error (.usage ":attach <path>...")
  | paths => .ok paths

/-- Whether the last word of a title is meant as a MIME type. -/
def isMimeWord (word : List Char) : Bool := word == ['a', 'u', 't', 'o'] || word.contains '/'

/-- A title and a MIME type, which is the last of several words if it looks like one. -/
def titleAndMime (rest : List Char) : Command :=
  let words := Chars.words rest
  let join (words : List (List Char)) : String := String.ofList (List.intercalate [' '] words)
  match words.getLast? with
  | some last =>
    if 1 < words.length && isMimeWord last then
      .save (join words.dropLast) (.parse (String.ofList last))
    else .save (join words) .auto
  | none => .save "" .auto

/-- A selection, and a question behind two hyphens. -/
def selectionAndQuestion (rest : List Char) : Parsed Command :=
  let usage := ":followup <selection> [-- <question>]"
  match Chars.splitOn [' ', '-', '-', ' '] rest with
  | some (selection, question) =>
    (required usage (Chars.trim selection)).map fun s =>
      .followUp s (optional (Chars.trim question))
  | none => (required usage rest).map fun s => .followUp s none

/-! ## Commands -/

/-- The command with a name and trimmed arguments. -/
def ofName (name : String) (rest : List Char) : Parsed Command :=
  match name with
  | "attach" => (paths rest).map attach
  | "a" => (paths rest).map attach
  | "paste" => (required ":paste <path>" rest).map paste
  | "p" => (required ":paste <path>" rest).map paste
  | "save" => .ok (titleAndMime rest)
  | "discard" => .ok discard
  | "files" => .ok files
  | "ls" => .ok files
  | "rm" => (position ":rm <n>" rest).map remove
  | "unlink" => (position ":unlink <n>" rest).map unlink
  | "session" => .ok (session (optional rest))
  | "followup" => selectionAndQuestion rest
  | "f" => selectionAndQuestion rest
  | "context" => .ok (context (optional rest))
  | "say" => (required ":say <text>" rest).map say
  | "cancel" => .ok cancel
  | "help" => .ok help
  | "h" => .ok help
  | "?" => .ok help
  | "quit" => .ok quit
  | "q" => .ok quit
  | "exit" => .ok quit
  | name => .error (.unknown name)

/-- Reads a command out of a line. -/
def ofChars (line : List Char) : Parsed Command :=
  match Chars.trim line with
  | ':' :: body =>
    match Chars.splitFirst Chars.isSpace body with
    | some (name, rest) => ofName (String.ofList name) (Chars.trim rest)
    | none => ofName (String.ofList body) []
  | _ => .error .noColon

/-- Reads a command out of a line. -/
def parse (line : String) : Parsed Command := ofChars line.toList

end Command
end Composer.Terminal
