import Composer.Prompt
import Composer.Prompt.Reserved
import Composer.Terminal.Command
import Composer.Terminal.Style
import Composer.Text.Utf8
set_option autoImplicit false

/-!
# Completion

While a line is typed, names are offered for what stands before the cursor: the commands for a line
that starts with a colon and has no space, the prompts for a last word that starts with a slash.
Positions in a line count bytes.
-/

namespace Composer.Terminal

/-- The names that can be completed. -/
structure Completion where
  /-- Prompts, each behind a slash. -/
  prompts : List String
  /-- Commands, each behind a colon. -/
  commands : List String
  deriving DecidableEq, Repr

namespace Completion

/-- The names of configured prompts, of reserved commands, and of commands. -/
def ofPrompts (groups : List PromptGroup) : Completion :=
  { prompts :=
      groups.map (fun g => "/" ++ g.name) ++ ReservedCommand.all.map (fun c => "/" ++ c.name),
    commands := Command.names }

/-- Where the last word of a line starts. -/
def wordStart (line : List Char) : Nat := Utf8.size (Chars.cutLastWord line).1

/-- The names that start like a text. -/
def matching (names : List String) (typed : List Char) : List String :=
  names.filter fun name => typed.isPrefixOf name.toList

/-- The part of a line that a name would take the place of, and what stands before it. -/
def typedPart (line : List Char) : List Char × List Char :=
  if line.head? = some ':' && !line.contains ' ' then ([], line) else Chars.cutLastWord line

/-- The names that are offered behind a line. -/
def candidates (c : Completion) (line : List Char) : List String :=
  let typed := (typedPart line).2
  if line.head? = some ':' && !line.contains ' ' then matching c.commands typed
  else if typed.head? = some '/' then matching c.prompts typed
  else []

/-- Where the names that are offered would start. -/
def start (line : List Char) : Nat := Utf8.size (typedPart line).1

/-- The characters in front of a position in bytes. -/
def upTo : (position : Nat) → List Char → List Char
  | _, [] => []
  | position, c :: cs =>
    if position < c.utf8Size then [] else c :: upTo (position - c.utf8Size) cs

/-- The names that are offered at a position, and where they would start. -/
def complete (c : Completion) (line : String) (position : Nat) : Nat × List String :=
  let before := upTo position line.toList
  (start before, c.candidates before)

/-- How the line could go on: the rest of the first name that is longer than what is typed. A hint
needs the cursor at the end and two bytes to start from. -/
def hint (c : Completion) (line : String) (position : Nat) : Option String :=
  let cs := line.toList
  let typed := (typedPart cs).2
  if position < Utf8.size cs || Utf8.size typed < 2 then none
  else
    ((c.candidates cs).find? fun name => Utf8.size typed < Utf8.size name.toList).map fun name =>
      String.ofList (name.toList.drop typed.length)

/-- A line as it is shown while it is typed: commands are coloured. -/
def highlight (line : String) : Span :=
  { text := line, color := if line.toList.head? = some ':' then some .brightCyan else none }

end Completion
end Composer.Terminal
