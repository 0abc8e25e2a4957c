import Composer.Text.Lines
import Composer.Text.Space
set_option autoImplicit false

/-!
# Signals

What other parts of the application ask of the message input.
-/

namespace Composer

/-- A request to the message input. -/
inductive Signal where
  /-- Move the keyboard focus into the input. -/
  | focusInput
  /-- Ask about a text selected elsewhere, with a question to start from. -/
  | followUp (selected : String) (question : Option String) (autoSubmit : Bool)
  deriving DecidableEq, Repr

/-- A line of a quotation; an empty line gets the mark alone. -/
def quoteLine (line : List Char) : List Char := if line.isEmpty then ['>'] else '>' :: ' ' :: line

/-- A selected text as a block of context: a header and the trimmed text, line by line behind a
mark. -/
def quoteSelection (selected : String) : String :=
  let quoted := (Chars.lines (Chars.trim selected.toList)).map quoteLine
  "Regarding this selection:\n" ++ String.ofList (List.intercalate ['\n'] quoted)

end Composer
