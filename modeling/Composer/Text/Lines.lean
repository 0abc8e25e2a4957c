import Composer.Text.Space
set_option autoImplicit false

/-!
# Lines

A line ends at a newline, and a carriage return just before that newline belongs to the line's end.
A final newline does not open a further line, so the empty text has no lines.
-/

namespace Composer.Chars

/-- The lines of a text, without their ends. -/
def lines : List Char → List (List Char)
  | [] => []
  | '\n' :: cs => [] :: lines cs
  | '\r' :: '\n' :: cs => [] :: lines cs
  | c :: cs =>
    match lines cs with
    | [] => [[c]]
    | line :: rest => (c :: line) :: rest

@[simp] theorem lines_nil : lines [] = [] := rfl

@[simp] theorem lines_newline (cs : List Char) : lines ('\n' :: cs) = [] :: lines cs := rfl

end Composer.Chars

namespace Composer.Text

/-- The lines of a string, without their ends. -/
def lines (s : String) : List String := (Chars.lines s.toList).map String.ofList

/-- How many lines a string has. -/
def lineCount (s : String) : Nat := (Chars.lines s.toList).length

end Composer.Text
