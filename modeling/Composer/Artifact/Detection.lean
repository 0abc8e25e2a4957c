import Composer.Json.Reader
import Composer.Text.Lines
import Composer.Text.Search
set_option autoImplicit false

/-!
# The kind of a pasted text

A pasted text is classified by its looks, in this order: JSON, markup, Markdown, comma-separated
values, and plain text if it looks like none of them. Only the trimmed text counts.
-/

namespace Composer.Detection

/-- Whether a text begins with a JSON object or array and is JSON as a whole. -/
def isJson (cs : List Char) : Bool :=
  match cs with
  | '{' :: _ => (Json.readChars cs).isOk
  | '[' :: _ => (Json.readChars cs).isOk
  | _ => false

theorem isJson_eq (cs : List Char) :
    isJson cs = ((cs.head? == some '{' || cs.head? == some '[') && (Json.readChars cs).isOk) := by
  unfold isJson
  split
  next => rfl
  next => rfl
  next hobject harray =>
    cases cs with
    | nil => rfl
    | cons c cs =>
      have hne : c ≠ '{' ∧ c ≠ '[' :=
        ⟨fun h => hobject cs (by rw [h]), fun h => harray cs (by rw [h])⟩
      simp [hne.1, hne.2]

/-- Tags that only HTML has. -/
def htmlMarkers : List String := ["<!doctype html", "<html", "<body", "<div", "<p>"]

/-- Whether a text mentions a tag of HTML, in either case. All letters of the tags are ASCII, and no
other character is a capital form of one of them. -/
def hasHtmlTag (cs : List Char) : Bool :=
  let lower := cs.map Chars.lowerAscii
  htmlMarkers.any fun m => Chars.hasInfix m.toList lower

/-- Whether a text is markup: it starts and ends like a tag and closes one inside. -/
def isMarkup (cs : List Char) : Bool :=
  cs.head? == some '<' && cs.getLast? == some '>' && Chars.hasInfix ['<', '/'] cs

/-- What a line of Markdown may start with. -/
def markdownMarkers : List String := ["# ", "## ", "### ", "```", "- [ ]", "> "]

/-- Whether a line starts, after white space, like one of Markdown. -/
def isMarkdownLine (line : List Char) : Bool :=
  markdownMarkers.any fun m => m.toList.isPrefixOf (Chars.trimStart line)

/-- Whether some line is one of Markdown. -/
def isMarkdown (cs : List Char) : Bool := (Chars.lines cs).any isMarkdownLine

/-- How many commas a row has. -/
def commas (row : List Char) : Nat := row.count ','

/-- Whether a text is a table: at least two rows that are not blank, all with the same number of
commas, and that number not zero. -/
def isTable (cs : List Char) : Bool :=
  match (Chars.lines cs).filter fun row => !Chars.isBlank row with
  | first :: second :: rest =>
    commas first != 0 && (second :: rest).all fun row => commas row == commas first
  | _ => false

/-- The MIME type of a text that is trimmed. -/
def ofTrimmed (cs : List Char) : String :=
  if cs.isEmpty then "text/plain"
  else if isJson cs then "application/json"
  else if "<?xml".toList.isPrefixOf cs then "application/xml"
  else if isMarkup cs then if hasHtmlTag cs then "text/html" else "application/xml"
  else if isMarkdown cs then "text/markdown"
  else if isTable cs then "text/csv"
  else "text/plain"

/-- The MIME type of a pasted text. -/
def mimeType (content : String) : String := ofTrimmed (Chars.trim content.toList)

end Composer.Detection
