import Composer.Draft.SlashToken
import Composer.Text.Space
set_option autoImplicit false

/-!
# The draft

The message that is being written, with the position of the cursor in characters and, apart from the
text, a block of context that is sent along with it.
-/

namespace Composer

/-- An unsent message. -/
structure Draft where
  text : String := ""
  /-- How many characters stand before the cursor. -/
  cursor : Nat := 0
  /-- Text that is appended when the message is sent, such as a quoted selection. -/
  context : Option String := none
  deriving DecidableEq, Repr

/-- A message text and its context, with an empty line between them. A blank context does not count,
and in front of a context a blank text does not. -/
def composeMessage (text : String) (context : Option String) : String :=
  match Text.nonBlank? context with
  | none => text
  | some context => if Text.isBlank text then context else text ++ "\n\n" ++ context

theorem composeMessage_nonBlank (text : String) (context : Option String) :
    composeMessage text (Text.nonBlank? context) = composeMessage text context := by
  simp [composeMessage]

namespace Draft

/-- Replaces the text; a cursor beyond its end is put at its end. -/
def set (d : Draft) (text : String) (cursor : Nat) : Draft :=
  { d with text, cursor := min cursor text.length }

/-- Replaces the text and puts the cursor at its end. -/
def setText (d : Draft) (text : String) : Draft := { d with text, cursor := text.length }

@[simp] theorem before_setText (d : Draft) (text : String) :
    SlashToken.before (d.setText text).text.toList (d.setText text).cursor = text.toList := by
  simp [setText, SlashToken.before, ← String.length_toList]

/-- Replaces the context; a blank one is none. -/
def setContext (d : Draft) (context : Option String) : Draft :=
  { d with context := Text.nonBlank? context }

@[simp] theorem text_setContext (d : Draft) (context : Option String) :
    (d.setContext context).text = d.text := rfl

@[simp] theorem cursor_setContext (d : Draft) (context : Option String) :
    (d.setContext context).cursor = d.cursor := rfl

/-- Whether the text is blank. -/
def isBlank (d : Draft) : Bool := Text.isBlank d.text

/-- Removes the text and keeps the context. -/
def clearText (d : Draft) : Draft := { d with text := "", cursor := 0 }

/-- Removes text and context. -/
def clear (_ : Draft) : Draft := {}

/-- Whether a text ends in white space. -/
def endsInSpace (text : String) : Bool := (text.toList.getLast?.map Chars.isSpace).getD false

/-- Appends spoken text, trimmed, with a space in front where the draft needs one. Blank speech
changes nothing. -/
def appendTranscript (d : Draft) (speech : String) : Draft :=
  let speech := Text.trim speech
  if speech.isEmpty then d
  else
    let gap := if d.text.isEmpty || endsInSpace d.text then "" else " "
    d.setText (d.text ++ gap ++ speech)

/-- Spoken text changes nothing or is added at the end. -/
theorem appendTranscript_cases (d : Draft) (speech : String) :
    d.appendTranscript speech = d ∨
      ∃ more, d.appendTranscript speech = d.setText (d.text ++ more) := by
  unfold appendTranscript
  simp only
  split
  · exact .inl rfl
  · exact .inr ⟨_, by rw [String.append_assoc]⟩

/-- Replaces the slash token before the cursor. -/
def replaceSlashToken (d : Draft) (replacement : String) : Draft :=
  let (text, cursor) := SlashToken.replace d.text.toList d.cursor replacement.toList
  d.set (String.ofList text) cursor

/-- With the cursor at the end, the last slash and all behind it are replaced. -/
theorem replaceSlashToken_setText (d : Draft) {text : String} (replacement : String)
    {front query : List Char} (htext : text.toList = front ++ '/' :: query) (hquery : '/' ∉ query) :
    (d.setText text).replaceSlashToken replacement =
      d.setText (String.ofList front ++ replacement) := by
  have hlength : text.length = (front ++ '/' :: query).length := by
    rw [← String.length_toList, htext]
  simp only [replaceSlashToken, setText, htext, hlength, SlashToken.replace_length hquery]
  simp [set, String.length_toList]

/-- The message as it is sent. -/
def message (d : Draft) : String := composeMessage d.text d.context

theorem message_setContext (d : Draft) (context : Option String) :
    (d.setContext context).message = composeMessage d.text context :=
  composeMessage_nonBlank d.text context

end Draft
end Composer
