import Composer.Text.Search
set_option autoImplicit false

/-!
# Coloured text

A coloured text stands between a sequence that switches the colour on and one that switches all
colours off. Where a text switches colours off itself, its own colour is switched on again.
-/

namespace Composer.Terminal

/-- The colours in use. -/
inductive Color where
  | red
  | green
  | yellow
  | grey
  | brightGreen
  | brightBlue
  | brightMagenta
  | brightCyan
  deriving DecidableEq, Repr

/-- The number of a colour. -/
def Color.code : Color → List Char
  | red => ['3', '1']
  | green => ['3', '2']
  | yellow => ['3', '3']
  | grey => ['9', '0']
  | brightGreen => ['9', '2']
  | brightBlue => ['9', '4']
  | brightMagenta => ['9', '5']
  | brightCyan => ['9', '6']

/-- A piece of a line with its colour, if it has one. -/
structure Span where
  text : String
  color : Option Color := none
  isBold : Bool := false
  deriving DecidableEq, Repr

/-- The sequence that switches a colour on. -/
def switchOn (color : Color) (isBold : Bool) : List Char :=
  ['\x1b', '['] ++ (if isBold then ['1', ';'] else []) ++ color.code ++ ['m']

/-- The sequence that switches all colours off. -/
def switchOff : List Char := ['\x1b', '[', '0', 'm']

/-- A text in a colour. -/
def colored (color : Color) (isBold : Bool) (cs : List Char) : List Char :=
  let on := switchOn color isBold
  on ++ Text.replaceAll switchOff (switchOff ++ on) cs ++ switchOff

/-- A piece of a line as it is printed. -/
def Span.written (colors : Bool) (s : Span) : List Char :=
  match s.color with
  | some color => if colors then colored color s.isBold s.text.toList else s.text.toList
  | none => s.text.toList

/-- Where a line is printed. -/
inductive Stream where
  | output
  | errors
  deriving DecidableEq, Repr

/-- A line that is printed. -/
structure Line where
  stream : Stream := .output
  spans : List Span
  /-- Whether more follows on the same line. -/
  isOpen : Bool := false
  deriving DecidableEq, Repr

/-- A line in one colour. -/
def Line.of (color : Color) (text : String) : Line := { spans := [{ text, color := some color }] }

/-- A line without colours. -/
def Line.plain (text : String) : Line := { spans := [{ text }] }

/-- A line as it is printed. -/
def Line.written (colors : Bool) (l : Line) : List Char :=
  l.spans.flatMap (Span.written colors) ++ if l.isOpen then [] else ['\n']

/-- All that lines print on a stream. -/
def printed (colors : Bool) (stream : Stream) (lines : List Line) : String :=
  String.ofList ((lines.filter fun l => l.stream == stream).flatMap (Line.written colors))

end Composer.Terminal
