import Composer.Text.Numeral
import Composer.Toml.Basic
set_option autoImplicit false

/-!
# Writing TOML

A document is written as sections with an empty line between each two. A text is written with the
first kind of marks between which it needs no escapes, and over several lines if it has several.
-/

namespace Composer.Toml

/-- A value that a section can hold. -/
inductive Setting where
  | text (s : String)
  | number (n : Nat)
  deriving DecidableEq, Repr

/-- A header and the assignments below it. -/
structure Section where
  name : String
  /-- Whether the section is an item in a list of tables. -/
  isItem : Bool := false
  settings : List (String × Setting)
  deriving DecidableEq, Repr

/-! ## What a document says -/

/-- The value of a setting. -/
def Setting.value : Setting → Toml
  | text s => .string s
  | number n => .integer n

/-- The statement of a section's header. -/
def Section.header (s : Section) : Statement :=
  if s.isItem then .openItem [s.name] else .openTable [s.name]

/-- The statements of a section. -/
def Section.statements (s : Section) : List Statement :=
  s.header :: s.settings.map fun (key, v) => .assign [key] v.value

/-! ## How it is written -/

/-- A character that cannot stand in a text without escapes. -/
def isHidden (c : Char) : Bool := (c.toNat < 0x20 && c != '\t' && c != '\n') || c.toNat == 0x7F

/-- The length of the longest run of a character. -/
def longestRun (x : Char) (cs : List Char) : Nat :=
  (cs.foldl (fun (longest, run) c =>
    if c = x then (max longest (run + 1), run + 1) else (longest, 0)) (0, 0)).1

/-- The marks around a text. -/
inductive Style where
  /-- Quotation marks. -/
  | basic
  /-- Apostrophes. -/
  | literal
  /-- Three quotation marks. -/
  | longBasic
  /-- Three apostrophes. -/
  | longLiteral
  deriving DecidableEq, Repr

/-- The marks that a text is written with: the first ones that need no escapes, or else quotation
marks, three of them for several lines. -/
def Style.of (cs : List Char) : Style :=
  let severalLines := cs.contains '\n'
  let hidden := cs.any isHidden
  let backslash := cs.contains '\\'
  if !severalLines && !hidden && !backslash && !cs.contains '"' then .basic
  else if !severalLines && !hidden && !cs.contains '\'' then .literal
  else if !hidden && !backslash && longestRun '"' cs ≤ 2 then .longBasic
  else if !hidden && longestRun '\'' cs ≤ 2 then .longLiteral
  else if severalLines then .longBasic
  else .basic

/-- A character between quotation marks, other than a quotation mark; between three of them a
newline stands for itself. -/
def escape (long : Bool) (c : Char) : List Char :=
  if c = '\x08' then ['\\', 'b']
  else if c = '\t' then ['\\', 't']
  else if c = '\n' then if long then ['\n'] else ['\\', 'n']
  else if c = '\x0c' then ['\\', 'f']
  else if c = '\r' then ['\\', 'r']
  else if c = '\\' then ['\\', '\\']
  else if isHidden c then
    ['\\', 'u', '0', '0', Numeral.hexUpper (c.toNat / 16), Numeral.hexUpper (c.toNat % 16)]
  else [c]

/-- A text between quotation marks, of which `limit` would end it and so may not stand in a row;
`run` of them precede. -/
def escapeAll (limit : Nat) : (run : Nat) → List Char → List Char
  | _, [] => []
  | run, c :: cs =>
    if c = '"' then
      if run + 1 = limit then '\\' :: '"' :: escapeAll limit 0 cs
      else '"' :: escapeAll limit (run + 1) cs
    else escape (limit != 1) c ++ escapeAll limit 0 cs

/-- A text with its marks. A newline behind three marks is not part of the text, and is written
where the text has several lines. -/
def quote (cs : List Char) : List Char :=
  let opening := if cs.contains '\n' then ['\n'] else []
  match Style.of cs with
  | .basic => '"' :: escapeAll 1 0 cs ++ ['"']
  | .literal => '\'' :: cs ++ ['\'']
  | .longBasic => '"' :: '"' :: '"' :: opening ++ escapeAll 3 0 cs ++ ['"', '"', '"']
  | .longLiteral => '\'' :: '\'' :: '\'' :: opening ++ cs ++ ['\'', '\'', '\'']

/-- A setting's value as it is written. -/
def Setting.written : Setting → List Char
  | text s => quote s.toList
  | number n => Numeral.digits n

/-- A section's header line. -/
def Section.headerLine (s : Section) : List Char :=
  if s.isItem then '[' :: '[' :: s.name.toList ++ [']', ']', '\n']
  else '[' :: s.name.toList ++ [']', '\n']

/-- The line of an assignment. -/
def settingLine (key : String) (v : Setting) : List Char :=
  key.toList ++ [' ', '=', ' '] ++ v.written ++ ['\n']

/-- The lines of a section. -/
def Section.written (s : Section) : List Char :=
  s.headerLine ++ s.settings.flatMap fun (key, v) => settingLine key v

/-- The text of a document. -/
def print (sections : List Section) : String :=
  String.ofList (List.intercalate ['\n'] (sections.map Section.written))

end Composer.Toml
