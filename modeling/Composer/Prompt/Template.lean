import Composer.Text.Space
import Composer.Text.Numeral
set_option autoImplicit false

/-!
# Prompt templates

A template is a text with placeholders: a name between two opening and two closing braces, with
white space allowed around it. A template falls into pieces, each a single character of literal text
or a placeholder; names, missing values and substitution are all read off the pieces, so an inserted
value is never looked at again.
-/

namespace Composer

/-- Values for placeholders, by name. -/
abbrev VariableValues := List (String × String)

namespace Template

/-- The characters of a placeholder's name. -/
def isNameChar (c : Char) : Bool :=
  ('A' ≤ c && c ≤ 'Z') || ('a' ≤ c && c ≤ 'z') || Numeral.isDigit c
    || c == '_' || c == '.' || c == '-'

/-- A piece of a template. -/
inductive Piece where
  | literal (c : Char)
  /-- A placeholder as it is written, and its name. -/
  | placeholder (written name : List Char)
  deriving DecidableEq, Repr

/-- The name of a placeholder. -/
def Piece.name? : Piece → Option (List Char)
  | literal _ => none
  | placeholder _ n => some n

/-- The name of the placeholder at the front of a text, and the text behind it. -/
def placeholder? : List Char → Option (List Char × List Char)
  | '{' :: '{' :: cs =>
    let inner := Chars.trimStart cs
    let name := inner.takeWhile isNameChar
    match name, Chars.trimStart (inner.dropWhile isNameChar) with
    | _ :: _, '}' :: '}' :: rest => some (name, rest)
    | _, _ => none
  | _ => none

/-- The first pieces of a template, at most `n` of them. -/
def piecesWithin : (n : Nat) → List Char → List Piece
  | 0, _ => []
  | _ + 1, [] => []
  | n + 1, c :: cs =>
    match placeholder? (c :: cs) with
    | some (name, rest) =>
      .placeholder ((c :: cs).take ((c :: cs).length - rest.length)) name :: piecesWithin n rest
    | none => .literal c :: piecesWithin n cs

/-- The pieces of a template. -/
def pieces (cs : List Char) : List Piece := piecesWithin cs.length cs

/-- The names of the placeholders, each once, in the order in which they first appear. -/
def variableNames (template : String) : List String :=
  ((pieces template.toList).filterMap fun p => p.name?.map String.ofList).eraseDups

/-- Whether a name has a value that is not blank. -/
def isFilled (values : VariableValues) (name : String) : Bool :=
  match values.lookup name with
  | some v => !Text.isBlank v
  | none => false

/-- The names without a value, or with a blank one. -/
def missing (template : String) (values : VariableValues) : List String :=
  (variableNames template).filter fun name => !isFilled values name

/-- What stands in place of a piece: the value of a placeholder that has one, and anything else as
it is written. -/
def Piece.filled (values : VariableValues) : Piece → List Char
  | .literal c => [c]
  | .placeholder w n =>
    match values.lookup (String.ofList n) with
    | some v => v.toList
    | none => w

/-- The template with the values put in. -/
def substitute (template : String) (values : VariableValues) : String :=
  String.ofList ((pieces template.toList).flatMap (Piece.filled values))

end Template
end Composer
