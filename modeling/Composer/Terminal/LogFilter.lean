import Composer.Text.Alphanumeric
import Composer.Text.Numeral
import Composer.Text.Space
import Composer.Text.Utf8
set_option autoImplicit false

/-!
# Log filters

What is logged is chosen by directives with commas between them. A directive names a target, a span
in brackets with fields in braces, a level behind an equals sign, or some of these. Directives that
cannot be read are reported; nothing else of the log is part of what the program tells.
-/

namespace Composer.Terminal

/-- Why a directive cannot be read. -/
inductive DirectiveError where
  | malformed
  | unknownLevel
  deriving DecidableEq, Repr

/-- The wording of an error. -/
def DirectiveError.message : DirectiveError → String
  | malformed => "invalid filter directive"
  | unknownLevel =>
    "error parsing level filter: expected one of \"off\", \"error\", \"warn\", \"info\", "
      ++ "\"debug\", \"trace\", or a number 0-5"

namespace Directive

/-- How far a directive is read. -/
inductive Place where
  | start
  /-- In a target, which may turn out to be a level. -/
  | target
  /-- In the name of a span. -/
  | span
  /-- In a field. -/
  | field (isEmpty : Bool)
  /-- Behind the fields. -/
  | fields
  /-- Behind a span. -/
  | spanEnd
  /-- In a level that starts behind so many bytes. -/
  | level (offset : Nat)
  deriving DecidableEq, Repr

/-- Reads a character that stands behind `offset` bytes. -/
def Place.next? (p : Place) (offset : Nat) (c : Char) : Option Place :=
  match p, c with
  | .start, '[' => some .span
  | .start, c =>
    if c == '-' || c == ':' || c == '_' || Chars.isAlphanumeric c then some .target else none
  | .target, '=' => some (.level (offset + 1))
  | .target, '[' => some .span
  | .target, _ => some .target
  | .span, ']' => some .spanEnd
  | .span, '{' => some (.field true)
  | .span, _ => some .span
  | .field isEmpty, '}' => if isEmpty then none else some .fields
  | .field _, _ => some (.field false)
  | .fields, ']' => some .spanEnd
  | .fields, _ => none
  | .spanEnd, '=' => some (.level (offset + 1))
  | .spanEnd, _ => none
  | .level n, _ => some (.level n)

/-- Reads characters of which the first stands behind `offset` bytes. -/
def Place.run? (p : Place) (offset : Nat) : List Char → Option Place
  | [] => some p
  | c :: cs => (p.next? offset c).bind fun p => p.run? (offset + c.utf8Size) cs

/-- The names of the levels. -/
def levels : List String := ["off", "error", "warn", "info", "debug", "trace"]

/-- Whether a text is a level: its name in any case, or its number. No text is a level, too. -/
def isLevel (cs : List Char) : Bool :=
  cs.isEmpty || (Numeral.unsigned? cs).any (· ≤ 5)
    || levels.contains (String.ofList (cs.map Char.toLower))

/-- What is wrong with a directive. White space around it does not count, except that a level is
what stands in the directive as it is written, as many bytes from its start. -/
def error? (cs : List Char) : Option DirectiveError :=
  match Place.start.run? 0 (Chars.trim cs) with
  | some (.level offset) =>
    if isLevel (Utf8.drop offset cs) then none else some .unknownLevel
  | some .target | some .spanEnd => none
  | _ => some .malformed

end Directive

namespace LogFilter

/-- The directives of a filter. -/
def directives (filter : String) : List (List Char) :=
  (Chars.pieces ',' filter.toList).filter fun cs => !cs.isEmpty

/-- The filter that a verbosity asks for in place of the configured one. -/
def ofVerbosity (configured : String) : (verbosity : Nat) → String
  | 0 => configured
  | 1 => "info,chatdeck=debug"
  | _ => "debug,chatdeck=trace"

/-- The report on a filter, if the filter is refused. -/
def refusal? (filter : String) : Option String :=
  ((directives filter).findSome? Directive.error?).map fun e =>
    s!"Warning: invalid log filter '{filter}': {e.message}"

/-- The reports on the directives of a filter that are left out. -/
def omissions (filter : String) : List String :=
  (directives filter).filterMap fun cs =>
    (Directive.error? cs).map fun e => s!"ignoring \x60{String.ofList cs}\x60: {e.message}"

/-- What is reported when the log is set up. A filter of the environment is used as far as it can be
read, any other one only as a whole. -/
def reports (ofEnvironment : Option String) (configured : String) (verbosity : Nat) :
    List String :=
  match ofEnvironment with
  | some filter => omissions filter
  | none => (refusal? (ofVerbosity configured verbosity)).toList

end LogFilter
end Composer.Terminal
