import Composer.Fault
import Composer.Json.Decode
import Composer.Json.Skip
set_option autoImplicit false

/-!
# The answer to a message

The answer may hold a reply: the member `reply` of an object, or the only item of an array. Other
members are skipped. The text is decoded while it is read, so a value of the wrong kind is reported
at its place.
-/

namespace Composer.Reply

open Json (Failure Mistake Misfit)

/-- What is wrong with an answer. -/
inductive Complaint where
  | syntaxError (m : Mistake)
  | misfit (m : Misfit)
  deriving Repr

/-- The wording of a complaint. -/
def Complaint.message : Complaint → String
  | syntaxError m => m.message
  | misfit m => m.message

/-- The result of a decoding reader. -/
abbrev Reads := Except (Failure Complaint)

/-- A reader's result with its mistake as a complaint. -/
def lift {α : Type} : Except (Failure Mistake) α → Reads α
  | .ok a => .ok a
  | .error e => .error { cause := .syntaxError e.cause, unread := e.unread }

/-- Reads a simple value that is of the wrong kind; the complaint's place is just behind it. An
array or an object is not read. -/
def wrongKind {α : Type} (expected : String) : List Char → Reads α
  | '[' :: cs => .error (.before ('[' :: cs) (.misfit (.wrongType .sequence expected)))
  | '{' :: cs => .error (.before ('{' :: cs) (.misfit (.wrongType .map expected)))
  | cs => do
    let (v, rest) ← lift (Json.value Json.maxDepth cs)
    .error (.before rest (.misfit (.wrongType v.found expected)))

/-- Reads a text or `null`. -/
def optionalText (cs : List Char) : Reads (Option String × List Char) :=
  match Json.skipLayout cs with
  | 'n' :: rest => do return (none, ← lift (Json.keyword ['u', 'l', 'l'] rest))
  | '"' :: rest => do
    let (s, rest) ← lift (Json.stringBody rest)
    return (some s, rest)
  | rest => wrongKind "a string" rest

/-- A complaint about a repeated member; its place is behind the end of the object if that follows.
-/
def repeated (cs : List Char) : Failure Complaint :=
  let rest := match Json.skipLayout cs with
    | '}' :: rest => rest
    | rest => rest
  .before rest (.misfit (.duplicateField "reply"))

/-- Reads the members of an object after its brace, at most `n` of them; `reply` is what was found
so far. -/
def members : (n : Nat) → (first : Bool) → (reply : Option (Option String)) → List Char →
    Reads (Option String × List Char)
  | 0, _, _, _ => .error (.before [] (.syntaxError .eofInObject))
  | n + 1, first, reply, cs => do
    let member (cs : List Char) : Reads (Option String × List Char) := do
      let (key, rest) ← lift (Json.stringBody cs)
      if key = "reply" then
        if reply.isSome then throw (repeated rest)
        let (r, rest) ← optionalText (← lift (Json.colon rest))
        members n false (some r) rest
      else
        let rest ← lift (Json.skip (← lift (Json.colon rest)))
        members n false reply rest
    match Json.skipLayout cs with
    | [] => .error (.before [] (.syntaxError .eofInObject))
    | '}' :: rest => return (reply.getD none, rest)
    | c :: rest =>
      if first then
        if c = '"' then member rest
        else .error (.behind (c :: rest) (.syntaxError .keyMustBeString))
      else if c ≠ ',' then .error (.behind (c :: rest) (.syntaxError .expectedCommaOrBrace))
      else match Json.skipLayout rest with
        | [] => .error (.before [] (.syntaxError .eofInValue))
        | '"' :: rest => member rest
        | '}' :: rest => .error (.behind ('}' :: rest) (.syntaxError .trailingComma))
        | rest => .error (.behind rest (.syntaxError .keyMustBeString))

/-- Checks that an array ends. -/
def arrayEnd (cs : List Char) : Reads (List Char) :=
  match Json.skipLayout cs with
  | ']' :: rest => .ok rest
  | [] => .error (.before [] (.syntaxError .eofInList))
  | ',' :: rest =>
    match Json.skipLayout rest with
    | ']' :: rest => .error (.behind (']' :: rest) (.syntaxError .trailingComma))
    | rest => .error (.behind rest (.syntaxError .trailingCharacters))
  | rest => .error (.behind rest (.syntaxError .trailingCharacters))

/-- Reads the items of an array after its bracket: none, or the reply. -/
def items (cs : List Char) : Reads (Option String × List Char) :=
  match Json.skipLayout cs with
  | [] => .error (.before [] (.syntaxError .eofInList))
  | ']' :: rest => .ok (none, rest)
  | rest => do
    let (reply, rest) ← optionalText rest
    return (reply, ← arrayEnd rest)

/-- Reads the reply in an answer. -/
def read (cs : List Char) : Reads (Option String) := do
  let (reply, rest) ← match Json.skipLayout cs with
    | [] => .error (.before [] (.syntaxError .eofInValue))
    | '[' :: rest => items rest
    | '{' :: rest => members (rest.length + 1) true none rest
    | rest => wrongKind "struct MessageResponse" rest
  lift (Json.finish rest)
  return reply

/-- The reply in an answer; a blank answer holds none. -/
def parse (body : String) : Except Fault (Option String) :=
  if Text.isBlank body then .ok none
  else match read body.toList with
    | .ok reply => .ok reply
    | .error e => .error (.badJson (e.cause.message ++ Json.placeText body.toList e.unread))

end Composer.Reply
