import Composer.Text.Space
set_option autoImplicit false

/-!
# Faults

Everything that can go wrong while a message is composed and sent. None of them is fatal: each is
told to the user once, as one line.
-/

namespace Composer

/-- What went wrong. -/
inductive Fault where
  /-- The session backend refused a request. -/
  | backend (message : String)
  /-- The backend could not be reached, or its answer could not be read. -/
  | network (message : String)
  /-- The user's input was rejected before any request. -/
  | validation (message : String)
  /-- A file could not be read or written. -/
  | io (message : String)
  /-- A text is not in the named format. -/
  | serialization (format message : String)
  | config (message : String)
  | internal (message : String)
  deriving DecidableEq, Repr

namespace Fault

/-- What the user is told when the backend gives no reason. -/
def genericRefusal : String := "The server returned an unexpected error"

/-- A refusal with the backend's reason, or the generic one if that is blank. -/
def refusal (reason : String) : Fault :=
  .backend (if Text.isBlank reason then genericRefusal else reason)

/-- A failed access to a file: the reason and its kind. -/
def ofAccess (reason kind : String) : Fault := .io s!"{reason} (kind: {kind})"

/-- A text that is not the JSON that was expected. -/
def badJson (reason : String) : Fault := .serialization "JSON" reason

/-- A text that is not the TOML that was expected. -/
def badToml (reason : String) : Fault := .serialization "TOML" reason

/-- The full text of a fault, with its category. -/
def message : Fault → String
  | backend m => s!"Backend error: {m}"
  | network m => s!"Network error: {m}"
  | validation m => s!"Validation error: {m}"
  | io m => s!"IO error: {m}"
  | serialization format m => s!"Serialization error: {format} - {m}"
  | config m => s!"Configuration error: {m}"
  | internal m => s!"Internal error: {m}"

/-- The text for the user: refusals and rejected input speak for themselves, all else keeps its
category. -/
def userMessage : Fault → String
  | backend m => m
  | validation m => m
  | f => f.message

/-- Whether the backend refused. -/
def isBackend : Fault → Bool
  | backend _ => true
  | _ => false

/-- Whether the backend could not be reached or read. -/
def isNetwork : Fault → Bool
  | network _ => true
  | _ => false

/-- Whether the user's input was rejected. -/
def isValidation : Fault → Bool
  | validation _ => true
  | _ => false

/-- Whether the configuration is at fault. -/
def isConfig : Fault → Bool
  | config _ => true
  | _ => false

end Fault
end Composer
