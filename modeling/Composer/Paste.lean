import Composer.Attachment
import Composer.Text.Lines
set_option autoImplicit false

/-!
# Pastes

A small pasted text is inserted by the host as usual. A large one is held back, so that it can be
stored as an artifact instead of flooding the draft.
-/

namespace Composer

/-- What the clipboard holds when the user pastes. -/
inductive Clipboard where
  | files (files : List Attachment)
  | text (text : String)
  deriving DecidableEq, Repr

/-- How a paste was handled. -/
inductive PasteOutcome where
  /-- The host inserts the text as usual. -/
  | insertDefault
  /-- Files were taken into the selection, so many of them new. -/
  | filesAttached (added : Nat)
  /-- The text is held back and the artifact form is open. -/
  | artifactPending
  /-- Nothing happened. -/
  | ignored
  deriving DecidableEq, Repr

/-- Whether the host must not insert the pasted text. -/
def PasteOutcome.suppressesDefault : PasteOutcome → Bool
  | .insertDefault => false
  | _ => true

/-- The size of a paste. -/
inductive PasteKind where
  | small
  | large
  deriving DecidableEq, Repr

/-- From how many characters or lines on a paste is large. -/
structure PasteClassifier where
  charThreshold : Nat := 1000
  lineThreshold : Nat := 40
  deriving DecidableEq, Repr

namespace PasteClassifier

/-- A paste is large if it reaches one of the thresholds. -/
def isLarge (c : PasteClassifier) (text : String) : Bool :=
  c.charThreshold ≤ text.length || c.lineThreshold ≤ Text.lineCount text

/-- The size of a pasted text. -/
def classify (c : PasteClassifier) (text : String) : PasteKind :=
  if c.isLarge text then .large else .small

end PasteClassifier
end Composer
