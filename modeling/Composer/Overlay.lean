import Composer.Prompt
set_option autoImplicit false

/-!
# Overlays

At any time at most one overlay takes part in the input: the list of prompts, the dialog that asks
for a template's variables, or the form for a large paste.
-/

namespace Composer

/-- Where the text of a completed dialog goes. -/
inductive InsertionTarget where
  /-- In place of the slash token at the cursor. -/
  | slashToken
  /-- In place of the whole draft. -/
  | draft
  deriving DecidableEq, Repr

/-- A dialog that asks for the variables of a prompt. -/
structure VariableDialog where
  group : PromptGroup
  /-- The names that are asked for. -/
  names : List String
  target : InsertionTarget
  deriving DecidableEq, Repr

/-- The overlay that is open. -/
inductive Overlay where
  | none
  | slashMenu
  | variableDialog (dialog : VariableDialog)
  /-- The form for a large paste, with the text that waits in it. -/
  | artifactForm (pending : String)
  deriving DecidableEq, Repr

/-- The kind of an overlay. -/
inductive OverlayKind where
  | none
  | slashMenu
  | variableDialog
  | artifactForm
  deriving DecidableEq, Repr

namespace Overlay

/-- The kind of the overlay. -/
def kind : Overlay → OverlayKind
  | none => .none
  | slashMenu => .slashMenu
  | variableDialog _ => .variableDialog
  | artifactForm _ => .artifactForm

/-- The text that waits in the artifact form. -/
def pending? : Overlay → Option String
  | artifactForm text => some text
  | _ => Option.none

/-- The dialog that is open. -/
def dialog? : Overlay → Option VariableDialog
  | variableDialog d => some d
  | _ => Option.none

/-- Whether another overlay may open in its place: nothing but the list of prompts gives way. -/
def givesWay : Overlay → Bool
  | none => true
  | slashMenu => true
  | _ => false

/-- The overlay after the list of prompts is closed. -/
def closeMenu : Overlay → Overlay
  | slashMenu => none
  | o => o

end Overlay
end Composer
