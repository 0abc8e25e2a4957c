import Composer.Prompt.Template
set_option autoImplicit false

/-!
# Saved prompts

A prompt group is a saved template with a name. A pending prompt is handed over by navigation into
the view and applied once.
-/

namespace Composer

/-- A saved prompt. -/
structure PromptGroup where
  id : String
  name : String
  /-- The template. -/
  text : String
  description : Option String := none
  deriving DecidableEq, Repr

/-- The names that the prompt's template asks for. -/
def PromptGroup.variableNames (g : PromptGroup) : List String := Template.variableNames g.text

/-- A prompt that navigation brought along. -/
structure PendingPrompt where
  text : String
  groupId : Option String := none
  groupName : Option String := none
  deriving DecidableEq, Repr

/-- The prompt as a group; what is not known of it is empty. -/
def PendingPrompt.group (p : PendingPrompt) : PromptGroup :=
  { id := p.groupId.getD "", name := p.groupName.getD "", text := p.text }

end Composer
