import Composer.Text.Space
set_option autoImplicit false

/-!
# Reserved commands

Names in the list of prompts that do something themselves instead of inserting a text.
-/

namespace Composer

/-- A reserved command. -/
inductive ReservedCommand where
  /-- Hands the conversation over, so that a prompt template is made from it. -/
  | createTemplate
  deriving DecidableEq, Repr

namespace ReservedCommand

/-- All reserved commands. -/
def all : List ReservedCommand := [createTemplate]

/-- The name in the list of prompts. -/
def name : ReservedCommand → String
  | createTemplate => "create-template"

/-- What the list of prompts says about the command. -/
def description : ReservedCommand → String
  | createTemplate => "Create a reusable prompt template from this conversation"

/-- The command with this name; leading slashes do not count. -/
def ofName? (text : String) : Option ReservedCommand :=
  let bare := (Chars.trim text.toList).dropWhile (· == '/')
  all.find? fun c => c.name.toList == bare

/-- A name without white space and slashes is looked up as it is. -/
theorem ofName?_eq_none_iff {text : String} (hspace : ∀ c ∈ text.toList, Chars.isSpace c = false)
    (hslash : '/' ∉ text.toList) : ofName? text = none ↔ ∀ c ∈ all, c.name ≠ text := by
  have hbare : text.toList.dropWhile (· == '/') = text.toList := by
    cases htext : text.toList with
    | nil => rfl
    | cons c cs =>
      rw [htext, List.mem_cons, not_or] at hslash
      rw [List.dropWhile_cons_of_neg (by simpa using Ne.symm hslash.1)]
  simp only [ofName?, Chars.trim_of_forall_not_isSpace hspace, hbare, List.find?_eq_none,
    beq_iff_eq, String.toList_inj]

end ReservedCommand

/-- The request that starts the authoring of a template, with the conversation if there is one. -/
def authoringInstruction (transcript : Option String) : String :=
  match Text.nonBlank? transcript with
  | some transcript =>
    "Help me create a reusable prompt template based on the following conversation. "
      ++ "Identify the recurring task, turn the parts that change into \x7b\x7bvariables\x7d\x7d, "
      ++ "and suggest a short name and description.\n\n"
      ++ "<conversation>\n" ++ Text.trim transcript ++ "\n</conversation>"
  | none =>
    "Help me create a reusable prompt template. Ask me what task it should cover, "
      ++ "then draft the template with \x7b\x7bvariables\x7d\x7d for the parts that change, "
      ++ "and suggest a short name and description."

end Composer
