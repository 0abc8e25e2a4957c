import Composer.Text.Search
set_option autoImplicit false

/-!
# The console

What the environment says of the way in which the program talks: whether in colours, and whether it
has to print its prompts itself because the terminal cannot edit a line.
-/

namespace Composer.Terminal

/-- The part of the environment that bears on the way in which the program talks. -/
structure Console where
  /-- What is logged, in place of what the configuration says. -/
  logFilter : Option String := none
  /-- The name of the terminal. -/
  terminal : Option String := none
  /-- Whether colours are used in any case. -/
  forcesColors : Option String := none
  /-- Whether colours are never used. -/
  refusesColors : Option String := none
  /-- Whether colours are used where the output is a terminal. -/
  allowsColors : Option String := none
  /-- Whether the output is a terminal. -/
  isTerminal : Bool := false
  deriving DecidableEq, Repr

namespace Console

/-- Whether to print in colours. Settings are off if they are `0`, except for the refusal, which
only has to be there. -/
def usesColors (k : Console) : Bool :=
  if k.forcesColors.any (· != "0") then true
  else if k.refusesColors.isSome then false
  else k.isTerminal && k.allowsColors != some "0"

/-- The names of terminals that cannot edit a line. -/
def plainTerminals : List String := ["dumb", "cons25", "emacs"]

/-- Whether prompts are printed although the program does not edit the line. -/
def showsPrompts (k : Console) : Bool :=
  k.terminal.any fun name => plainTerminals.contains (String.ofList (name.toList.map Char.toLower))

end Console
end Composer.Terminal
