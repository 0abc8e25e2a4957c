set_option autoImplicit false

/-!
# TOML values

A document of settings is a table. Its text consists of statements, one a line: assignments, and
headers that open a table or a further item in a list of tables for the assignments below them.
-/

namespace Composer

/-- A value in a document of settings. -/
inductive Toml where
  | string (s : String)
  | integer (n : Int)
  /-- A number that is not an integer, as it is written. -/
  | float (written : String)
  | boolean (b : Bool)
  /-- A date, a time of day or both, as it is written. -/
  | dateTime (written : String)
  | array (items : List Toml)
  | table (members : List (String × Toml))
  deriving Repr

namespace Toml

/-- One line of a document. Paths are not empty. -/
inductive Statement where
  /-- `path = value`, where all keys but the last name tables. -/
  | assign (path : List String) (value : Toml)
  /-- `[path]` -/
  | openTable (path : List String)
  /-- `[[path]]` -/
  | openItem (path : List String)
  deriving Repr

end Toml
end Composer
