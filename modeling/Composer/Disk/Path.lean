import Composer.Text.Search
set_option autoImplicit false

/-!
# Paths

A path is a text whose names are separated by slashes. Several slashes in a row count as one, and a
slash at the end asks for a folder.
-/

namespace Composer

/-- The names on the way to a place, with `.` and `..` among them. -/
structure Path where
  /-- Whether the way starts at the root. -/
  absolute : Bool
  parts : List String
  deriving DecidableEq, Repr

namespace Path

/-- The names in a text, without empty ones. -/
def names (cs : List Char) : List String :=
  ((Chars.pieces '/' cs).filter fun piece => !piece.isEmpty).map String.ofList

/-- The path that a text describes. -/
def ofString (s : String) : Path :=
  let cs := s.toList
  let folderOnly := cs.getLast? == some '/'
  { absolute := cs.head? == some '/',
    parts := if folderOnly then names cs ++ ["."] else names cs }

/-- The last name on the way, unless it goes up. -/
def fileName? (p : Path) : Option String :=
  match (p.parts.filter fun part => part != ".").getLast? with
  | some ".." => none
  | last => last

/-- The way up to its last name. -/
def parent (p : Path) : Path :=
  { p with parts := (p.parts.filter fun part => part != ".").dropLast }

/-- What stands behind the last point of a name, unless nothing stands before it. -/
def extension? (name : String) : Option String :=
  match Chars.splitLast '.' name.toList with
  | some (_ :: _, ending) => some (String.ofList ending)
  | _ => none

/-- A path with a further name. -/
def join (path name : String) : String :=
  if path.isEmpty || Text.endsWith path "/" then path ++ name else path ++ "/" ++ name

end Path
end Composer
