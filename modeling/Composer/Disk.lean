import Composer.Disk.MimeTable
import Composer.Disk.Path
import Composer.Fault
import Composer.Text.Utf8
set_option autoImplicit false

/-!
# The disk

Files and folders, as far as the program sees them. A path is followed name by name; what stops it
is told by the obstacle that is met first.
-/

namespace Composer

/-- Why a file cannot be reached, read or written. -/
inductive Obstacle where
  | notFound
  | notAFolder
  | isAFolder
  | alreadyExists
  | nameTooLong
  | zeroInPath
  | notText
  deriving DecidableEq, Repr

namespace Obstacle

/-- The wording of an obstacle. -/
def reason : Obstacle → String
  | notFound => "No such file or directory (os error 2)"
  | notAFolder => "Not a directory (os error 20)"
  | isAFolder => "Is a directory (os error 21)"
  | alreadyExists => "File exists (os error 17)"
  | nameTooLong => "File name too long (os error 36)"
  | zeroInPath => "file name contained an unexpected NUL byte"
  | notText => "stream did not contain valid UTF-8"

/-- The kind of an obstacle. -/
def kind : Obstacle → String
  | notFound => "NotFound"
  | notAFolder => "NotADirectory"
  | isAFolder => "IsADirectory"
  | alreadyExists => "AlreadyExists"
  | nameTooLong => "InvalidFilename"
  | zeroInPath => "InvalidInput"
  | notText => "InvalidData"

/-- The fault that an obstacle leads to. -/
def fault (o : Obstacle) : Fault := .ofAccess o.reason o.kind

end Obstacle

/-- The names that lead from the root to a file or a folder. -/
abbrev Place := List String

/-- What stands at a place. -/
inductive Node where
  | folder
  /-- A file with its time of last change, in billionths of a second since the start of 1970. -/
  | file (content : List UInt8) (modified : Int)
  /-- Something else that can be read, such as a device; what is written to it is gone. -/
  | device (content : List UInt8)
  deriving DecidableEq, Repr

/-- Files and folders with their places, and the table that tells the types of files. -/
structure Disk where
  /-- Where paths start that are not absolute; it is there, with everything above it. -/
  workingFolder : Place := []
  nodes : List (Place × Node) := []
  mimeTypes : MimeTable := .common
  deriving DecidableEq, Repr

namespace Disk

/-- The largest size of a name in bytes. -/
def maxNameSize : Nat := 255

/-- The largest size of a path in bytes. -/
def maxPathSize : Nat := 4095

/-- What stands at a place, if anything does. -/
def node? (d : Disk) (place : Place) : Option Node :=
  if place.isPrefixOf d.workingFolder then some .folder else d.nodes.lookup place

/-- Whether a name is longer than a name can be. -/
def isTooLong (name : String) : Bool := maxNameSize < Utf8.size name.toList

/-! ## Finding -/

/-- The place that a name leads to, seen from a place. -/
def step (d : Disk) (here : Place) (name : String) : Except Obstacle Place :=
  if d.node? here != some .folder then .error .notAFolder
  else if name = "." then .ok here
  else if name = ".." then .ok here.dropLast
  else if isTooLong name then .error .nameTooLong
  else if (d.node? (here ++ [name])).isNone then .error .notFound
  else .ok (here ++ [name])

/-- Where a path starts. -/
def startOf (d : Disk) (p : Path) : Place := if p.absolute then [] else d.workingFolder

/-- Why a text is no path at all, if it is none. -/
def pathObstacle? (path : String) : Option Obstacle :=
  if path.toList.contains '\x00' then some .zeroInPath
  else if path.isEmpty then some .notFound
  else if maxPathSize < Utf8.size path.toList then some .nameTooLong
  else none

/-- The place that a path leads to. -/
def place (d : Disk) (path : String) : Except Obstacle Place :=
  match pathObstacle? path with
  | some o => .error o
  | none => (Path.ofString path).parts.foldlM d.step (d.startOf (Path.ofString path))

/-- What a path leads to. -/
def find (d : Disk) (path : String) : Except Obstacle Node := do
  let place ← d.place path
  match d.node? place with
  | some node => return node
  | none => .error .notFound

/-! ## Reading -/

/-- The bytes of a file. -/
def read (d : Disk) (path : String) : Except Obstacle (List UInt8) := do
  match ← d.find path with
  | .file content _ => return content
  | .device content => return content
  | .folder => .error .isAFolder

/-- The text of a file. -/
def readText (d : Disk) (path : String) : Except Obstacle String := do
  match Utf8.decode? (← d.read path) with
  | some text => return text
  | none => .error .notText

/-! ## Changing -/

/-- Puts a node at a place. -/
def put (d : Disk) (place : Place) (node : Node) : Disk :=
  { d with nodes := (place, node) :: d.nodes.filter fun n => n.1 != place }

/-- Makes the folders with these names one inside the other, where they are missing. What was made
before an obstacle is met stays. -/
def makeFolders (d : Disk) (here : Place) : List String → Except Obstacle Unit × Disk
  | [] => (.ok (), d)
  | name :: rest =>
    match d.step here name with
    | .ok there =>
      match d.node? there with
      | some .folder => d.makeFolders there rest
      | _ => (.error (if rest.isEmpty then .alreadyExists else .notAFolder), d)
    | .error .notFound => (d.put (here ++ [name]) .folder).makeFolders (here ++ [name]) rest
    | .error o => (.error o, d)

/-- Makes the folders that a path goes through before its last name, where they are missing. -/
def makeParents (d : Disk) (path : String) : Except Obstacle Unit × Disk :=
  let parent := (Path.ofString path).parent
  if path.toList.contains '\x00' then (.error .zeroInPath, d)
  else d.makeFolders (d.startOf parent) parent.parts

/-- Puts a file in place of a name, seen from a place, unless a folder has that name. -/
def writeAt (d : Disk) (here : Place) (name : String) (file : Node) : Except Obstacle Unit × Disk :=
  match d.step here name with
  | .ok there =>
    match d.node? there with
    | some .folder => (.error .isAFolder, d)
    | some (.device _) => (.ok (), d)
    | _ => (.ok (), d.put there file)
  | .error .notFound => (.ok (), d.put (here ++ [name]) file)
  | .error o => (.error o, d)

/-- Writes a file, in place of an older one if there is one. A path with a slash at its end does not
lead to a file. -/
def write (d : Disk) (path : String) (content : List UInt8) (modified : Int) :
    Except Obstacle Unit × Disk :=
  let p := Path.ofString path
  let follow (names : List String) : Except Obstacle Place := names.foldlM d.step (d.startOf p)
  match pathObstacle? path with
  | some o => (.error o, d)
  | none =>
    if Text.endsWith path "/" then
      match follow (p.parent.parts ++ ["."]) with
      | .error o => (.error o, d)
      | .ok _ => (.error .isAFolder, d)
    else match follow p.parts.dropLast, p.parts.getLast? with
      | .error o, _ => (.error o, d)
      | .ok _, none => (.error .isAFolder, d)
      | .ok here, some name => d.writeAt here name (.file content modified)

/-- Removes a file. -/
def remove (d : Disk) (path : String) : Except Obstacle Unit × Disk :=
  match d.place path with
  | .error o => (.error o, d)
  | .ok place =>
    if d.node? place = some .folder then (.error .isAFolder, d)
    else (.ok (), { d with nodes := d.nodes.filter fun n => n.1 != place })

end Disk
end Composer
