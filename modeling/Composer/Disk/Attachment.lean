import Composer.Attachment
import Composer.Disk
set_option autoImplicit false

/-!
# Attachments from files

A file becomes an attachment with its name, its time of last change in whole milliseconds, and the
MIME type that its extension stands for.
-/

namespace Composer

namespace Disk

/-- The MIME type for a file name: that of its extension, or the one for any bytes. -/
def mimeTypeOf (d : Disk) (name : String) : String :=
  ((Path.extension? name).bind d.mimeTypes.lookup?).getD "application/octet-stream"

/-- The file at a path as an attachment. -/
def attachment (d : Disk) (path : String) : Except Fault Attachment :=
  match d.find path with
  | .error o => .error o.fault
  | .ok .folder => .error (.validation s!"Not a regular file: {path}")
  | .ok (.device _) => .error (.validation s!"Not a regular file: {path}")
  | .ok (.file content modified) =>
    match (Path.ofString path).fileName? with
    | none => .error (.validation s!"Path has no file name: {path}")
    | some name =>
      .ok (.ofBytes name (d.mimeTypeOf name) (Int64.ofInt (modified.fdiv 1000000)) content)

/-- The text of the file at a path. -/
def text (d : Disk) (path : String) : Except Fault String :=
  match d.readText path with
  | .error o => .error o.fault
  | .ok text => .ok text

end Disk
end Composer
