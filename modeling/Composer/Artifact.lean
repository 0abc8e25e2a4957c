import Composer.Artifact.Detection
import Composer.Text.Utf8
import Composer.Time.Instant
set_option autoImplicit false

/-!
# Artifacts

A large paste is stored by the backend as a named file, an artifact. The input shows a badge for it
until the message is sent.
-/

namespace Composer

/-- A file for the backend to store. -/
structure ArtifactUpload where
  name : String
  mime : String
  data : List UInt8
  description : Option String
  deriving DecidableEq, Repr

/-- The backend's reference to a stored artifact. -/
structure ArtifactRef where
  uri : String
  /-- The session that had to be created to store the artifact. -/
  sessionId : Option String := none
  deriving DecidableEq, Repr

/-- The mark that stands in the input for a stored artifact. -/
structure Badge where
  id : String
  artifact : ArtifactRef
  displayName : String
  createdAt : Instant
  deriving DecidableEq, Repr

/-- The MIME type that the user chose for a paste. -/
inductive MimeChoice where
  /-- The type that its content looks like. -/
  | auto
  | explicit (mime : String)
  deriving DecidableEq, Repr

namespace MimeChoice

/-- Reads a choice: `auto` in any case and blank text leave it to the content. -/
def parse (value : String) : MimeChoice :=
  let trimmed := Chars.trim value.toList
  if trimmed.isEmpty || trimmed.map Chars.lowerAscii == "auto".toList then .auto
  else .explicit (String.ofList trimmed)

/-- The MIME type of a content under this choice. -/
def resolve (choice : MimeChoice) (content : String) : String :=
  match choice with
  | .auto => Detection.mimeType content
  | .explicit mime => mime

end MimeChoice

namespace ArtifactUpload

/-- File name extensions by MIME type. -/
def extensions : List (String × String) := [
  ("application/json", "json"), ("application/xml", "xml"), ("text/html", "html"),
  ("text/markdown", "md"), ("text/csv", "csv"), ("text/x-rust", "rs"), ("text/x-python", "py"),
  ("application/javascript", "js"), ("application/typescript", "ts"), ("text/css", "css")]

/-- The extension for a MIME type, `txt` for those without one of their own. -/
def extensionOf (mime : String) : String := (extensions.lookup mime).getD "txt"

/-- The file name for a title: the trimmed title, or `pasted-text` if it is blank, with the
extension added unless it is there already. -/
def nameFor (title extension : String) : String :=
  let stem := if Text.isBlank title then "pasted-text" else Text.trim title
  if Text.endsWith stem ("." ++ extension) then stem else stem ++ "." ++ extension

/-- The upload for a pasted text. -/
def ofPaste (title : String) (choice : MimeChoice) (description : Option String)
    (content : String) : ArtifactUpload :=
  let mime := choice.resolve content
  { name := nameFor title (extensionOf mime), mime, data := Utf8.encode content,
    description := Text.nonBlank? description }

end ArtifactUpload
end Composer
