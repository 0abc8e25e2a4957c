import Composer.Backend.Reply
import Composer.Backend.Server
import Composer.Text.Base64
import Composer.Wire.Forms
set_option autoImplicit false

/-!
# What an answer means

The backend reports an error as the member `error` of an object, which is a text or holds the text
as its member `message`. The answer to an upload is a reference to the stored artifact.
-/

namespace Composer.Backend

/-- The reason in a body that reports an error, empty if the report gives none; nothing if the body
reports no error. -/
def errorReason? (v : Json) : Option String := do
  let e ← v.get? "error"
  return ((e.get? "message").bind Json.asString?).getD (e.asString?.getD "")

/-- The refusal that a body tells of. -/
def refusalIn (body : String) : Fault :=
  match Json.parse body with
  | .ok v => .refusal ((errorReason? v).getD "")
  | .error _ => .refusal ""

/-- The artifact in the answer to an upload. A reported error counts whatever the status is, and a
reference without an address is none. -/
def artifactIn (r : Response) : Except Fault ArtifactRef :=
  match Json.parse r.body with
  | .error e =>
    if r.isSuccess then .error (.network s!"Invalid artifact response: {e}")
    else .error (refusalIn r.body)
  | .ok v =>
    match errorReason? v with
    | some reason => .error (.refusal reason)
    | none =>
      if !r.isSuccess then .error (refusalIn r.body)
      else match ArtifactRef.ofJson v with
        | .error e => .error (.badJson e.message)
        | .ok a => if Text.isBlank a.uri then .error (.refusal "") else .ok a

/-- The reply in the answer to a message. -/
def replyIn (r : Response) : Except Fault (Option String) :=
  if r.isSuccess then Reply.parse r.body else .error (refusalIn r.body)

/-- Whether the answer to a request without a result tells of success. -/
def acceptance (r : Response) : Except Fault Unit :=
  if r.isSuccess then .ok () else .error (refusalIn r.body)

/-! ## Requests -/

/-- A file with its bytes, as it is sent. -/
def fileJson (f : Attachment) : Json :=
  .object [("name", .string f.name), ("size", .nat f.size.toNat),
    ("lastModified", .int f.modified.toInt), ("mimeType", .string f.mime),
    ("data", .string (Base64.encode f.data))]

/-- A message with files, as it is sent. -/
def messageJson (message : String) (files : List Attachment) : Json :=
  .object [("message", .string message), ("files", .array (files.map fileJson))]

/-- A file to store, as it is sent; absent texts are left out. -/
def uploadJson (file : ArtifactUpload) (sessionId : Option String) : Json :=
  .object ([("name", .string file.name), ("mimeType", .string file.mime),
      ("data", .string (Base64.encode file.data))]
    ++ Json.memberIfSome "description" file.description
    ++ Json.memberIfSome "sessionId" sessionId)

end Composer.Backend
