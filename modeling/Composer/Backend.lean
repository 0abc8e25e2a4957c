import Composer.Backend.Verdict
import Composer.MessageInput
set_option autoImplicit false

/-!
# The session backend

The backend stores messages and artifacts, and is reached by requests below one address. What
happens is told by events, which wait until they are taken; once nobody listens, they are dropped.
-/

namespace Composer

/-- Something that happened at the backend or was reported to the user. -/
inductive BackendEvent where
  | notification (n : Notification)
  | responding (isResponding : Bool)
  /-- The list of artifacts is out of date. -/
  | artifactsChanged
  /-- A session was created in order to store an artifact. -/
  | sessionAssigned (id : String)
  | reply (text : String)
  deriving DecidableEq, Repr

/-- The connection to the backend. -/
structure Backend where
  baseUrl : String
  sessionId : Option String := none
  /-- Whether a response is in progress. -/
  isResponding : Bool := false
  /-- The events that wait, the oldest first. -/
  events : List BackendEvent := []
  isListening : Bool := true
  deriving DecidableEq, Repr

namespace Backend

/-- The connection to the backend at an address; slashes at its end do not count. -/
def connect (baseUrl : String) : Backend :=
  { baseUrl := String.ofList (baseUrl.toList.reverse.dropWhile (· == '/')).reverse }

/-- Switches to a session; a blank id is none. -/
def setSession (b : Backend) (id : Option String) : Backend :=
  { b with sessionId := Text.nonBlank? id }

/-! ## Addresses -/

/-- The address of something below the backend's address. -/
def urlOf (b : Backend) (path : String) : String := b.baseUrl ++ "/" ++ path

/-- Where messages of a session are sent. -/
def messagesUrl (b : Backend) (id : String) : String := b.urlOf ("sessions/" ++ id ++ "/messages")

/-- Where the response in a session is stopped. -/
def cancelUrl (b : Backend) (id : String) : String := b.urlOf ("sessions/" ++ id ++ "/cancel")

/-- Where artifacts are stored. -/
def artifactsUrl (b : Backend) : String := b.urlOf "artifacts"

/-! ## Events -/

/-- Tells of an event. -/
def emit (b : Backend) (e : BackendEvent) : Backend :=
  if b.isListening then { b with events := b.events ++ [e] } else b

/-- Records whether a response is in progress, and tells of a change. -/
def setResponding (b : Backend) (isResponding : Bool) : Backend :=
  if b.isResponding = isResponding then b
  else ({ b with isResponding } : Backend).emit (.responding isResponding)

/-- Takes the session that the backend created, if none is active. -/
def adopt (b : Backend) (id : Option String) : Backend :=
  match b.sessionId, id with
  | none, some id => ({ b with sessionId := some id } : Backend).emit (.sessionAssigned id)
  | _, _ => b

/-- Takes the events that wait. -/
def takeEvents (b : Backend) : List BackendEvent × Backend := (b.events, { b with events := [] })

/-- Stops listening to events. -/
def stopListening (b : Backend) : Backend := { b with isListening := false, events := [] }

/-- Reports something to the user. -/
def notify (b : Backend) (n : Notification) : Backend := b.emit (.notification n)

/-- Tells that the list of artifacts is out of date. -/
def refresh (b : Backend) : Backend := b.emit .artifactsChanged

/-! ## Requests -/

/-- The fault of a request that needs a session when none is active. -/
def noSession : Fault := .validation "No active session"

/-- Sends a message with files to the active session. A response is in progress until the answer is
there. -/
def submit (b : Backend) (server : Server) (files : List Attachment) (message : String) :
    Except Fault Unit × Backend × Server :=
  match b.sessionId with
  | none => (.error noSession, b, server)
  | some id =>
    let (answer, server) := server.post (b.messagesUrl id) (messageJson message files)
    let b := b.setResponding true
    match answer.bind replyIn with
    | .error e => (.error e, b.setResponding false, server)
    | .ok none => (.ok (), b.setResponding false, server)
    | .ok (some reply) => (.ok (), (b.emit (.reply reply)).setResponding false, server)

/-- Asks to stop the response in the active session. -/
def cancel (b : Backend) (server : Server) : Except Fault Unit × Backend × Server :=
  match b.sessionId with
  | none => (.error noSession, b, server)
  | some id =>
    match server.post (b.cancelUrl id) (.object []) with
    | (.error e, server) => (.error e, b, server)
    | (.ok r, server) => (acceptance r, b.setResponding false, server)

/-- Stores a file as an artifact. -/
def upload (b : Backend) (server : Server) (file : ArtifactUpload) (sessionId : Option String) :
    Except Fault ArtifactRef × Backend × Server :=
  let (answer, server) := server.post b.artifactsUrl (uploadJson file sessionId)
  match answer.bind artifactIn with
  | .error e => (.error e, b, server)
  | .ok a => (.ok a, b.adopt a.sessionId, server)

/-! ## As the session of a message input -/

/-- What the message input sees: the answers that the requests would get. -/
def session (b : Backend) (server : Server) (freshId : String) (now : Instant) : Session where
  responding := b.isResponding
  id := b.sessionId
  submit := fun files message => (b.submit server files message).1
  cancel := (b.cancel server).1
  upload := fun file id => (b.upload server file id).1
  freshId := freshId
  now := now

/-- Makes a call of the message input. -/
def call (b : Backend) (server : Server) : Call → Backend × Server
  | .submit message files => (b.submit server files message).2
  | .cancel => (b.cancel server).2
  | .upload file id => (b.upload server file id).2
  | .refresh => (b.refresh, server)
  | .notify n => (b.notify n, server)
  | .navigate _ => (b, server)

/-- Makes calls one after another. -/
def callAll (b : Backend) (server : Server) (calls : List Call) : Backend × Server :=
  calls.foldl (fun (b, server) c => b.call server c) (b, server)

end Backend
end Composer
