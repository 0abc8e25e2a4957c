import Composer.Backend
set_option autoImplicit false

/-!
# Steps of a connection as data

Every use of the connection to the backend as a value, and so is what becomes of the server in
between, so that a whole run is a list. The events of a run wait in the connection, none is taken.
-/

namespace Composer

/-- A connection and the server that its requests reach. -/
structure Link where
  backend : Backend
  server : Server
  deriving Repr

/-- A use of the connection with its arguments, or a change of the server by somebody else. -/
inductive BackendStep where
  | setSession (id : Option String)
  | submit (files : List Attachment) (message : String)
  | cancel
  | upload (file : ArtifactUpload) (sessionId : Option String)
  | refresh
  | notify (n : Notification)
  | changeServer (server : Server)
  deriving Repr

/-- What a use of the connection gives. -/
inductive BackendReply where
  | done
  | completed (r : Except Fault Unit)
  | stored (r : Except Fault ArtifactRef)
  deriving Repr

namespace Link

/-- A new connection to the backend at an address. -/
def start (baseUrl : String) (server : Server) : Link := { backend := .connect baseUrl, server }

/-- Performs one step. -/
def perform (l : Link) : BackendStep → BackendReply × Link
  | .setSession id => (.done, { l with backend := l.backend.setSession id })
  | .submit files message =>
    let (r, backend, server) := l.backend.submit l.server files message
    (.completed r, { backend, server })
  | .cancel =>
    let (r, backend, server) := l.backend.cancel l.server
    (.completed r, { backend, server })
  | .upload file sessionId =>
    let (r, backend, server) := l.backend.upload l.server file sessionId
    (.stored r, { backend, server })
  | .refresh => (.done, { l with backend := l.backend.refresh })
  | .notify n => (.done, { l with backend := l.backend.notify n })
  | .changeServer server => (.done, { l with server })

/-- The connection and the server after a sequence of steps. -/
def after (l : Link) (steps : List BackendStep) : Link :=
  steps.foldl (fun l step => (l.perform step).2) l

@[simp] theorem after_nil (l : Link) : l.after [] = l := rfl

@[simp] theorem after_cons (l : Link) (step : BackendStep) (steps : List BackendStep) :
    l.after (step :: steps) = (l.perform step).2.after steps := rfl

theorem after_append (l : Link) (first second : List BackendStep) :
    l.after (first ++ second) = (l.after first).after second := List.foldl_append

end Link
end Composer
