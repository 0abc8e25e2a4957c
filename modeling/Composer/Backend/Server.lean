import Composer.Fault
import Composer.Json.Printer
import Composer.Text.Utf8
import Composer.Url
set_option autoImplicit false

/-!
# The server

What becomes of requests: every one that reaches the server is received, and is answered as the
server was set to. A request is a JSON text that is posted to an address.
-/

namespace Composer

/-- What a server does with a request. -/
inductive Answer where
  | response (status : Nat) (body : List UInt8)
  /-- The connection is closed without an answer. -/
  | closed
  /-- The body breaks off. -/
  | cutShort (status : Nat)
  deriving DecidableEq, Repr

/-- A request as a server receives it. -/
structure Request where
  /-- Path and query. -/
  target : String
  body : Json
  deriving Repr

/-- A server that can be reached over plain HTTP. -/
structure Server where
  /-- Its host and port. -/
  authority : String
  /-- The answers to the requests to come; when they run out, answers are empty. -/
  answers : List Answer := []
  /-- The requests so far. -/
  received : List Request := []
  deriving Repr

/-- The status and the text of an answer. -/
structure Response where
  status : Nat
  body : String
  deriving DecidableEq, Repr

/-- Whether a status tells of success. -/
def Response.isSuccess (r : Response) : Bool := 200 ≤ r.status && r.status < 300

/-- Whether a status ends an exchange. It has three digits, and those below 200 only announce that
the answer is still to come, except for the change of protocols. -/
def isFinal (status : Nat) : Bool := status == 101 || (200 ≤ status && status ≤ 999)

/-- Whether an answer with this status has a body. -/
def hasBody (status : Nat) : Bool := status != 101 && status != 204 && status != 304

namespace Server

/-- The fault of a request that got no answer. -/
def noAnswer (url : Url) : Fault := .network s!"error sending request for url ({url.text})"

/-- The fault of a request to an address that requests cannot be sent to. -/
def noWebUrl (url : Url) : Fault := .network s!"builder error for url ({url.text})"

/-- The fault of a request to something that is no address. -/
def noUrl : Fault := .network "builder error"

/-- The fault of an answer that breaks off. -/
def brokenBody : Fault := .network "error decoding response body"

/-- What an answer to a request to an address amounts to. Where a status has no body, none can break
off. -/
def outcome (url : Url) : Answer → Except Fault Response
  | .response status body =>
    if !isFinal status then .error (noAnswer url)
    else .ok { status, body := if hasBody status then Utf8.bodyText body else "" }
  | .closed => .error (noAnswer url)
  | .cutShort status =>
    if !isFinal status then .error (noAnswer url)
    else if hasBody status then .error brokenBody
    else .ok { status, body := "" }

/-- Whether an address leads to the server. -/
def isAt (s : Server) (url : Url) : Bool := url.scheme == "http" && url.authority == s.authority

/-- The server after it received a request. -/
def receive (s : Server) (r : Request) : Server :=
  { s with answers := s.answers.drop 1, received := s.received ++ [r] }

/-- The most bytes that the address of a request may have. -/
def maxUrlSize : Nat := 65534

/-- Whether requests can be sent to an address: one of the web, not too long, and without marks in
its host that a request cannot hold. -/
def isReachable (url : Url) : Bool :=
  url.isWeb && url.hasHost && Utf8.size url.text.toList ≤ maxUrlSize
    && !url.authority.toList.any fun c => ['"', '\x60', '\x7b', '\x7d'].contains c

/-- Posts a value to an address. -/
def post (s : Server) (url : String) (body : Json) : Except Fault Response × Server :=
  match (Url.parse? url).map Url.withoutCredentials with
  | none => (.error noUrl, s)
  | some url =>
    if !isReachable url then (.error (noWebUrl url), s)
    else if !s.isAt url then (.error (noAnswer url), s)
    else
      (outcome url (s.answers.head?.getD (.response 200 [])),
        s.receive { target := url.target, body })

end Server
end Composer
