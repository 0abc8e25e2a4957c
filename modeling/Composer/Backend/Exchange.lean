import Composer.Backend.Server
import Composer.Text.Lines
import Composer.Text.Words
set_option autoImplicit false

/-!
# Requests and answers as bytes

A request and its answer have the same form: a start line, headers, an empty line and a body. Each
request has a connection of its own. The body of an answer ends where its stated length ends, behind
its last chunk, or with the connection.
-/

namespace Composer.Exchange

/-- The text of a request to a host. -/
def requestText (authority : String) (r : Request) : String :=
  let body := r.body.render
  "POST " ++ r.target ++ " HTTP/1.1\r\nhost: " ++ authority
    ++ "\r\ncontent-type: application/json\r\naccept: */*\r\nconnection: close\r\ncontent-length: "
    ++ String.ofList (Numeral.digits body.utf8ByteSize) ++ "\r\n\r\n" ++ body

/-- Cuts bytes at the first occurrence of others, which are left out. -/
def cutAt (mark : List UInt8) : List UInt8 → Option (List UInt8 × List UInt8)
  | [] => none
  | b :: bs =>
    match mark.isPrefixOf? (b :: bs) with
    | some rest => some ([], rest)
    | none => (cutAt mark bs).map fun (before, after) => (b :: before, after)

/-- The end of a line. -/
def lineEnd : List UInt8 := [13, 10]

/-- The start line and the headers of an answer; the names of headers are in lower case. -/
structure Head where
  start : List Char
  headers : List (List Char × List Char)

/-- Reads a start line and headers. -/
def Head.ofBytes (bs : List UInt8) : Head :=
  match Chars.lines (bs.map fun b => Char.ofNat b.toNat) with
  | [] => { start := [], headers := [] }
  | start :: rest =>
    { start, headers := rest.filterMap fun line =>
        (Chars.splitFirst (· == ':') line).map fun (name, value) =>
          (name.map Chars.lowerAscii, Chars.trim value) }

/-- The status in a start line. -/
def Head.status? (h : Head) : Option Nat :=
  match Chars.words h.start with
  | _ :: status :: _ => Numeral.unsigned? status
  | _ => none

/-- The value of a header. -/
def Head.get? (h : Head) (name : String) : Option (List Char) := h.headers.lookup name.toList

/-- The hexadecimal number at the front of a line, read onto the digits before it. -/
def chunkSize (n : Nat) : List Char → Nat
  | [] => n
  | c :: cs =>
    match Numeral.hexValue? c with
    | some d => chunkSize (n * 16 + d) cs
    | none => n

/-- The bytes of chunks, each behind a line with its size, up to an empty chunk; `n` bounds their
number. -/
def chunks : (n : Nat) → List UInt8 → Option (List UInt8)
  | 0, _ => none
  | n + 1, bs => do
    let (line, rest) ← cutAt lineEnd bs
    let size := chunkSize 0 (line.map fun b => Char.ofNat b.toNat)
    if size = 0 then return []
    if rest.length < size + lineEnd.length then none
    return rest.take size ++ (← chunks n (rest.drop (size + lineEnd.length)))

/-- The body behind a head, if it is complete. -/
def body? (h : Head) (bs : List UInt8) : Option (List UInt8) :=
  if (h.get? "transfer-encoding").any fun v => v.map Chars.lowerAscii == "chunked".toList then
    chunks (bs.length + 1) bs
  else match (h.get? "content-length").bind Numeral.unsigned? with
    | some length => if bs.length < length then none else some (bs.take length)
    | none => some bs

/-- The answer in all bytes of a connection. -/
def answer (bs : List UInt8) : Answer :=
  match cutAt (lineEnd ++ lineEnd) bs with
  | none => .closed
  | some (head, rest) =>
    let head := Head.ofBytes head
    match head.status?, body? head rest with
    | none, _ => .closed
    | some status, none => .cutShort status
    | some status, some body => .response status body

end Composer.Exchange
