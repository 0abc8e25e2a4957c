import Composer.Proofs.Backend.Calls
import Composer.Proofs.Json.Decoding
import Composer.Proofs.Text.Base64
import Composer.Proofs.Text.Encoding
set_option autoImplicit false

/-!
# What the backend can read of a request

Whoever decodes the body of a request, with base 64 for the data, has the message and its files, or
the file to store and its session, with nothing lost and nothing added.
-/

namespace Composer

open Json (Decoded Record Field)

/-- The bytes of the body of a request. -/
def Request.bytes (r : Request) : List UInt8 := Utf8.encode r.body.render

/-- A message as the backend receives it. -/
structure SentMessage where
  message : String
  files : List Attachment

/-- A file to store as the backend receives it. -/
structure SentUpload where
  file : ArtifactUpload
  sessionId : Option String

namespace Backend

/-! ## Reading a body -/

/-- The value whose text some bytes are. -/
def readJson (bytes : List UInt8) : Option Json :=
  (Utf8.decode? bytes).bind fun text => (Json.parse text).toOption

/-- The record that some bytes hold. -/
def readAs {σ : Type} (r : Record σ) (bytes : List UInt8) : Option σ :=
  (readJson bytes).bind fun v => (r.decode v).toOption

/-- Decodes bytes in base 64. -/
def asBytes (v : Json) : Decoded (List UInt8) := do
  let text ← Json.asText v
  match Base64.decode? text with
  | some bytes => return bytes
  | none => .error (.malformed "invalid base 64")

/-- How a file of a message is decoded: an attachment with its data. -/
def fileRecord : Record Attachment where
  name := "struct WireFile"
  start := Attachment.record.start
  fields := Attachment.record.fields ++
    [.of "data" .required asBytes fun v f => { f with data := v }]

/-- How a message is decoded. -/
def messageRecord : Record SentMessage where
  name := "struct MessageRequest"
  start := { message := "", files := [] }
  fields := [
    .of "message" .required Json.asText fun v m => { m with message := v },
    .of "files" .required (Json.asList fileRecord.decode) fun v m => { m with files := v }]

/-- How a file to store is decoded. -/
def uploadRecord : Record SentUpload where
  name := "struct ArtifactRequest"
  start :=
    { file := { name := "", mime := "", data := [], description := none }, sessionId := none }
  fields := [
    .of "name" .required Json.asText fun v u => { u with file.name := v },
    .of "mimeType" .required Json.asText fun v u => { u with file.mime := v },
    .of "data" .required asBytes fun v u => { u with file.data := v },
    .of "description" .defaulted (Json.asOptional Json.asText) fun v u =>
      { u with file.description := v },
    .of "sessionId" .defaulted (Json.asOptional Json.asText) fun v u => { u with sessionId := v }]

/-! ## What is read -/

theorem readJson_encode {v : Json} (h : v.Fits Json.maxDepth) :
    readJson (Utf8.encode v.render) = some v.sorted := by
  rw [readJson, Utf8.decode?_encode, Option.bind_some, h.parse_render]
  rfl

theorem readAs_encode {σ : Type} {r : Record σ} {v : Json} {s : σ} (h : v.Fits Json.maxDepth)
    (hdecode : r.decode v.sorted = .ok s) : readAs r (Utf8.encode v.render) = some s := by
  rw [readAs, readJson_encode h, Option.bind_some, hdecode]
  rfl

@[simp] theorem asBytes_encode (bytes : List UInt8) :
    asBytes (.string (Base64.encode bytes)) = .ok bytes := by
  rw [asBytes, Json.asText_string]
  simp only [bind, Except.bind, Base64.decode?_encode]
  rfl

theorem decode_fileJson (f : Attachment) : fileRecord.decode (fileJson f).sorted = .ok f := by
  simp (disch := decide) [fileJson, fileRecord, Attachment.record]

theorem decode_messageJson (message : String) (files : List Attachment) :
    messageRecord.decode (messageJson message files).sorted = .ok { message, files } := by
  have hfiles : Json.asList fileRecord.decode (.array (files.map (Json.sorted ∘ fileJson))) =
      .ok files := Json.asList_map decode_fileJson files
  simp (disch := decide) only [messageJson, messageRecord]
  simp (disch := decide) [hfiles]

theorem decode_uploadJson (file : ArtifactUpload) (sessionId : Option String) :
    uploadRecord.decode (uploadJson file sessionId).sorted = .ok { file, sessionId } := by
  obtain ⟨name, mime, data, description⟩ := file
  cases description <;> cases sessionId <;>
    simp (disch := decide) [uploadJson, Json.memberIfSome, uploadRecord]

theorem fits_messageJson (message : String) (files : List Attachment) :
    (messageJson message files).Fits Json.maxDepth := by
  have hfile : ∀ f : Attachment, (fileJson f).Fits 125 := by
    intro f
    simp [fileJson]
  have hmessage : (messageJson message files).Fits (126 + 1) := by
    simp [messageJson, hfile]
  exact hmessage

theorem fits_uploadJson (file : ArtifactUpload) (sessionId : Option String) :
    (uploadJson file sessionId).Fits Json.maxDepth := by
  have hupload : (uploadJson file sessionId).Fits (126 + 1) := by
    cases hdescription : file.description <;> cases sessionId <;>
      simp [uploadJson, Json.memberIfSome, hdescription]
  exact hupload

/-- The body of a message gives the message and its files. -/
theorem readAs_messageJson (message : String) (files : List Attachment) :
    readAs messageRecord (Utf8.encode (messageJson message files).render) =
      some { message, files } :=
  readAs_encode (fits_messageJson message files) (decode_messageJson message files)

/-- The body of an upload gives the file and its session. -/
theorem readAs_uploadJson (file : ArtifactUpload) (sessionId : Option String) :
    readAs uploadRecord (Utf8.encode (uploadJson file sessionId).render) =
      some { file, sessionId } :=
  readAs_encode (fits_uploadJson file sessionId) (decode_uploadJson file sessionId)

/-- The members of an upload that are left out are those that there is nothing for. -/
theorem get?_uploadJson (file : ArtifactUpload) (sessionId : Option String) :
    (uploadJson file sessionId).sorted.get? "description" = file.description.map .string ∧
    (uploadJson file sessionId).sorted.get? "sessionId" = sessionId.map .string := by
  cases hdescription : file.description <;> cases sessionId <;>
    simp (disch := decide) [uploadJson, Json.memberIfSome, Json.get?, List.lookup_cons,
      List.lookup_nil, hdescription]

/-- A message is not read as a file to store. -/
theorem readAs_uploadRecord_messageJson (message : String) (files : List Attachment) :
    readAs uploadRecord (Utf8.encode (messageJson message files).render) = none := by
  rw [readAs, readJson_encode (fits_messageJson message files), Option.bind_some]
  simp (disch := decide) [messageJson, uploadRecord]
  rfl

/-! ## Requests -/

/-- What a server received of an exchange: one request with this body, or none if nothing came of
it.
-/
structure Sends {α : Type} (result : Except Fault α) (body : Json)
    (sent : List Request) : Prop where
  length_le : sent.length ≤ 1
  /-- An exchange cannot succeed without a request. -/
  length_of_ok : ∀ a, result = .ok a → sent.length = 1
  body_eq : ∀ r ∈ sent, r.body = body

theorem Sends.nil {α : Type} (e : Fault) (body : Json) : Sends (α := α) (.error e) body [] where
  length_le := Nat.zero_le 1
  length_of_ok a h := by cases h
  body_eq r hr := by cases hr

theorem Sends.of_ok {α β : Type} {result : Except Fault α} {result' : Except Fault β} {body : Json}
    {sent : List Request} (h : Sends result body sent)
    (hok : ∀ b, result' = .ok b → ∃ a, result = .ok a) : Sends result' body sent where
  length_le := h.length_le
  length_of_ok b hb := by
    obtain ⟨a, ha⟩ := hok b hb
    exact h.length_of_ok a ha
  body_eq := h.body_eq

theorem Sends.error {α β : Type} {result : Except Fault α} {body : Json} {sent : List Request}
    (h : Sends result body sent) (e : Fault) : Sends (α := β) (.error e) body sent := by
  refine h.of_ok ?_
  intro b hb
  cases hb

/-- To post a value is to send one request with it, or to fail without one. -/
theorem received_post (s : Server) (url : String) (body : Json) :
    ∃ sent, (s.post url body).2.received = s.received ++ sent ∧
      Sends (s.post url body).1 body sent := by
  unfold Server.post
  split
  next => exact ⟨[], (List.append_nil _).symm, .nil _ body⟩
  next url' _ =>
    split
    next => exact ⟨[], (List.append_nil _).symm, .nil _ body⟩
    next =>
      split
      next => exact ⟨[], (List.append_nil _).symm, .nil _ body⟩
      next =>
        exact ⟨[{ target := url'.target, body }], rfl, Nat.le_refl 1, fun _ _ => rfl, by simp⟩

theorem received_submit (b : Backend) (server : Server) (files : List Attachment)
    (message : String) :
    ∃ sent, (b.submit server files message).2.2.received = server.received ++ sent ∧
      Sends (b.submit server files message).1 (messageJson message files) sent := by
  cases hid : b.sessionId with
  | none =>
    have hsubmit : b.submit server files message = (.error noSession, b, server) := by
      simp only [submit, hid]
    rw [hsubmit]
    exact ⟨[], (List.append_nil _).symm, .nil _ _⟩
  | some id =>
    have hpost := received_post server (b.messagesUrl id) (messageJson message files)
    simp only [submit, hid]
    generalize server.post (b.messagesUrl id) (messageJson message files) = posted at hpost ⊢
    obtain ⟨sent, hsent, hsends⟩ := hpost
    cases hposted : posted.1.bind replyIn with
    | error e => exact ⟨sent, hsent, hsends.error e⟩
    | ok reply =>
      obtain ⟨r, hr, -⟩ := bind_eq_ok_iff.mp hposted
      have hsends' : Sends (.ok ()) (messageJson message files) sent :=
        hsends.of_ok fun _ _ => ⟨r, hr⟩
      cases reply with
      | none => exact ⟨sent, hsent, hsends'⟩
      | some text => exact ⟨sent, hsent, hsends'⟩

theorem received_upload (b : Backend) (server : Server) (file : ArtifactUpload)
    (sessionId : Option String) :
    ∃ sent, (b.upload server file sessionId).2.2.received = server.received ++ sent ∧
      Sends (b.upload server file sessionId).1 (uploadJson file sessionId) sent := by
  have hpost := received_post server b.artifactsUrl (uploadJson file sessionId)
  unfold upload
  dsimp only
  generalize server.post b.artifactsUrl (uploadJson file sessionId) = posted at hpost ⊢
  obtain ⟨sent, hsent, hsends⟩ := hpost
  cases hposted : posted.1.bind artifactIn with
  | error e => exact ⟨sent, hsent, hsends.error e⟩
  | ok a =>
    obtain ⟨r, hr, -⟩ := bind_eq_ok_iff.mp hposted
    exact ⟨sent, hsent, hsends.of_ok fun _ _ => ⟨r, hr⟩⟩

/-- Whatever is sent to the server can be decoded to what was meant, and what succeeds was sent:
of a message its text and its files in order, of a file to store all of it with the session.
Members stand for what is there and for nothing else, and so no two requests that mean different
things have the same body. -/
theorem bodies_decode_to_what_was_sent :
    (∀ (b : Backend) (server : Server) (files : List Attachment) (message : String),
      ∃ sent, (b.submit server files message).2.2.received = server.received ++ sent ∧
        sent.length ≤ 1 ∧ ((b.submit server files message).1 = .ok () → sent.length = 1) ∧
        ∀ r ∈ sent, readAs messageRecord r.bytes = some { message, files }) ∧
    (∀ (b : Backend) (server : Server) (file : ArtifactUpload) (sessionId : Option String),
      ∃ sent, (b.upload server file sessionId).2.2.received = server.received ++ sent ∧
        sent.length ≤ 1 ∧
        (∀ a, (b.upload server file sessionId).1 = .ok a → sent.length = 1) ∧
        ∀ r ∈ sent, readAs uploadRecord r.bytes = some { file, sessionId } ∧
          ∃ v, readJson r.bytes = some v ∧
            v.get? "description" = file.description.map .string ∧
            v.get? "sessionId" = sessionId.map .string) ∧
    (∀ message files message' files',
      Utf8.encode (messageJson message files).render =
        Utf8.encode (messageJson message' files').render → message = message' ∧ files = files') ∧
    (∀ file sessionId file' sessionId',
      Utf8.encode (uploadJson file sessionId).render =
        Utf8.encode (uploadJson file' sessionId').render →
          file = file' ∧ sessionId = sessionId') ∧
    ∀ message files file sessionId,
      Utf8.encode (messageJson message files).render ≠
        Utf8.encode (uploadJson file sessionId).render := by
  refine ⟨?_, ?_, ?_, ?_, ?_⟩
  · intro b server files message
    obtain ⟨sent, hsent, hsends⟩ := b.received_submit server files message
    refine ⟨sent, hsent, hsends.length_le, hsends.length_of_ok (), ?_⟩
    intro r hr
    rw [Request.bytes, hsends.body_eq r hr]
    exact readAs_messageJson message files
  · intro b server file sessionId
    obtain ⟨sent, hsent, hsends⟩ := b.received_upload server file sessionId
    refine ⟨sent, hsent, hsends.length_le, hsends.length_of_ok, ?_⟩
    intro r hr
    rw [Request.bytes, hsends.body_eq r hr]
    exact ⟨readAs_uploadJson file sessionId, _, readJson_encode (fits_uploadJson file sessionId),
      get?_uploadJson file sessionId⟩
  · intro message files message' files' heq
    have hread := readAs_messageJson message files
    rw [heq, readAs_messageJson] at hread
    cases hread
    exact ⟨rfl, rfl⟩
  · intro file sessionId file' sessionId' heq
    have hread := readAs_uploadJson file sessionId
    rw [heq, readAs_uploadJson] at hread
    cases hread
    exact ⟨rfl, rfl⟩
  · intro message files file sessionId heq
    have hread := readAs_uploadJson file sessionId
    rw [← heq, readAs_uploadRecord_messageJson] at hread
    cases hread

/-- A file of two bytes without a description arrives with its session. -/
theorem stored_file_decoded :
    let file : ArtifactUpload := { name := "f", mime := "", data := [0, 255], description := none }
    let received := ((connect "http://[::1]").upload { authority := "[::1]" } file
      (some "s")).2.2.received
    received.length = 1 ∧
      ∀ r ∈ received, readAs uploadRecord r.bytes = some { file, sessionId := some "s" } := by
  intro file received
  obtain ⟨sent, hsent, -, -, hread⟩ := bodies_decode_to_what_was_sent.2.1 (connect "http://[::1]")
    { authority := "[::1]" } file (some "s")
  refine ⟨by decide +kernel, ?_⟩
  intro r hr
  have hmem : r ∈ sent := by
    rw [← List.nil_append sent]
    exact hsent ▸ hr
  exact (hread r hmem).1

end Backend
end Composer
