import Composer.Proofs.Json.Decoding
import Composer.Proofs.Json.Preservation
import Composer.Proofs.Time.Writing
import Composer.Wire.Forms
set_option autoImplicit false

/-!
# Values are decoded from their own texts

What is written of a value is decoded to that value, for each type that has a JSON form. What a
value was decoded from may look different from what is written of it, but once written the text
stays the same.
-/

namespace Composer

open Json (Decoded Fits)

/-- Reads a JSON text and decodes its value. -/
def Json.readText {α : Type} (decode : Json → Decoded α) (text : String) : Option α :=
  (Json.parse text).toOption.bind fun v => (decode v).toOption

/-- Reading the text of this value and writing the result gives the same text again. -/
def KeepsText {α : Type} (toJson : α → Json) (ofJson : Json → Decoded α) (v : α) : Prop :=
  ∃ w, Json.readText ofJson (toJson v).render = some w ∧ (toJson w).render = (toJson v).render

/-- How values of a type stand to their texts. -/
structure RoundTrips {α : Type} (toJson : α → Json) (ofJson : Json → Decoded α)
    (valid : α → Prop) (kept : α → α) : Prop where
  /-- The text of a valid value gives what is kept of it. -/
  read : ∀ v, valid v → Json.readText ofJson (toJson v).render = some (kept v)
  /-- Whatever a value was decoded from, its text stays the same from then on. -/
  decoded : ∀ x v, x.Proper → ofJson x = .ok v → KeepsText toJson ofJson v
  /-- The same holds for a value that was read from a text. -/
  reread : ∀ text v, Json.readText ofJson text = some v → KeepsText toJson ofJson v

section RoundTrips

variable {α : Type} {toJson : α → Json} {ofJson : Json → Decoded α} {valid : α → Prop}
  {kept : α → α}

theorem Json.readText_render {x : Json} {v : α} (hfits : x.Fits maxDepth)
    (hdecode : ofJson x.sorted = .ok v) : readText ofJson x.render = some v := by
  rw [readText, hfits.parse_render]
  change (ofJson x.sorted).toOption = some v
  rw [hdecode]
  rfl

/-- A text that is read holds a proper value. -/
theorem Json.exists_of_readText {text : String} {v : α} (h : readText ofJson text = some v) :
    ∃ x, x.Proper ∧ ofJson x = .ok v := by
  rw [readText] at h
  obtain ⟨x, hparse, hdecode⟩ := Option.bind_eq_some_iff.mp h
  exact ⟨x, proper_of_parse (toOption_eq_some_iff.mp hparse), toOption_eq_some_iff.mp hdecode⟩

/-- It suffices that the forms of valid values decode, and that every accepted value is valid and
written like what is kept of it. -/
theorem RoundTrips.of_accepted (hfits : ∀ v, valid v → (toJson v).Fits Json.maxDepth)
    (hdecode : ∀ v, valid v → ofJson (toJson v).sorted = .ok (kept v))
    (haccepted : ∀ x v, x.Proper → ofJson x = .ok v → valid v)
    (hkept : ∀ v, toJson (kept v) = toJson v) : RoundTrips toJson ofJson valid kept := by
  have hread : ∀ v, valid v → Json.readText ofJson (toJson v).render = some (kept v) := by
    intro v hv
    exact Json.readText_render (hfits v hv) (hdecode v hv)
  have hkeeps : ∀ v, valid v → KeepsText toJson ofJson v := by
    intro v hv
    refine ⟨kept v, hread v hv, ?_⟩
    rw [hkept]
  refine ⟨hread, ?_, ?_⟩
  · intro x v hx h
    exact hkeeps v (haccepted x v hx h)
  · intro text v h
    obtain ⟨x, hx, hv⟩ := Json.exists_of_readText h
    exact hkeeps v (haccepted x v hx hv)

/-- Of a type all of whose values are valid nothing can be accepted that is not. -/
theorem RoundTrips.of_all (hfits : ∀ v, (toJson v).Fits Json.maxDepth)
    (hdecode : ∀ v, ofJson (toJson v).sorted = .ok v) :
    RoundTrips toJson ofJson (fun _ => True) id :=
  .of_accepted (fun v _ => hfits v) (fun v _ => hdecode v) (fun _ _ _ _ => trivial) fun _ => rfl

theorem RoundTrips.mono {valid' : α → Prop} (h : RoundTrips toJson ofJson valid kept)
    (hvalid : ∀ v, valid' v → valid v) : RoundTrips toJson ofJson valid' kept where
  read v hv := h.read v (hvalid v hv)
  decoded := h.decoded
  reread := h.reread

end RoundTrips

theorem Json.fits_object {members : List (String × Json)} (h : ∀ m ∈ members, Fits 126 m.2) :
    Fits maxDepth (.object members) := .object h

/-! ## Records -/

/-- A draft is valid if its cursor is a number of 64 bits, and that is all that is accepted. -/
theorem Draft.roundTrips :
    RoundTrips toJson ofJson (fun d => d.cursor ≤ Numeral.maxUnsigned) id := by
  refine .of_accepted ?_ ?_ ?_ fun _ => rfl
  · intro d hd
    apply Json.fits_object
    simp [hd]
  · intro d _
    simp (disch := decide) [ofJson, toJson, record]
  · intro x d hx h
    refine Json.of_decode (p := fun d : Draft => d.cursor ≤ Numeral.maxUnsigned)
      (Nat.zero_le _) ?_ hx h
    exact .cons (fun _ _ _ _ _ hd => hd)
      (.cons (fun _ _ _ hv hcount _ => Json.le_of_asCount hv hcount)
        (.cons (fun _ _ _ _ _ hd => hd) Json.preserved_nil))

/-- An attachment comes back without its data, which its text does not have. -/
theorem Attachment.roundTrips :
    RoundTrips toJson ofJson (fun _ => True) fun f => { f with data := [] } := by
  refine .of_accepted ?_ ?_ (fun _ _ _ _ => trivial) fun _ => rfl
  · intro f _
    apply Json.fits_object
    simp
  · intro f _
    simp (disch := decide) [ofJson, toJson, record]

theorem ArtifactRef.fits_toJson (a : ArtifactRef) {depth : Nat} :
    a.toJson.Fits (depth + 1) := by
  cases hsession : a.sessionId <;> simp [toJson, Json.memberIfSome, hsession]

theorem ArtifactRef.decode_toJson (a : ArtifactRef) : ofJson a.toJson.sorted = .ok a := by
  obtain ⟨uri, sessionId⟩ := a
  cases sessionId <;> simp (disch := decide) [ofJson, toJson, record, Json.memberIfSome]

theorem ArtifactRef.roundTrips : RoundTrips toJson ofJson (fun _ => True) id :=
  .of_all (fun a => a.fits_toJson) decode_toJson

namespace Badge

theorem instantOfJson_text {t : Instant} (h : t.IsWritable) :
    instantOfJson (.string (String.ofList t.text)) = .ok t := by
  rw [instantOfJson, String.toList_ofList, h.read_text]

theorem isWritable_of_instantOfJson {v : Json} {t : Instant} (h : instantOfJson v = .ok t) :
    t.IsWritable := by
  unfold instantOfJson at h
  split at h
  · split at h
    next hread =>
      cases h
      exact Instant.isWritable_of_read hread
    next => cases h
  · cases h

/-- Every time that is accepted can be written again, whichever offset it was given with. -/
theorem roundTrips : RoundTrips toJson ofJson (·.createdAt.IsWritable) fun b => b := by
  refine .of_accepted ?_ ?_ ?_ fun _ => rfl
  · intro b _
    apply Json.fits_object
    simp [b.artifact.fits_toJson]
  · intro b hb
    simp (disch := decide) only [ofJson, toJson, record]
    simp (disch := decide) [ArtifactRef.decode_toJson, instantOfJson_text hb]
  · intro x b hx h
    refine Json.of_decode (p := fun b : Badge => b.createdAt.IsWritable)
      ⟨by decide, by decide, by decide⟩ ?_ hx h
    exact .cons (fun _ _ _ _ _ hb => hb) (.cons (fun _ _ _ _ _ hb => hb)
      (.cons (fun _ _ _ _ _ hb => hb)
        (.cons (fun _ _ _ _ htime _ => isWritable_of_instantOfJson htime) Json.preserved_nil)))

end Badge

theorem PromptGroup.roundTrips : RoundTrips toJson ofJson (fun _ => True) fun g => g := by
  apply RoundTrips.of_all
  · intro g
    apply Json.fits_object
    cases hdescription : g.description <;> simp [Json.memberIfSome]
  · intro g
    obtain ⟨id, name, text, description⟩ := g
    cases description <;> simp (disch := decide) [ofJson, toJson, record, Json.memberIfSome]

theorem PendingPrompt.roundTrips : RoundTrips toJson ofJson (fun _ => True) id := by
  apply RoundTrips.of_all
  · intro p
    apply Json.fits_object
    simp
  · intro p
    simp (disch := decide) [ofJson, toJson, record]

namespace PasteClassifier

/-- Both thresholds are numbers of 64 bits. -/
def InRange (c : PasteClassifier) : Prop :=
  c.charThreshold ≤ Numeral.maxUnsigned ∧ c.lineThreshold ≤ Numeral.maxUnsigned

theorem inRange_default : InRange {} := by
  rw [InRange]
  decide

theorem fits_toJson {c : PasteClassifier} (h : c.InRange) {depth : Nat} :
    c.toJson.Fits (depth + 1) := by
  simp [toJson, h.1, h.2]

theorem decode_toJson (c : PasteClassifier) : ofJson c.toJson.sorted = .ok c := by
  simp (disch := decide) [ofJson, toJson, record]

theorem inRange_of_ofJson {x : Json} {c : PasteClassifier} (hx : x.Proper) (h : ofJson x = .ok c) :
    c.InRange := by
  refine Json.of_decode inRange_default ?_ hx h
  exact .cons (fun _ _ _ hv hcount hc => ⟨Json.le_of_asCount hv hcount, hc.2⟩)
    (.cons (fun _ _ _ hv hcount hc => ⟨hc.1, Json.le_of_asCount hv hcount⟩) Json.preserved_nil)

theorem roundTrips : RoundTrips toJson ofJson InRange id :=
  .of_accepted (fun _ hc => fits_toJson hc) (fun c _ => c.decode_toJson)
    (fun _ _ => inRange_of_ofJson) fun _ => rfl

end PasteClassifier

namespace Config

theorem fits_promptToJson (g : PromptGroup) {depth : Nat} :
    (promptToJson g).Fits (depth + 1) := by
  cases hdescription : g.description <;> simp [promptToJson, Json.memberIfSome, hdescription]

theorem decode_promptToJson (g : PromptGroup) :
    promptRecord.decode (promptToJson g).sorted = .ok g := by
  obtain ⟨id, name, text, description⟩ := g
  cases description <;> simp (disch := decide) [promptToJson, promptRecord, Json.memberIfSome]

theorem fits_toJson {c : Config} (h : c.paste.InRange) : c.toJson.Fits Json.maxDepth := by
  apply Json.fits_object
  cases hempty : c.prompts.isEmpty <;>
    simp [ApiConfig.toJson, PasteClassifier.fits_toJson h, fits_promptToJson]

/-- A list of prompts that is left out because it is empty is read as an empty one. -/
theorem decode_toJson (c : Config) : ofJson c.toJson.sorted = .ok c := by
  obtain ⟨api, paste, logFilter, prompts⟩ := c
  have hprompts : Json.asList promptRecord.decode
      (.array (prompts.map (Json.sorted ∘ promptToJson))) = .ok prompts :=
    Json.asList_map decode_promptToJson prompts
  cases hempty : prompts.isEmpty with
  | true =>
    obtain rfl : prompts = [] := List.isEmpty_iff.mp hempty
    simp (disch := decide) [ofJson, toJson, record, ApiConfig.toJson, ApiConfig.record,
      PasteClassifier.decode_toJson, logRecord]
  | false =>
    simp (disch := decide) only [ofJson, toJson, record]
    simp (disch := decide) [ApiConfig.toJson, ApiConfig.record, PasteClassifier.decode_toJson,
      logRecord, hempty, hprompts]

theorem roundTrips : RoundTrips toJson ofJson (·.paste.InRange) id := by
  refine .of_accepted (fun _ => fits_toJson) (fun c _ => c.decode_toJson) ?_ fun _ => rfl
  intro x c hx h
  refine Json.of_decode (p := fun c : Config => c.paste.InRange) PasteClassifier.inRange_default
    ?_ hx h
  exact .cons (fun _ _ _ _ _ hc => hc)
    (.cons (fun _ _ _ hv hpaste _ => PasteClassifier.inRange_of_ofJson hv hpaste)
      (.cons (fun _ _ _ _ _ hc => hc) (.cons (fun _ _ _ _ _ hc => hc) Json.preserved_nil)))

end Config

/-! ## Names and alternatives -/

theorem ReservedCommand.roundTrips : RoundTrips toJson ofJson (fun _ => True) id := by
  apply RoundTrips.of_all
  · intro c
    exact Json.fits_string _ _
  · intro c
    cases c
    rfl

theorem NotificationLevel.asName_name (l : NotificationLevel) :
    Json.asName named (.string l.name) = .ok l := by
  cases l <;> rfl

theorem Notification.roundTrips : RoundTrips toJson ofJson (fun _ => True) id := by
  apply RoundTrips.of_all
  · intro n
    apply Json.fits_object
    simp
  · intro n
    simp (disch := decide) [ofJson, toJson, record, NotificationLevel.asName_name]

/-- The tag of a follow-up question stands behind its fields when the members are in order. -/
theorem Signal.roundTrips : RoundTrips toJson ofJson (fun _ => True) id := by
  apply RoundTrips.of_all
  · intro s
    cases s <;> exact Json.fits_object (by simp)
  · intro s
    cases s with
    | focusInput => rfl
    | followUp selected question autoSubmit =>
      simp (disch := decide) [ofJson, toJson, FollowUp.record, tagOfJson, Tag.named,
        List.lookup_cons, List.filter_cons, ofFollowUp]

theorem Fault.roundTrips : RoundTrips toJson ofJson (fun _ => True) id := by
  apply RoundTrips.of_all
  · intro f
    cases f <;> exact Json.fits_object (by simp)
  · intro f
    cases f <;>
      simp (disch := decide) [ofJson, toJson, messageRecord, formatRecord, Json.asAlternative,
        Json.asFields, Json.asPayload]

/-! ## All types -/

/-- The text of a value is decoded to that value, except that an attachment loses its data, and what
has been decoded and written once is written in the same way ever after. -/
theorem texts_decoded_to_their_values :
    RoundTrips Draft.toJson Draft.ofJson (fun d => d.cursor ≤ Numeral.maxUnsigned) id ∧
    RoundTrips Attachment.toJson Attachment.ofJson (fun _ => True)
      (fun f => { f with data := [] }) ∧
    RoundTrips ArtifactRef.toJson ArtifactRef.ofJson (fun _ => True) id ∧
    RoundTrips Badge.toJson Badge.ofJson (fun b => b.createdAt.IsOrdinary) id ∧
    RoundTrips PromptGroup.toJson PromptGroup.ofJson (fun _ => True) id ∧
    RoundTrips PendingPrompt.toJson PendingPrompt.ofJson (fun _ => True) id ∧
    RoundTrips Signal.toJson Signal.ofJson (fun _ => True) id ∧
    RoundTrips PasteClassifier.toJson PasteClassifier.ofJson PasteClassifier.InRange id ∧
    RoundTrips ReservedCommand.toJson ReservedCommand.ofJson (fun _ => True) id ∧
    RoundTrips Notification.toJson Notification.ofJson (fun _ => True) id ∧
    RoundTrips Fault.toJson Fault.ofJson (fun _ => True) id ∧
    RoundTrips Config.toJson Config.ofJson (fun c => c.paste.InRange) id :=
  ⟨Draft.roundTrips, Attachment.roundTrips, ArtifactRef.roundTrips,
    Badge.roundTrips.mono fun _ hb => hb.isWritable, PromptGroup.roundTrips,
    PendingPrompt.roundTrips, Signal.roundTrips, PasteClassifier.roundTrips,
    ReservedCommand.roundTrips, Notification.roundTrips, Fault.roundTrips, Config.roundTrips⟩

/-- A badge is read from its text, and a list of its fields whose time has an offset is accepted and
then written with the same text for good. -/
theorem badge_of_noon_decoded :
    let noon : Instant := { seconds := 43200, nanos := 500000000 }
    let b : Badge :=
      { id := "i", artifact := { uri := "u" }, displayName := "n", createdAt := noon }
    let x : Json := .array [.string "i", .object [("uri", .string "u")], .string "n",
      .string "1970-01-01T14:00:00.5+02:00"]
    b.createdAt.IsOrdinary ∧ x.Proper ∧ Badge.ofJson x = .ok b ∧
      Json.readText Badge.ofJson b.toJson.render = some b ∧
      KeepsText Badge.toJson Badge.ofJson b := by
  intro noon b x
  obtain ⟨-, -, -, hbadge, -⟩ := texts_decoded_to_their_values
  have hordinary : b.createdAt.IsOrdinary := ⟨by decide, by decide, by decide⟩
  have hproper : x.Proper := by
    refine .array ?_
    simp only [List.forall_mem_cons]
    exact ⟨.string _, .object (List.forall_mem_singleton.mpr (.string _)), .string _, .string _,
      fun _ h => nomatch h⟩
  have hread : Instant.read "1970-01-01T14:00:00.5+02:00".toList = .ok noon := by
    decide +kernel
  have htime : Badge.instantOfJson (.string "1970-01-01T14:00:00.5+02:00") = .ok noon := by
    rw [Badge.instantOfJson, hread]
  have haccepted : Badge.ofJson x = .ok b := by
    simp [b, x, Badge.ofJson, Badge.record, ArtifactRef.ofJson, ArtifactRef.record,
      Json.Record.ofItems, Json.Record.putItems, htime]
  exact ⟨hordinary, hproper, haccepted, hbadge.read b hordinary,
    hbadge.decoded x b hproper haccepted⟩

end Composer
