import Composer.Proofs.Backend.ReportedErrors
import Composer.Proofs.Json.Records
set_option autoImplicit false

/-!
# The answer to an upload

An answer stores an artifact if its status tells of success and its body, which is JSON and reports
no error, describes a reference with an address. A report of an error counts whatever the status is;
after it the status is asked, then the form of the body, and last the address.
-/

namespace Composer

theorem Json.asString?_eq_some_iff {v : Json} {s : String} :
    v.asString? = some s ↔ v = .string s := by
  cases v <;> simp [asString?]

/-- The full text of a fault starts with its category. -/
theorem Fault.not_isBlank_message (f : Fault) : Text.isBlank f.message = false := by
  cases f with
  | backend m => exact Text.not_isBlank_append "Backend error: " m (by decide)
  | network m => exact Text.not_isBlank_append "Network error: " m (by decide)
  | validation m => exact Text.not_isBlank_append "Validation error: " m (by decide)
  | io m => exact Text.not_isBlank_append "IO error: " m (by decide)
  | serialization format m =>
    have hformat := Text.not_isBlank_append "Serialization error: " format (by decide)
    exact Text.not_isBlank_append _ m (Text.not_isBlank_append _ " - " hformat)
  | config m => exact Text.not_isBlank_append "Configuration error: " m (by decide)
  | internal m => exact Text.not_isBlank_append "Internal error: " m (by decide)

/-! ## References -/

namespace ArtifactRef

/-- Whether a value describes a reference: an object with the address as a text, or a list of one or
two items that starts with it. The session is a text, `null` or left out. -/
def DescribedBy (a : ArtifactRef) : Json → Prop
  | .object members =>
    members.lookup "uri" = some (.string a.uri) ∧
      (members.lookup "sessionId").getD .null = .optional a.sessionId
  | .array items =>
    items.length ≤ 2 ∧ items[0]? = some (.string a.uri) ∧
      items[1]?.getD .null = .optional a.sessionId
  | _ => False

variable {a a' : ArtifactRef} {members : List (String × Json)} {items : List Json}

/-- A reference takes a member into the field with its key, if there is one. -/
theorem take_member_iff {key : String} {v : Json} :
    record.take a (key, v) = .ok a' ↔
    (key = "uri" ∧ ∃ s, v = .string s ∧ { a with uri := s } = a') ∨
      (key = "sessionId" ∧ ∃ s, v = .optional s ∧ { a with sessionId := s } = a') ∨
      (key ≠ "uri" ∧ key ≠ "sessionId" ∧ a = a') := by
  by_cases huri : key = "uri"
  · subst huri
    simp [Json.Record.take, record, Json.Field.of, map_eq_ok_iff, Json.asText_eq_ok_iff]
  · by_cases hsession : key = "sessionId"
    · subst hsession
      simp [Json.Record.take, record, Json.Field.of, map_eq_ok_iff,
        Json.asOptional_asText_eq_ok_iff]
    · simp [Json.Record.take, record, Json.Field.of, huri, hsession, Ne.symm huri, Ne.symm hsession]

/-- What a field is after it took the value that was found for it, if one was found. -/
def Takes {α : Type} (form : α → Json) (found : Option Json) (old new : α) : Prop :=
  found.elim (old = new) fun v => v = form new

theorem take_members_iff (hkeys : (members.map Prod.fst).Nodup) (a : ArtifactRef) :
    members.foldlM record.take a = .ok a' ↔
    Takes .string (members.lookup "uri") a.uri a'.uri ∧
      Takes .optional (members.lookup "sessionId") a.sessionId a'.sessionId := by
  induction members generalizing a with
  | nil =>
    cases a
    cases a'
    simp [Takes, pure, Except.pure]
  | cons m members ih =>
    obtain ⟨key, v⟩ := m
    rw [List.map_cons, List.nodup_cons] at hkeys
    obtain ⟨hnew, hothers⟩ := hkeys
    have hnone : members.lookup key = none := by
      rw [List.lookup_eq_none_iff]
      intro m hm
      rw [bne_iff_ne]
      exact fun hsame => hnew (List.mem_map.mpr ⟨m, hm, hsame.symm⟩)
    simp only [List.foldlM_cons, bind_eq_ok_iff, ih hothers, take_member_iff]
    by_cases huri : key = "uri"
    · subst huri
      simp [List.lookup_cons, hnone, Takes]
    · by_cases hsession : key = "sessionId"
      · subst hsession
        simp [List.lookup_cons, hnone, Takes, and_comm]
      · have hnotUri : ("uri" == key) = false := beq_eq_false_iff_ne.mpr (Ne.symm huri)
        have hnotSession : ("sessionId" == key) = false :=
          beq_eq_false_iff_ne.mpr (Ne.symm hsession)
        simp [List.lookup_cons, huri, hsession, hnotUri, hnotSession]

theorem ofJson_object_iff (hkeys : (members.map Prod.fst).Nodup) :
    ofJson (.object members) = .ok a ↔ a.DescribedBy (.object members) := by
  have hput : record.putMembers members = .ok a ↔
      Takes .string (members.lookup "uri") "" a.uri ∧
        Takes .optional (members.lookup "sessionId") none a.sessionId := by
    rw [Json.Record.putMembers_eq, take_members_iff hkeys]
    rfl
  have hrequired : (∀ f ∈ record.fields, f.presence = .required → ∃ m ∈ members, m.1 = f.name) ↔
      (members.lookup "uri").isSome = true := by
    simp only [List.lookup_isSome_iff, beq_iff_eq]
    simp [record, Json.Field.of]
  rw [ofJson, Json.Record.decode, Json.Record.ofMembers_eq_ok_iff, hput, hrequired, DescribedBy]
  cases members.lookup "uri" with
  | none => simp
  | some v =>
    cases members.lookup "sessionId" with
    | none => simp [Takes, Json.null_eq_optional_iff, eq_comm (a := none)]
    | some w => simp [Takes]

theorem ofJson_array_iff : ofJson (.array items) = .ok a ↔ a.DescribedBy (.array items) := by
  rw [ofJson, Json.Record.decode, Json.Record.ofItems_eq_ok_iff, DescribedBy]
  obtain ⟨uri, sessionId⟩ := a
  cases items with
  | nil => simp [Json.Record.putItems, record, Json.Field.of]
  | cons u later =>
    cases later with
    | nil =>
      simp [Json.Record.putItems, record, Json.Field.of, bind_eq_ok_iff, map_eq_ok_iff,
        Json.asText_eq_ok_iff, Json.null_eq_optional_iff, eq_comm (a := none)]
    | cons s surplus =>
      cases surplus with
      | nil =>
        simp [Json.Record.putItems, record, Json.Field.of, bind_eq_ok_iff, map_eq_ok_iff,
          Json.asText_eq_ok_iff, Json.asOptional_asText_eq_ok_iff]
      | cons v more =>
        simp [Json.Record.putItems, record, Json.Field.of, bind_eq_ok_iff, map_eq_ok_iff]

/-- Decoding finds the reference that a value describes. -/
theorem ofJson_iff {s : String} {v : Json} (h : Json.parse s = .ok v) :
    ofJson v = .ok a ↔ a.DescribedBy v := by
  cases v with
  | object members => exact ofJson_object_iff (Json.ascending_of_parse h).nodup_keys
  | array items => exact ofJson_array_iff
  | null => exact iff_of_false (fun hok => nomatch hok) id
  | bool b => exact iff_of_false (fun hok => nomatch hok) id
  | number n => exact iff_of_false (fun hok => nomatch hok) id
  | string t => exact iff_of_false (fun hok => nomatch hok) id

end ArtifactRef

namespace Backend

/-! ## Reports -/

/-- Whether the report of an error gives a reason: it is that text, or holds it as its message. -/
def GivesReason (e : Json) (s : String) : Prop :=
  e = .string s ∨ e.get? "message" = some (.string s)

/-- How the report of an error is worded for the user: as the reason that it gives, or as the
generic text if it gives none or a blank one. -/
inductive Worded (e : Json) : String → Prop where
  | reason {s : String} (h : GivesReason e s) (hblank : Text.isBlank s = false) : Worded e s
  | generic (h : ∀ s, GivesReason e s → Text.isBlank s = true) : Worded e Fault.genericRefusal

variable {e : Json} {s m : String}

theorem GivesReason.reasonIn_eq (h : GivesReason e s) : reasonIn e = s := by
  rcases h with rfl | hmessage
  · rfl
  · simp [reasonIn, hmessage, Json.asString?]

/-- What is taken for the reason is one that the report gives, or empty. -/
theorem givesReason_reasonIn_or_empty (e : Json) :
    GivesReason e (reasonIn e) ∨ reasonIn e = "" := by
  cases hmessage : (e.get? "message").bind Json.asString? with
  | some s =>
    obtain ⟨v, hget, hv⟩ := Option.bind_eq_some_iff.mp hmessage
    obtain rfl := Json.asString?_eq_some_iff.mp hv
    have hgives : GivesReason e s := .inr hget
    exact .inl (by rwa [hgives.reasonIn_eq])
  | none =>
    cases htext : e.asString? with
    | some s =>
      have hgives : GivesReason e s := .inl (Json.asString?_eq_some_iff.mp htext)
      exact .inl (by rwa [hgives.reasonIn_eq])
    | none => exact .inr (by simp [reasonIn, hmessage, htext])

theorem refusal_reasonIn_eq_iff : Fault.refusal (reasonIn e) = .backend m ↔ Worded e m := by
  constructor
  · intro h
    obtain rfl := Fault.backend.inj h
    cases hblank : Text.isBlank (reasonIn e) with
    | true =>
      rw [if_pos rfl]
      refine .generic fun s hs => ?_
      rwa [hs.reasonIn_eq] at hblank
    | false =>
      rw [if_neg Bool.false_ne_true]
      rcases givesReason_reasonIn_or_empty e with hgives | hempty
      · exact .reason hgives hblank
      · rw [hempty] at hblank
        exact absurd hblank (by decide)
  · intro h
    cases h with
    | reason hgives hblank =>
      rw [hgives.reasonIn_eq, Fault.refusal, if_neg (by rw [hblank]; decide)]
    | generic hall =>
      have hblank : Text.isBlank (reasonIn e) = true := by
        rcases givesReason_reasonIn_or_empty e with hgives | hempty
        · exact hall _ hgives
        · rw [hempty]
          decide
      rw [Fault.refusal, if_pos hblank]

/-! ## Verdicts -/

variable {r : Response} {a : ArtifactRef}

/-- The text of a refusal: what the body reports as an error, whatever the status is, and otherwise
the generic text, for a status that is no success or a reference without an address. -/
inductive Refused (r : Response) : String → Prop where
  | reported {v e : Json} {m : String} (hbody : Json.parse r.body = .ok v)
      (herror : v.get? "error" = some e) (h : Worded e m) : Refused r m
  | byStatus (hstatus : r.isSuccess = false)
      (hsilent : ∀ v, Json.parse r.body = .ok v → v.get? "error" = none) :
      Refused r Fault.genericRefusal
  | unaddressed {v : Json} {a : ArtifactRef} (hstatus : r.isSuccess = true)
      (hbody : Json.parse r.body = .ok v) (hsilent : v.get? "error" = none)
      (hdescribed : a.DescribedBy v) (hblank : Text.isBlank a.uri = true) :
      Refused r Fault.genericRefusal

/-- How the answer to an upload is judged. -/
inductive Judged (r : Response) : Except Fault ArtifactRef → Prop where
  | stored {v : Json} {a : ArtifactRef} (hstatus : r.isSuccess = true)
      (hbody : Json.parse r.body = .ok v) (hsilent : v.get? "error" = none)
      (hdescribed : a.DescribedBy v) (haddress : Text.isBlank a.uri = false) : Judged r (.ok a)
  | refused {m : String} (h : Refused r m) : Judged r (.error (.backend m))
  /-- The body is no JSON under a status of success. -/
  | unreadable {e : String} (hstatus : r.isSuccess = true) (hbody : Json.parse r.body = .error e) :
      Judged r (.error (.network ("Invalid artifact response: " ++ e)))
  /-- The body describes no reference under a status of success. -/
  | undecodable {v : Json} {e : Json.Misfit} (hstatus : r.isSuccess = true)
      (hbody : Json.parse r.body = .ok v) (hsilent : v.get? "error" = none)
      (hmisfit : ArtifactRef.ofJson v = .error e) : Judged r (.error (.badJson e.message))

theorem refusal_empty : Fault.refusal "" = .backend Fault.genericRefusal := by
  decide

/-- A body that reports no error is refused with the generic text. -/
theorem refusalIn_of_silent
    (h : ∀ v, Json.parse r.body = .ok v → v.get? "error" = none) :
    refusalIn r.body = .backend Fault.genericRefusal := by
  unfold refusalIn
  cases hbody : Json.parse r.body with
  | error e => exact refusal_empty
  | ok v =>
    simp only [errorReason?_eq, h v hbody]
    exact refusal_empty

theorem judged_artifactIn (r : Response) : Judged r (artifactIn r) := by
  unfold artifactIn
  split
  next e hbody =>
    have hsilent : ∀ v, Json.parse r.body = .ok v → v.get? "error" = none := by
      intro v hv
      rw [hbody] at hv
      cases hv
    split
    next hstatus => exact .unreadable hstatus hbody
    next hstatus =>
      rw [refusalIn_of_silent hsilent]
      exact .refused (.byStatus (Bool.eq_false_iff.mpr hstatus) hsilent)
  next v hbody =>
    rw [errorReason?_eq]
    cases herror : v.get? "error" with
    | some e => exact .refused (.reported hbody herror (refusal_reasonIn_eq_iff.mp rfl))
    | none =>
      have hsilent : ∀ v, Json.parse r.body = .ok v → v.get? "error" = none := by
        intro v' hv'
        obtain rfl := Except.ok.inj (hbody.symm.trans hv')
        exact herror
      cases hstatus : r.isSuccess with
      | false =>
        simp only [Option.map_none, Bool.not_false, refusalIn_of_silent hsilent]
        exact .refused (.byStatus hstatus hsilent)
      | true =>
        simp only [Option.map_none, Bool.not_true]
        cases hdecode : ArtifactRef.ofJson v with
        | error e => exact .undecodable hstatus hbody herror hdecode
        | ok a =>
          have hdescribed := (ArtifactRef.ofJson_iff hbody).mp hdecode
          cases hblank : Text.isBlank a.uri with
          | true =>
            simp only [hblank, refusal_empty]
            exact .refused (.unaddressed hstatus hbody herror hdescribed hblank)
          | false =>
            simp only [hblank]
            exact .stored hstatus hbody herror hdescribed hblank

/-- An answer is judged in one way only. -/
theorem artifactIn_eq_iff {x : Except Fault ArtifactRef} : artifactIn r = x ↔ Judged r x := by
  constructor
  · rintro rfl
    exact judged_artifactIn r
  · intro h
    unfold artifactIn
    cases h with
    | stored hstatus hbody hsilent hdescribed haddress =>
      have hdecode := (ArtifactRef.ofJson_iff hbody).mpr hdescribed
      simp [hbody, errorReason?_eq, hsilent, hstatus, hdecode, haddress]
    | unreadable hstatus hbody =>
      simp only [hbody, hstatus]
      rfl
    | undecodable hstatus hbody hsilent hmisfit =>
      simp [hbody, errorReason?_eq, hsilent, hstatus, hmisfit]
    | refused h =>
      cases h with
      | reported hbody herror hworded =>
        simp [hbody, errorReason?_eq, herror, refusal_reasonIn_eq_iff.mpr hworded]
      | byStatus hstatus hsilent =>
        cases hbody : Json.parse r.body with
        | error e => simp [hstatus, refusalIn_of_silent hsilent]
        | ok v => simp [hstatus, errorReason?_eq, hsilent v hbody, refusalIn_of_silent hsilent]
      | unaddressed hstatus hbody hsilent hdescribed hblank =>
        have hdecode := (ArtifactRef.ofJson_iff hbody).mpr hdescribed
        simp [hbody, errorReason?_eq, hsilent, hstatus, hdecode, hblank, refusal_empty]

/-! ### Each verdict -/

theorem artifactIn_eq_ok_iff : artifactIn r = .ok a ↔
    r.isSuccess = true ∧ Text.isBlank a.uri = false ∧
      ∃ v, Json.parse r.body = .ok v ∧ v.get? "error" = none ∧ a.DescribedBy v := by
  rw [artifactIn_eq_iff]
  constructor
  · intro h
    cases h with
    | stored hstatus hbody hsilent hdescribed haddress =>
      exact ⟨hstatus, haddress, _, hbody, hsilent, hdescribed⟩
  · rintro ⟨hstatus, haddress, v, hbody, hsilent, hdescribed⟩
    exact .stored hstatus hbody hsilent hdescribed haddress

theorem artifactIn_eq_backend_iff : artifactIn r = .error (.backend m) ↔ Refused r m := by
  rw [artifactIn_eq_iff]
  constructor
  · intro h
    cases h with
    | refused h => exact h
  · exact .refused

theorem artifactIn_eq_network_iff : artifactIn r = .error (.network m) ↔
    r.isSuccess = true ∧
      ∃ e, Json.parse r.body = .error e ∧ m = "Invalid artifact response: " ++ e := by
  rw [artifactIn_eq_iff]
  constructor
  · intro h
    cases h with
    | unreadable hstatus hbody => exact ⟨hstatus, _, hbody, rfl⟩
  · rintro ⟨hstatus, e, hbody, rfl⟩
    exact .unreadable hstatus hbody

/-- A value that describes no reference does not decode, and the other way around. -/
theorem artifactIn_eq_badJson_iff : (∃ m, artifactIn r = .error (.badJson m)) ↔
    r.isSuccess = true ∧
      ∃ v, Json.parse r.body = .ok v ∧ v.get? "error" = none ∧
        ∀ a : ArtifactRef, ¬a.DescribedBy v := by
  simp only [artifactIn_eq_iff]
  constructor
  · rintro ⟨m, h⟩
    cases h with
    | @undecodable v e hstatus hbody hsilent hmisfit =>
      refine ⟨hstatus, v, hbody, hsilent, fun a hdescribed => ?_⟩
      rw [(ArtifactRef.ofJson_iff hbody).mpr hdescribed] at hmisfit
      cases hmisfit
  · rintro ⟨hstatus, v, hbody, hsilent, hnone⟩
    cases hdecode : ArtifactRef.ofJson v with
    | ok a => exact absurd ((ArtifactRef.ofJson_iff hbody).mp hdecode) (hnone a)
    | error e => exact ⟨e.message, .undecodable hstatus hbody hsilent hdecode⟩

theorem Refused.not_isBlank (h : Refused r m) : Text.isBlank m = false := by
  have hgeneric : Text.isBlank Fault.genericRefusal = false := by decide
  cases h with
  | byStatus => exact hgeneric
  | unaddressed => exact hgeneric
  | reported hbody herror hworded =>
    cases hworded with
    | reason hgives hblank => exact hblank
    | generic => exact hgeneric

/-- A fault is of one of three kinds, and what the user reads of it is not blank. -/
theorem fault_of_artifactIn {fault : Fault} (h : artifactIn r = .error fault) :
    Text.isBlank fault.userMessage = false ∧
      ((∃ m, fault = .backend m) ∨ (∃ m, fault = .network m) ∨ ∃ m, fault = .badJson m) := by
  rw [artifactIn_eq_iff] at h
  cases h with
  | refused h => exact ⟨h.not_isBlank, .inl ⟨_, rfl⟩⟩
  | unreadable => exact ⟨Fault.not_isBlank_message _, .inr (.inl ⟨_, rfl⟩)⟩
  | undecodable => exact ⟨Fault.not_isBlank_message _, .inr (.inr ⟨_, rfl⟩)⟩

/-- An upload is stored exactly if the status tells of success and the body, which reports no error,
describes a reference with an address; the reference is what it describes. Any other answer is a
refusal, is unreadable or does not describe a reference, and what the user reads of it is not blank.
-/
theorem upload_judged (r : Response) :
    (∀ a, artifactIn r = .ok a ↔ r.isSuccess = true ∧ Text.isBlank a.uri = false ∧
      ∃ v, Json.parse r.body = .ok v ∧ v.get? "error" = none ∧ a.DescribedBy v) ∧
    (∀ m, artifactIn r = .error (.backend m) ↔ Refused r m) ∧
    (∀ m, artifactIn r = .error (.network m) ↔ r.isSuccess = true ∧
      ∃ e, Json.parse r.body = .error e ∧ m = "Invalid artifact response: " ++ e) ∧
    ((∃ m, artifactIn r = .error (.badJson m)) ↔ r.isSuccess = true ∧
      ∃ v, Json.parse r.body = .ok v ∧ v.get? "error" = none ∧
        ∀ a : ArtifactRef, ¬a.DescribedBy v) ∧
    ∀ fault, artifactIn r = .error fault → Text.isBlank fault.userMessage = false ∧
      ((∃ m, fault = .backend m) ∨ (∃ m, fault = .network m) ∨ ∃ m, fault = .badJson m) := by
  refine ⟨?_, ?_, ?_, artifactIn_eq_badJson_iff, ?_⟩
  · exact fun a => artifactIn_eq_ok_iff
  · exact fun m => artifactIn_eq_backend_iff
  · exact fun m => artifactIn_eq_network_iff
  · exact fun fault h => fault_of_artifactIn h

/-- A reference may come as a list. A report that is `null` is one, too, and gives no reason. -/
theorem list_stored_and_null_refused :
    let listed : Response := { status := 201, body := "[\"u\",null]" }
    let reporting : Response :=
      { status := 200, body := "\x7b\"error\":null,\"uri\":\"u\"\x7d" }
    artifactIn listed = .ok { uri := "u" } ∧
      artifactIn reporting = .error (.backend "The server returned an unexpected error") := by
  intro listed reporting
  have hlisted : Json.parse listed.body = .ok (.array [.string "u", .null]) := by cbv
  have hreporting : Json.parse reporting.body =
      .ok (.object [("error", .null), ("uri", .string "u")]) := by cbv
  obtain ⟨hstored, -⟩ := upload_judged listed
  obtain ⟨-, hrefused, -⟩ := upload_judged reporting
  constructor
  · exact (hstored _).mpr ⟨rfl, by decide, _, hlisted, rfl, by decide, rfl, rfl⟩
  · refine (hrefused _).mpr (.reported hreporting rfl (.generic ?_))
    rintro s (hs | hs)
    · exact absurd hs (by simp)
    · exact absurd hs (by simp [Json.get?])

end Backend
end Composer
