import Composer.Backend
import Mathlib.Data.List.TakeWhile
set_option autoImplicit false

/-!
# Addresses of sessions

A session's id stands in the addresses of its requests as it is. An id of plain characters is one
segment of the path, and then every endpoint of every session has a path of its own. A slash in an
id makes several segments of it, and a question mark or a hash ends the path before the endpoint
is named.
-/

namespace Composer

/-- Whether a character ends the path of an address. -/
def Chars.endsPath (c : Char) : Bool := c == '?' || c == '#'

/-- Whether a character stands for itself within a segment of a path. -/
def Chars.staysInSegment (c : Char) : Bool := c != '/' && !Chars.endsPath c

/-- What a request is for. -/
inductive Endpoint where
  | messages
  | cancel
  deriving DecidableEq, Repr

namespace Endpoint

/-- The last segment of the endpoint's path. -/
def name : Endpoint → String
  | messages => "messages"
  | cancel => "cancel"

/-- The address of the endpoint for a session. -/
def url (b : Backend) (id : String) : Endpoint → String
  | messages => b.messagesUrl id
  | cancel => b.cancelUrl id

/-- The path of an address: what stands before its first question mark or hash. -/
def pathOf (url : String) : List Char := url.toList.takeWhile fun c => !Chars.endsPath c

/-- The path of the endpoint for a session. -/
def path (b : Backend) (id : String) (e : Endpoint) : List Char := pathOf (e.url b id)

theorem name_inj {e e' : Endpoint} (h : e.name = e'.name) : e = e' := by
  cases e <;> cases e' <;> simp_all [name]

theorem endsPath_of_mem_name {e : Endpoint} {c : Char} (hc : c ∈ '/' :: e.name.toList) :
    Chars.endsPath c = false := by
  have hnone : ('/' :: e.name.toList).any Chars.endsPath = false := by cases e <;> decide
  simpa using List.any_eq_false.mp hnone c hc

theorem slash_not_mem_name (e : Endpoint) : '/' ∉ e.name.toList := by
  cases e <;> decide

theorem toList_url (b : Backend) (id : String) (e : Endpoint) :
    (e.url b id).toList =
      b.baseUrl.toList ++ "/sessions/".toList ++ id.toList ++ '/' :: e.name.toList := by
  cases e <;> simp [url, Backend.messagesUrl, Backend.cancelUrl, Backend.urlOf, name]

end Endpoint

namespace Backend

open Endpoint

variable {b : Backend} {ids : String → Prop}

/-- Whatever ids are used, unless blank, they make no difference to where in the backend a request
goes but for the session itself. -/
structure KeepsApart (b : Backend) (ids : String → Prop) : Prop where
  /-- The id makes one segment of the path, and the endpoint the last. -/
  placed : ∀ e id, ids id → Text.isBlank id = false → ∃ segment : List Char,
    segment ≠ [] ∧ '/' ∉ segment ∧
      path b id e = b.baseUrl.toList ++ "/sessions/".toList ++ segment ++ '/' :: e.name.toList
  /-- No path belongs to two sessions or to two endpoints. -/
  apart : ∀ e id e' id', ids id → Text.isBlank id = false → ids id' → Text.isBlank id' = false →
    (e, id) ≠ (e', id') → path b id e ≠ path b id' e'

/-! ## Paths -/

/-- Nothing is cut off an address without question mark and hash. -/
theorem path_of_plain (hbase : ∀ c ∈ b.baseUrl.toList, Chars.endsPath c = false) {id : String}
    (hid : ∀ c ∈ id.toList, Chars.endsPath c = false) (e : Endpoint) :
    path b id e =
      b.baseUrl.toList ++ "/sessions/".toList ++ id.toList ++ '/' :: e.name.toList := by
  rw [path, pathOf, toList_url, List.takeWhile_eq_self_iff]
  intro c hc
  have hsessions : "/sessions/".toList.any Chars.endsPath = false := by decide
  simp only [List.mem_append] at hc
  rcases hc with ((hc | hc) | hc) | hc
  · simp [hbase c hc]
  · simp [List.any_eq_false.mp hsessions c hc]
  · simp [hid c hc]
  · simp [endsPath_of_mem_name hc]

/-- Behind the first question mark or hash of an id the endpoint does not matter. -/
theorem path_of_endsPath {id : String} {c : Char} (hc : c ∈ id.toList)
    (hends : Chars.endsPath c = true) (e e' : Endpoint) : path b id e = path b id e' := by
  have hcut : ∀ e : Endpoint, path b id e =
      (b.baseUrl.toList ++ "/sessions/".toList ++ id.toList).takeWhile
        fun c => !Chars.endsPath c := by
    intro e
    rw [path, pathOf, toList_url, List.takeWhile_append, if_neg]
    intro hlength
    have hall := List.takeWhile_eq_self_iff.mp
      ((List.takeWhile_prefix (fun c => !Chars.endsPath c)).eq_of_length hlength)
    simpa [hends] using hall c (List.mem_append_right _ hc)
  rw [hcut e, hcut e']

/-- A path has no question mark and no hash. -/
theorem endsPath_of_mem_path {id : String} {e : Endpoint} :
    ∀ c ∈ path b id e, Chars.endsPath c = false := by
  intro c hc
  simpa using List.mem_takeWhile_imp hc

/-- What stands behind the last slash of a path, and what stands before it. -/
theorem segments_inj {e e' : Endpoint} {before before' : List Char}
    (h : before ++ '/' :: e.name.toList = before' ++ '/' :: e'.name.toList) :
    before = before' ∧ e = e' := by
  have hcut := congrArg (Chars.splitLast '/') h
  rw [Chars.splitLast_append_cons (slash_not_mem_name e),
    Chars.splitLast_append_cons (slash_not_mem_name e')] at hcut
  obtain ⟨hbefore, hname⟩ := Prod.mk.inj (Option.some.inj hcut)
  exact ⟨hbefore, name_inj (String.toList_injective hname)⟩

/-! ## Ids -/

/-- The paths are as they should be, and apart from each other, exactly if no id holds a character
that means something in a path, and neither does the address of the backend end it early. -/
theorem keepsApart_iff (b : Backend) (ids : String → Prop) :
    b.KeepsApart ids ↔ ∀ id, ids id → Text.isBlank id = false →
      (∀ c ∈ b.baseUrl.toList, Chars.endsPath c = false) ∧
      ∀ c ∈ id.toList, Chars.staysInSegment c = true := by
  constructor
  · intro h id hid hblank
    obtain ⟨segment, -, hslash, hpath⟩ := h.placed .messages id hid hblank
    have hplain : ∀ c ∈ id.toList, Chars.endsPath c = false := by
      intro c hc
      rw [← Bool.not_eq_true]
      intro hends
      exact h.apart .messages id .cancel id hid hblank hid hblank (by simp)
        (path_of_endsPath hc hends .messages .cancel)
    have hbase : ∀ c ∈ b.baseUrl.toList, Chars.endsPath c = false := by
      intro c hc
      have hmem : c ∈ path b id .messages := by
        rw [hpath]
        simp [hc]
      exact endsPath_of_mem_path c hmem
    refine ⟨hbase, fun c hc => ?_⟩
    rw [path_of_plain hbase hplain] at hpath
    obtain ⟨hbefore, -⟩ := segments_inj hpath
    have hsegment : id.toList = segment := List.append_cancel_left hbefore
    have hne : c ≠ '/' := by
      rintro rfl
      exact hslash (hsegment ▸ hc)
    simp [Chars.staysInSegment, hplain c hc, hne]
  · intro h
    have hpath : ∀ e id, ids id → Text.isBlank id = false → path b id e =
        b.baseUrl.toList ++ "/sessions/".toList ++ id.toList ++ '/' :: e.name.toList := by
      intro e id hid hblank
      obtain ⟨hbase, hplain⟩ := h id hid hblank
      refine path_of_plain hbase (fun c hc => ?_) e
      have hc := hplain c hc
      simp only [Chars.staysInSegment, Bool.and_eq_true, Bool.not_eq_true'] at hc
      exact hc.2
    constructor
    · intro e id hid hblank
      refine ⟨id.toList, ?_, ?_, hpath e id hid hblank⟩
      · intro hnil
        rw [Text.isBlank, hnil] at hblank
        exact absurd hblank (by decide)
      · intro hslash
        exact absurd ((h id hid hblank).2 '/' hslash) (by decide)
    · intro e id e' id' hid hblank hid' hblank' hne hsame
      rw [hpath e id hid hblank, hpath e' id' hid' hblank'] at hsame
      obtain ⟨hbefore, rfl⟩ := segments_inj hsame
      have hids : id.toList = id'.toList := List.append_cancel_left hbefore
      exact hne (by rw [String.toList_injective hids])

/-- A request to stop the response in one session has the path of a message to another. -/
theorem cancel_reaches_messages :
    let b := connect "http://h/api"
    Text.isBlank "s/messages?" = false ∧ Text.isBlank "s" = false ∧
    path b "s/messages?" .cancel = path b "s" .messages ∧ ¬ b.KeepsApart fun _ => True := by
  intro b
  have hsame : path b "s/messages?" .cancel = path b "s" .messages := by decide +kernel
  refine ⟨by decide, by decide, hsame, fun h => ?_⟩
  exact h.apart .cancel "s/messages?" .messages "s" trivial (by decide) trivial (by decide)
    (by simp) hsame

end Backend
end Composer
