import Composer.Proofs.MessageInput.Frame
import Composer.Proofs.MessageInput.Merging
import Mathlib.Algebra.Order.Group.Multiset
import Mathlib.Data.List.Dedup
import Mathlib.Tactic.Abel
set_option autoImplicit false

/-!
# Conservation of files and badges

Books are kept on the files and on the badges of an input: what an operation takes in, and what goes
out because it was removed, because a message with it arrived, or because the session changed. The
entries are read off what an operation reports and which calls it makes; that they balance is the
step lemma, and that the books of a run balance follows by induction. So nothing is lost and nothing
is sent twice.
-/

namespace Composer

/-! ## Ledgers -/

/-- What has become of an item that was taken in. -/
inductive Fate where
  | kept
  | removed
  | sent
  | reset
  deriving DecidableEq, Repr

/-- What was taken in, and what went out again in each of three ways, in order. -/
structure Ledger (α : Type) where
  taken : List α := []
  removed : List α := []
  sent : List α := []
  reset : List α := []

namespace Ledger

variable {α : Type}

/-- The entries of two ledgers, one after the other. -/
def append (first second : Ledger α) : Ledger α where
  taken := first.taken ++ second.taken
  removed := first.removed ++ second.removed
  sent := first.sent ++ second.sent
  reset := first.reset ++ second.reset

/-- All that went out. -/
def out (l : Ledger α) : Multiset α := (l.removed : Multiset α) + l.sent + l.reset

/-- The items of a fate, with those that are still there. -/
def items (l : Ledger α) (here : List α) : Fate → List α
  | .kept => here
  | .removed => l.removed
  | .sent => l.sent
  | .reset => l.reset

/-- What was there and what was taken in is what is there afterwards and what went out. -/
def Balances (l : Ledger α) (before after : List α) : Prop :=
  (before : Multiset α) + l.taken = after + l.out

theorem balances_empty (here : List α) : ({} : Ledger α).Balances here here := by
  simp [Balances, out]

theorem Balances.append {first second : Ledger α} {before between after : List α}
    (hfirst : first.Balances before between) (hsecond : second.Balances between after) :
    (first.append second).Balances before after := by
  have htaken : ((first.append second).taken : Multiset α) = first.taken + second.taken :=
    (Multiset.coe_add _ _).symm
  have hout : (first.append second).out = first.out + second.out := by
    simp only [out, Ledger.append, ← Multiset.coe_add]
    abel
  unfold Balances at *
  calc (before : Multiset α) + (first.append second).taken
      = (before + first.taken) + second.taken := by rw [htaken, add_assoc]
    _ = (between + first.out) + second.taken := by rw [hfirst]
    _ = (between + second.taken) + first.out := add_right_comm _ _ _
    _ = (after + second.out) + first.out := by rw [hsecond]
    _ = after + (first.append second).out := by rw [hout, add_assoc, add_comm second.out]

/-- In balanced books that start from nothing, an item that was taken in once has one fate. -/
theorem Balances.existsUnique_fate {l : Ledger α} {here : List α} (h : l.Balances [] here)
    (hnodup : l.taken.Nodup) {x : α} (hx : x ∈ l.taken) : ∃! fate, x ∈ l.items here fate := by
  classical
  have hsum : l.taken.count x =
      here.count x + (l.removed.count x + (l.sent.count x + l.reset.count x)) := by
    simpa [Balances, out] using congrArg (Multiset.count x) h
  have hone : l.taken.count x = 1 := List.count_eq_one_of_mem hnodup hx
  have hpos : ∀ fate, x ∈ l.items here fate ↔ 0 < (l.items here fate).count x :=
    fun _ => List.count_pos_iff.symm
  simp only [hpos]
  have hsome : ∃ fate, 0 < (l.items here fate).count x := by
    by_contra hnone
    have hzero : ∀ fate, (l.items here fate).count x = 0 := by
      intro fate
      exact Nat.eq_zero_of_not_pos fun hfate => hnone ⟨fate, hfate⟩
    have hkept := hzero .kept
    have hremoved := hzero .removed
    have hsent := hzero .sent
    have hreset := hzero .reset
    simp only [items] at hkept hremoved hsent hreset
    omega
  obtain ⟨fate, hfate⟩ := hsome
  refine ⟨fate, hfate, ?_⟩
  intro other hother
  -- two fates at once would make the sum two
  cases fate <;> cases other <;> simp only [items] at hfate hother
  all_goals first
    | rfl
    | omega

end Ledger

/-! ## What an operation reports -/

/-- The files that an operation offers to the input. -/
def Operation.offered : Operation → List Attachment
  | .paste (.files files) => files
  | .takeFiles files => files
  | _ => []

/-- The id of the badge that an operation takes out. -/
def Operation.unlinked? : Operation → Option String
  | .removeBadge id => some id
  | _ => none

namespace Reply

/-- How many files were new. -/
def added : Reply → Nat
  | .count n => n
  | .pasted (.filesAttached n) => n
  | _ => 0

/-- The file that was taken out. -/
def file? : Reply → Option Attachment
  | .file f => f
  | _ => none

/-- The badge of an artifact that was stored. -/
def badge? : Reply → Option Badge
  | .badge b => b
  | _ => none

/-- Whether the input was emptied because the session changed. -/
def resets : Reply → Bool
  | .session t => t.requiresReset
  | _ => false

/-- A reply that tells of no file, no badge and no change of session. -/
structure Quiet (r : Reply) : Prop where
  added : r.added = 0
  file : r.file? = none
  badge : r.badge? = none
  resets : r.resets = false

end Reply

/-- The messages that arrived, with their files. -/
def Session.arrived (s : Session) (calls : List Call) : List (String × List Attachment) :=
  (calls.filter fun c => (s.fault? c).isNone).filterMap Call.message?

/-- Without a message none arrives. -/
theorem Session.arrived_eq_nil (s : Session) {calls : List Call}
    (h : calls.filterMap Call.message? = []) : s.arrived calls = [] := by
  have hsub : (s.arrived calls).Sublist (calls.filterMap Call.message?) :=
    List.filter_sublist.filterMap Call.message?
  rw [h] at hsub
  exact List.sublist_nil.mp hsub

namespace MessageInput

/-! ## Entries -/

variable (m : MessageInput) (session : Session) (op : Operation)

/-- The files that an operation takes in: those offered that are new, while no response is in
progress. -/
def accepted : List Attachment :=
  if session.responding then [] else m.files.fresh op.offered

/-- What an operation does to the files. -/
def filesEntry : Ledger Attachment :=
  let reaction := m.perform session op
  { taken := m.accepted session op
    removed := reaction.result.file?.toList
    sent := (session.arrived reaction.calls).flatMap Prod.snd
    reset := if reaction.result.resets then m.files.files else [] }

/-- What an operation does to the badges. A message that arrives takes all badges along. -/
def badgesEntry : Ledger Badge :=
  let reaction := m.perform session op
  { taken := reaction.result.badge?.toList
    removed := m.badges.filter fun b => some b.id == op.unlinked?
    sent := (session.arrived reaction.calls).flatMap fun _ => m.badges
    reset := if reaction.result.resets then m.badges else [] }

/-- The books of a run. -/
def books {α : Type} (entry : MessageInput → Session → Operation → Ledger α) (m : MessageInput) :
    List (Operation × Session) → Ledger α
  | [] => {}
  | (op, session) :: rest =>
    (entry m session op).append ((m.perform session op).input.books entry rest)

/-! ## One operation -/

/-- What is right about the entries of an operation. -/
structure Accounted : Prop where
  counted : (m.perform session op).result.added = (m.accepted session op).length
  files : (m.filesEntry session op).Balances m.files.files (m.perform session op).input.files.files
  order : (m.perform session op).input.files.files.Sublist (m.files.files ++ m.accepted session op)
  badges : (m.badgesEntry session op).Balances m.badges (m.perform session op).input.badges

theorem accepted_eq_nil {op : Operation} (h : op.offered = []) : m.accepted session op = [] := by
  simp [accepted, h, Selection.fresh, Selection.unseen]

variable {m session op}

theorem unlinked_eq_nil (h : op.unlinked? = none) :
    (m.badges.filter fun b => some b.id == op.unlinked?) = [] := by
  simp [h]

/-- Whatever left went with messages that arrived. -/
structure OnlySends (session : Session) (m after : MessageInput) (calls : List Call) : Prop where
  files : (m.files.files : Multiset Attachment) =
    after.files.files + (session.arrived calls).flatMap Prod.snd
  order : after.files.files.Sublist m.files.files
  badges : (m.badges : Multiset Badge) =
    after.badges + (session.arrived calls).flatMap fun _ => m.badges

theorem onlySends_of_eq {after : MessageInput} {calls : List Call}
    (hcalls : calls.filterMap Call.message? = []) (hfiles : after.files = m.files)
    (hbadges : after.badges = m.badges) : OnlySends session m after calls := by
  have harrived := session.arrived_eq_nil hcalls
  refine ⟨?_, ?_, ?_⟩
  · simp [harrived, hfiles]
  · rw [hfiles]
  · simp [harrived, hbadges]

/-- A message that arrives takes all files and badges along, and any other takes none. -/
theorem onlySends_submit :
    OnlySends session m (m.submit session).input (m.submit session).calls := by
  rcases m.submit_cases session with ⟨-, heq⟩ | ⟨-, hok, heq⟩ | ⟨-, e, herror, heq⟩
  · rw [heq]
    exact onlySends_of_eq rfl rfl rfl
  · have harrived : session.arrived [.submit m.draft.message m.files.files] =
        [(m.draft.message, m.files.files)] := by
      simp [Session.arrived, Session.fault?, hok, Call.message?]
    rw [heq]
    refine ⟨?_, List.nil_sublist _, ?_⟩
    · simp [harrived, emptied, request, closeMenu]
    · simp [harrived, emptied, request, closeMenu]
  · have harrived : session.arrived
        [.submit m.draft.message m.files.files, failure "Failed to send message" e] = [] := by
      simp [Session.arrived, Session.fault?, herror, failure, Call.message?]
    rw [heq]
    refine ⟨?_, List.Sublist.refl _, ?_⟩
    · simp [harrived, request]
    · simp [harrived, request]

/-- Nothing else has to be entered for an operation that takes in no files, takes out no badge and
has a quiet reply. -/
theorem accounted_of_onlySends (haccepted : m.accepted session op = [])
    (hunlinked : op.unlinked? = none) (hreply : (m.perform session op).result.Quiet)
    (hsends : OnlySends session m (m.perform session op).input (m.perform session op).calls) :
    Accounted m session op := by
  refine ⟨?_, ?_, ?_, ?_⟩
  · rw [haccepted, hreply.added]
    rfl
  · simpa [Ledger.Balances, Ledger.out, filesEntry, haccepted, hreply.file, hreply.resets]
      using hsends.files
  · rw [haccepted, List.append_nil]
    exact hsends.order
  · simpa [Ledger.Balances, Ledger.out, badgesEntry, hreply.badge, unlinked_eq_nil hunlinked,
      hreply.resets] using hsends.badges

/-- Files that are merged are entered as far as they are new. -/
theorem accounted_of_merge {result : Reply} (hidle : session.responding = false)
    (hunlinked : op.unlinked? = none) (hadded : result.added = m.files.added op.offered)
    (hfile : result.file? = none) (hbadge : result.badge? = none) (hresets : result.resets = false)
    (heq : m.perform session op =
      { result, input := { m with files := m.files.merge op.offered } }) :
    Accounted m session op := by
  have haccepted : m.accepted session op = m.files.fresh op.offered := by simp [accepted, hidle]
  have hmerged : (m.perform session op).input.files.files =
      m.files.files ++ m.files.fresh op.offered := by
    rw [heq]
    exact m.files.files_merge op.offered
  refine ⟨?_, ?_, ?_, ?_⟩
  · rw [haccepted, heq, hadded, Selection.added_eq]
  · simp [Ledger.Balances, Ledger.out, filesEntry, haccepted, heq, Selection.files_merge, hfile,
      hresets, Session.arrived]
  · rw [haccepted, hmerged]
  · simp [Ledger.Balances, Ledger.out, badgesEntry, heq, hbadge, unlinked_eq_nil hunlinked, hresets,
      Session.arrived]

theorem accounted_takeFiles (incoming : List Attachment) :
    Accounted m session (.takeFiles incoming) := by
  rcases m.takeFiles_cases session incoming with ⟨hbusy, heq⟩ | ⟨hidle, heq⟩
  · refine accounted_of_onlySends (by simp [accepted, hbusy]) rfl ?_ ?_
    · simp only [perform, heq]
      exact ⟨rfl, rfl, rfl, rfl⟩
    · simp only [perform, heq]
      exact onlySends_of_eq rfl rfl rfl
  · exact accounted_of_merge hidle rfl rfl rfl rfl rfl (by simp only [perform, heq]; rfl)

theorem accounted_paste (clipboard : Clipboard) : Accounted m session (.paste clipboard) := by
  rcases m.paste_cases session clipboard with
    ⟨hbusy, heq⟩ | ⟨hidle, ⟨incoming, rfl, heq⟩ | ⟨text, rfl, hsize⟩⟩
  · refine accounted_of_onlySends (by simp [accepted, hbusy]) rfl ?_ ?_
    · simp only [perform, heq]
      exact ⟨rfl, rfl, rfl, rfl⟩
    · simp only [perform, heq]
      exact onlySends_of_eq rfl rfl rfl
  · exact accounted_of_merge hidle rfl rfl rfl rfl rfl (by simp only [perform, heq]; rfl)
  · refine accounted_of_onlySends (m.accepted_eq_nil session rfl) rfl ?_ ?_
    · rcases hsize with ⟨-, heq⟩ | ⟨-, -, heq⟩ | ⟨-, -, heq⟩
      all_goals
        simp only [perform, heq]
        exact ⟨rfl, rfl, rfl, rfl⟩
    · rcases hsize with ⟨-, heq⟩ | ⟨-, -, heq⟩ | ⟨-, -, heq⟩
      all_goals
        simp only [perform, heq]
        exact onlySends_of_eq rfl rfl rfl

/-- What is taken out at a position and what stays make up the whole. -/
theorem toList_append_eraseIdx_perm (files : List Attachment) (index : Nat) :
    ((files[index]?).toList ++ files.eraseIdx index).Perm files := by
  by_cases hindex : index < files.length
  · rw [List.getElem?_eq_getElem hindex]
    exact List.getElem_cons_eraseIdx_perm hindex
  · have hbehind : files.length ≤ index := Nat.le_of_not_lt hindex
    rw [List.getElem?_eq_none hbehind, List.eraseIdx_of_length_le hbehind]
    exact List.Perm.refl _

theorem accounted_removeFile (index : Nat) : Accounted m session (.removeFile index) := by
  have haccepted : m.accepted session (.removeFile index) = [] := m.accepted_eq_nil session rfl
  have hsplit := toList_append_eraseIdx_perm m.files.files index
  refine ⟨?_, ?_, ?_, ?_⟩
  · rw [haccepted]
    rfl
  · simpa [Ledger.Balances, Ledger.out, filesEntry, haccepted, perform, removeFile,
      Selection.remove, Reply.file?, Reply.resets, Session.arrived]
      using hsplit.symm.trans List.perm_append_comm
  · rw [haccepted, List.append_nil]
    exact List.eraseIdx_sublist _ _
  · simp [Ledger.Balances, Ledger.out, badgesEntry, perform, removeFile, Operation.unlinked?,
      Reply.badge?, Reply.resets, Session.arrived]

theorem accounted_removeBadge (id : String) : Accounted m session (.removeBadge id) := by
  have haccepted : m.accepted session (.removeBadge id) = [] := m.accepted_eq_nil session rfl
  refine ⟨?_, ?_, ?_, ?_⟩
  · rw [haccepted]
    rfl
  · simp [Ledger.Balances, Ledger.out, filesEntry, haccepted, perform, removeBadge, Reply.file?,
      Reply.resets, Session.arrived]
  · rw [haccepted, List.append_nil]
    exact List.Sublist.refl _
  · have hsplit := List.filter_append_perm (fun b => b.id == id) m.badges
    simpa [Ledger.Balances, Ledger.out, badgesEntry, perform, removeBadge, Operation.unlinked?,
      Reply.badge?, Reply.resets, Session.arrived, bne]
      using hsplit.symm.trans List.perm_append_comm

theorem accounted_savePaste (title : String) (choice : MimeChoice) (description : Option String) :
    Accounted m session (.savePaste title choice description) := by
  have haccepted : m.accepted session (.savePaste title choice description) = [] :=
    m.accepted_eq_nil session rfl
  rcases m.savePaste_cases session title choice description with
    ⟨-, heq⟩ | ⟨content, -, ⟨artifact, -, heq⟩ | ⟨e, -, heq⟩⟩
  · refine accounted_of_onlySends haccepted rfl ?_ ?_
    · simp only [perform, heq]
      exact ⟨rfl, rfl, rfl, rfl⟩
    · simp only [perform, heq]
      exact onlySends_of_eq rfl rfl rfl
  · have harrived : session.arrived
        [.upload (.ofPaste title choice description content) session.id, .refresh] = [] :=
      session.arrived_eq_nil rfl
    refine ⟨?_, ?_, ?_, ?_⟩
    · rw [haccepted]
      simp [perform, heq, Reply.added]
    · simp [Ledger.Balances, Ledger.out, filesEntry, haccepted, harrived, perform, heq, Reply.file?,
        Reply.resets, request]
    · rw [haccepted, List.append_nil]
      simp [perform, heq, request]
    · simp [Ledger.Balances, Ledger.out, badgesEntry, harrived, perform, heq, Operation.unlinked?,
        Reply.badge?, Reply.resets, request]
      rfl
  · refine accounted_of_onlySends haccepted rfl ?_ ?_
    · simp only [perform, heq]
      exact ⟨rfl, rfl, rfl, rfl⟩
    · simp only [perform, heq]
      exact onlySends_of_eq rfl rfl rfl

theorem accounted_cancelResponse : Accounted m session .cancelResponse := by
  refine accounted_of_onlySends (m.accepted_eq_nil session rfl) rfl ⟨rfl, rfl, rfl, rfl⟩ ?_
  rcases m.cancelResponse_cases session with ⟨-, heq⟩ | ⟨-, -, heq⟩ | ⟨-, e, -, heq⟩
  all_goals
    simp only [perform, heq]
    exact onlySends_of_eq rfl rfl rfl

theorem accounted_selectPrompt (group : PromptGroup) :
    Accounted m session (.selectPrompt group) := by
  refine accounted_of_onlySends (m.accepted_eq_nil session rfl) rfl ⟨rfl, rfl, rfl, rfl⟩ ?_
  rcases m.selectPrompt_cases group with ⟨-, heq⟩ | ⟨-, ⟨-, heq⟩ | ⟨-, heq⟩⟩
  all_goals
    simp only [perform, heq]
    exact onlySends_of_eq rfl rfl rfl

theorem accounted_submitVariables (values : VariableValues) :
    Accounted m session (.submitVariables values) := by
  refine accounted_of_onlySends (m.accepted_eq_nil session rfl) rfl ⟨rfl, rfl, rfl, rfl⟩ ?_
  rcases m.submitVariables_cases values with ⟨-, heq⟩ | ⟨dialog, -, ⟨-, heq⟩ | ⟨-, heq⟩⟩
  all_goals
    simp only [perform, heq]
    exact onlySends_of_eq rfl rfl rfl

theorem accounted_applyPending (pending : Option PendingPrompt) :
    Accounted m session (.applyPending pending) := by
  refine accounted_of_onlySends (m.accepted_eq_nil session rfl) rfl ⟨rfl, rfl, rfl, rfl⟩ ?_
  rcases m.applyPending_cases pending with
    ⟨-, heq⟩ | ⟨p, -, ⟨-, heq⟩ | ⟨-, -, heq⟩ | ⟨-, -, heq⟩⟩
  all_goals
    simp only [perform, heq]
    exact onlySends_of_eq rfl rfl rfl

theorem accounted_observeSession (id : Option String) :
    Accounted m session (.observeSession id) := by
  have haccepted : m.accepted session (.observeSession id) = [] := m.accepted_eq_nil session rfl
  rcases m.observeSession_cases id with ⟨hreset, heq⟩ | ⟨hreset, heq⟩
  · refine ⟨?_, ?_, ?_, ?_⟩
    · rw [haccepted]
      rfl
    · simp [Ledger.Balances, Ledger.out, filesEntry, haccepted, perform, heq, hreset, Reply.file?,
        Reply.resets, Session.arrived]
    · simp [perform, heq]
    · simp [Ledger.Balances, Ledger.out, badgesEntry, perform, heq, hreset, Operation.unlinked?,
        Reply.badge?, Reply.resets, Session.arrived]
  · refine accounted_of_onlySends haccepted rfl ?_ ?_
    · simp only [perform, heq]
      exact ⟨rfl, rfl, rfl, hreset⟩
    · simp only [perform, heq]
      exact onlySends_of_eq rfl rfl rfl

theorem accounted_handleSignal (signal : Signal) : Accounted m session (.handleSignal signal) := by
  refine accounted_of_onlySends (m.accepted_eq_nil session rfl) rfl ⟨rfl, rfl, rfl, rfl⟩ ?_
  cases signal with
  | focusInput => exact onlySends_of_eq rfl rfl rfl
  | followUp selected question autoSubmit =>
    simp only [perform, handleSignal_followUp]
    split
    · -- the question changes the draft alone, so files and badges leave as in a submit
      have hasked : OnlySends session (m.asking selected question) _ _ := onlySends_submit
      exact ⟨hasked.files, hasked.order, hasked.badges⟩
    · exact onlySends_of_eq rfl rfl rfl

theorem accounted_transcribe (speech : String) : Accounted m session (.transcribe speech) := by
  refine accounted_of_onlySends (m.accepted_eq_nil session rfl) rfl ⟨rfl, rfl, rfl, rfl⟩ ?_
  simp only [perform, transcribe, request]
  exact onlySends_of_eq rfl rfl rfl

theorem accounted_discardPaste : Accounted m session .discardPaste := by
  refine accounted_of_onlySends (m.accepted_eq_nil session rfl) rfl ⟨rfl, rfl, rfl, rfl⟩ ?_
  simp only [perform, discardPaste]
  split <;> exact onlySends_of_eq rfl rfl rfl

theorem accounted_observeResponding (responding : Bool) :
    Accounted m session (.observeResponding responding) := by
  refine accounted_of_onlySends (m.accepted_eq_nil session rfl) rfl ⟨rfl, rfl, rfl, rfl⟩ ?_
  simp only [perform, observeResponding]
  split <;> exact onlySends_of_eq rfl rfl rfl

theorem accounted_cancelVariables : Accounted m session .cancelVariables := by
  refine accounted_of_onlySends (m.accepted_eq_nil session rfl) rfl ⟨rfl, rfl, rfl, rfl⟩ ?_
  simp only [perform, cancelVariables]
  split <;> exact onlySends_of_eq rfl rfl rfl

/-- The step lemma. -/
theorem accounted_perform (m : MessageInput) (session : Session) (op : Operation) :
    Accounted m session op := by
  cases op with
  | transcribe speech => exact accounted_transcribe speech
  | paste clipboard => exact accounted_paste clipboard
  | takeFiles files => exact accounted_takeFiles files
  | removeFile index => exact accounted_removeFile index
  | removeBadge id => exact accounted_removeBadge id
  | savePaste title choice description => exact accounted_savePaste title choice description
  | submit =>
    exact accounted_of_onlySends (m.accepted_eq_nil session rfl) rfl ⟨rfl, rfl, rfl, rfl⟩
      onlySends_submit
  | cancelResponse => exact accounted_cancelResponse
  | selectPrompt group => exact accounted_selectPrompt group
  | submitVariables values => exact accounted_submitVariables values
  | applyPending pending => exact accounted_applyPending pending
  | observeSession id => exact accounted_observeSession id
  | handleSignal signal => exact accounted_handleSignal signal
  | discardPaste => exact accounted_discardPaste
  | observeResponding responding => exact accounted_observeResponding responding
  | cancelVariables => exact accounted_cancelVariables
  | runReserved command transcript =>
    cases command with
    | createTemplate =>
      exact accounted_of_onlySends (m.accepted_eq_nil session rfl) rfl ⟨rfl, rfl, rfl, rfl⟩
        (onlySends_of_eq rfl rfl rfl)
  | _ =>
    exact accounted_of_onlySends (m.accepted_eq_nil session rfl) rfl ⟨rfl, rfl, rfl, rfl⟩
      (onlySends_of_eq rfl rfl rfl)

/-! ## Runs -/

theorem nodup_accepted : (m.accepted session op).Nodup := by
  unfold accepted
  split
  · exact List.nodup_nil
  · exact m.files.nodup_fresh op.offered

theorem disjoint_accepted : m.files.files.Disjoint (m.accepted session op) := by
  unfold accepted
  split
  · exact List.disjoint_nil_right _
  · exact m.files.disjoint_fresh op.offered

/-- New items go behind those that are in the order of their last arrival. -/
theorem append_sublist_dedup {here arrived new : List Attachment}
    (hhere : here.Sublist arrived.dedup) (hdisjoint : here.Disjoint new) (hnew : new.Nodup) :
    (here ++ new).Sublist (arrived ++ new).dedup := by
  induction arrived generalizing here with
  | nil =>
    rw [List.dedup_nil, List.sublist_nil] at hhere
    rw [hhere, List.nil_append, hnew.dedup]
  | cons f arrived ih =>
    rw [List.cons_append]
    have hlonger : (arrived ++ new).dedup.Sublist (f :: (arrived ++ new)).dedup := by
      by_cases hmem : f ∈ arrived ++ new
      · rw [List.dedup_cons_of_mem hmem]
      · rw [List.dedup_cons_of_notMem hmem]
        exact List.sublist_cons_self f _
    -- an item that arrives again later counts at its last arrival only
    by_cases hagain : f ∈ arrived
    · rw [List.dedup_cons_of_mem hagain] at hhere
      exact (ih hhere hdisjoint).trans hlonger
    · rw [List.dedup_cons_of_notMem hagain] at hhere
      cases hhere with
      | cons _ hhere => exact (ih hhere hdisjoint).trans hlonger
      | cons_cons _ hhere =>
        obtain ⟨hf, hrest⟩ := List.disjoint_cons_left.mp hdisjoint
        have hmem : f ∉ arrived ++ new := by
          rw [List.mem_append]
          exact fun hmem => hmem.elim hagain hf
        rw [List.dedup_cons_of_notMem hmem, List.cons_append]
        exact (ih hhere hrest).cons_cons f

theorem sum_added_run (m : MessageInput) (ops : List (Operation × Session)) :
    ((m.run ops).map fun reaction => reaction.result.added).sum =
      (m.books filesEntry ops).taken.length := by
  induction ops generalizing m with
  | nil => rfl
  | cons step ops ih =>
    obtain ⟨op, session⟩ := step
    have hcounted := (accounted_perform m session op).counted
    have hrest := ih (m.perform session op).input
    simp only [run, books, Ledger.append, List.map_cons, List.sum_cons, List.length_append, hrest,
      hcounted, filesEntry]

/-- If every operation balances the books of some stock, a run does. -/
theorem balances_books {α : Type} {entry : MessageInput → Session → Operation → Ledger α}
    (stock : MessageInput → List α)
    (hstep : ∀ m session op,
      (entry m session op).Balances (stock m) (stock (m.perform session op).input))
    (m : MessageInput) (ops : List (Operation × Session)) :
    (m.books entry ops).Balances (stock m) (stock (m.after ops)) := by
  induction ops generalizing m with
  | nil => exact Ledger.balances_empty _
  | cons step ops ih =>
    obtain ⟨op, session⟩ := step
    exact (hstep m session op).append (ih _)

/-- The run lemma for the order: what was taken in before is put in front of what a run takes in. -/
theorem files_sublist_dedup (m : MessageInput) (ops : List (Operation × Session))
    {before : List Attachment} (h : m.files.files.Sublist before.dedup) :
    (m.after ops).files.files.Sublist (before ++ (m.books filesEntry ops).taken).dedup := by
  induction ops generalizing m before with
  | nil =>
    rw [books, List.append_nil]
    exact h
  | cons step ops ih =>
    obtain ⟨op, session⟩ := step
    have hnext := (accounted_perform m session op).order.trans
      (append_sublist_dedup h disjoint_accepted nodup_accepted)
    have hrest := ih (m.perform session op).input hnext
    rw [List.append_assoc] at hrest
    exact hrest

/-- Whatever an input is put through and however its session answers, nothing is lost, nothing is
sent twice, and the selection is in the order in which its files were taken in last. -/
theorem attachments_conserved (classifier : PasteClassifier) (first : Session)
    (ops : List (Operation × Session)) :
    let start := MessageInput.start classifier first
    let m := start.after ops
    let files := start.books filesEntry ops
    let badges := start.books badgesEntry ops
    ((start.run ops).map fun reaction => reaction.result.added).sum = files.taken.length ∧
    (files.taken : Multiset Attachment) =
      m.files.files + (files.removed + files.sent + files.reset) ∧
    m.files.files.Sublist files.taken.dedup ∧
    (badges.taken : Multiset Badge) = m.badges + (badges.removed + badges.sent + badges.reset) ∧
    ((badges.taken.map Badge.id).Nodup →
      ∀ b ∈ badges.taken, ∃! fate, b ∈ badges.items m.badges fate) := by
  intro start m files badges
  have hfiles : files.Balances [] m.files.files :=
    balances_books (fun m => m.files.files)
      (fun m session op => (accounted_perform m session op).files) start ops
  have hbadges : badges.Balances [] m.badges :=
    balances_books MessageInput.badges
      (fun m session op => (accounted_perform m session op).badges) start ops
  refine ⟨sum_added_run start ops, ?_, ?_, ?_, ?_⟩
  · simpa [Ledger.Balances, Ledger.out] using hfiles
  · have hempty : start.files.files.Sublist ([] : List Attachment).dedup := List.nil_sublist _
    exact files_sublist_dedup start ops hempty
  · simpa [Ledger.Balances, Ledger.out] using hbadges
  · intro hids b hb
    exact hbadges.existsUnique_fate (hids.of_map Badge.id) hb

/-- A paste is stored, and its badge goes out with the next message. -/
def storedAndSent : List (Operation × Session) :=
  [(.paste (.text "x"), .idle), (.savePaste "notes" .auto none, .idle),
    (.changeText "hi" 2, .idle), (.submit, .idle)]

theorem stored_paste_has_one_fate :
    let start := MessageInput.start { charThreshold := 1 } .idle
    let badges := start.books badgesEntry storedAndSent
    badges.sent.length = 1 ∧ (badges.taken.map Badge.id).Nodup ∧
      ∀ b ∈ badges.taken, ∃! fate, b ∈ badges.items (start.after storedAndSent).badges fate := by
  have hids : (((MessageInput.start { charThreshold := 1 } .idle).books badgesEntry
      storedAndSent).taken.map Badge.id).Nodup := by
    decide +kernel
  obtain ⟨-, -, -, -, hfates⟩ :=
    attachments_conserved { charThreshold := 1 } .idle storedAndSent
  exact ⟨by decide +kernel, hids, hfates hids⟩

end MessageInput

end Composer
