import Composer.Proofs.Terminal.Transcript
set_option autoImplicit false

/-!
# The authoring of templates

The reserved command hands over the transcript as it is. A switch to another session empties the
input but not the transcript, so what is handed over is the conversation of the active session
exactly if nothing that was recorded was said in another one.
-/

namespace Composer

/-! ## The joined transcript -/

/-- The lines of what was said as one text, if there is any. -/
def transcriptOf (said : List Utterance) : Option String :=
  let text := "\n".intercalate (said.map Utterance.line)
  if text.isEmpty then none else some text

namespace Utterance

theorem length_line_pos (u : Utterance) : 0 < u.line.length := by
  unfold line
  split
  · rw [String.length_append]
    exact Nat.add_pos_left (by decide) _
  · rw [String.length_append]
    exact Nat.add_pos_left (by decide) _

/-- How long the lines are, with the end of each. -/
def size : List Utterance → Nat
  | [] => 0
  | u :: said => u.line.length + 1 + size said

theorem length_joined {said : List Utterance} (h : said ≠ []) :
    ("\n".intercalate (said.map line)).length + 1 = size said := by
  induction said with
  | nil => exact absurd rfl h
  | cons u said ih =>
    cases said with
    | nil => simp [size]
    | cons v said =>
      have hrest := ih (List.cons_ne_nil v said)
      rw [List.map_cons, String.intercalate_cons_of_ne_nil (by simp), String.length_append,
        String.length_append]
      have hend : "\n".length = 1 := rfl
      have hsize : size (u :: v :: said) = u.line.length + 1 + size (v :: said) := rfl
      omega

/-- Leaving something out makes the lines shorter. -/
theorem size_of_sublist {here kept : List Utterance} (h : here.Sublist kept) :
    size here ≤ size kept ∧ (size here = size kept → here = kept) := by
  induction h with
  | slnil => exact ⟨Nat.le_refl _, fun _ => rfl⟩
  | @cons here kept u hsub ih =>
    have hcons : size (u :: kept) = u.line.length + 1 + size kept := rfl
    exact ⟨by omega, fun heq => absurd heq (by omega)⟩
  | @cons_cons here kept u hsub ih =>
    have hhere : size (u :: here) = u.line.length + 1 + size here := rfl
    have hkept : size (u :: kept) = u.line.length + 1 + size kept := rfl
    exact ⟨by omega, fun heq => by rw [ih.2 (by omega)]⟩

end Utterance

theorem transcriptOf_of_ne_nil {said : List Utterance} (h : said ≠ []) :
    transcriptOf said = some ("\n".intercalate (said.map Utterance.line)) := by
  have hjoined := Utterance.length_joined h
  have hsize : 1 < Utterance.size said := by
    cases said with
    | nil => exact absurd rfl h
    | cons u said =>
      have hcons : Utterance.size (u :: said) = u.line.length + 1 + Utterance.size said := rfl
      have hline := u.length_line_pos
      omega
  have hempty : ("\n".intercalate (said.map Utterance.line)).isEmpty = false := by
    rw [Bool.eq_false_iff, ne_eq, String.isEmpty_iff]
    intro htext
    rw [htext, String.length_empty] at hjoined
    omega
  simp only [transcriptOf, hempty]
  rfl

/-- The transcript of a part of what was said is that of the whole only if nothing is left out. -/
theorem transcriptOf_inj_of_sublist {here kept : List Utterance} (h : here.Sublist kept) :
    transcriptOf kept = transcriptOf here ↔ here = kept := by
  refine ⟨?_, fun heq => by rw [heq]⟩
  intro hsame
  by_cases hkept : kept = []
  · rw [hkept] at h
    rw [hkept, List.sublist_nil.mp h]
  · rw [transcriptOf_of_ne_nil hkept] at hsame
    by_cases hhere : here = []
    · rw [hhere] at hsame
      exact absurd hsame (by simp [transcriptOf])
    · rw [transcriptOf_of_ne_nil hhere] at hsame
      have hlength := congrArg String.length (Option.some.inj hsame)
      have hwhole := Utterance.length_joined hkept
      have hpart := Utterance.length_joined hhere
      exact (Utterance.size_of_sublist h).2 (by omega)

/-! ## What the log tells about the reserved command -/

namespace Terminal

/-- Whether an entry, if it is about a reserved command, hands over this transcript and no other. -/
def LogEntry.HandsOver (handed : Option String) (e : LogEntry) : Prop :=
  ∀ command given, e.op = .runReserved command given →
    e.calls = [.navigate (authoringInstruction given)] ∧ given = handed

namespace Repl

variable {handed : Option String} {r r' r'' : Repl}

/-- Between two states only this transcript was handed over. -/
def HandsOver (handed : Option String) (r r' : Repl) : Prop :=
  ∃ done, r'.log = r.log ++ done ∧ ∀ e ∈ done, e.HandsOver handed

namespace HandsOver

theorem of_log_eq (h : r'.log = r.log) : HandsOver handed r r' :=
  ⟨[], by rw [h, List.append_nil], by simp⟩

theorem trans (hfirst : HandsOver handed r r') (hsecond : HandsOver handed r' r'') :
    HandsOver handed r r'' := by
  obtain ⟨first, hlog, hall⟩ := hfirst
  obtain ⟨second, hlog', hall'⟩ := hsecond
  refine ⟨first ++ second, by rw [hlog', hlog, List.append_assoc], ?_⟩
  intro e he
  rcases List.mem_append.mp he with he | he
  · exact hall e he
  · exact hall' e he

theorem perform {op : Operation} (h : ∀ command given, op ≠ .runReserved command given) :
    HandsOver handed r (r.perform op).repl := by
  refine ⟨[{ op, calls := (r.input.perform r.session op).calls }], rfl, ?_⟩
  intro e he command given hop
  obtain rfl := List.mem_singleton.mp he
  exact absurd hop (h command given)

theorem performAll {ops : List Operation}
    (h : ∀ op ∈ ops, ∀ command given, op ≠ .runReserved command given) :
    HandsOver handed r (r.performAll ops).repl := by
  induction ops generalizing r with
  | nil => exact of_log_eq rfl
  | cons op ops ih =>
    obtain ⟨hop, hops⟩ := List.forall_mem_cons.mp h
    exact (perform hop).trans (ih hops)

/-- The reserved command hands over what it is given. -/
theorem runReserved (command : ReservedCommand) :
    HandsOver handed r (r.perform (.runReserved command handed)).repl := by
  refine ⟨_, rfl, ?_⟩
  intro e he command' given hop
  obtain rfl := List.mem_singleton.mp he
  obtain ⟨rfl, rfl⟩ := Operation.runReserved.inj hop
  cases command with
  | createTemplate => exact ⟨rfl, rfl⟩

theorem handleEvents (events : List BackendEvent) :
    HandsOver handed r (r.handleEvents events).repl := by
  induction events generalizing r with
  | nil => exact of_log_eq rfl
  | cons e events ih =>
    have hfirst : HandsOver handed r (r.handleEvent e).repl := by
      cases e with
      | responding isResponding => exact perform (by simp)
      | sessionAssigned id => exact perform (by simp)
      | _ => exact of_log_eq rfl
    exact hfirst.trans ih

theorem pump : HandsOver handed r r.pump.repl := by
  have hevents : ∀ r : Repl, HandsOver handed r r.drainEvents.repl := by
    intro r
    have htaken : HandsOver handed r { r with backend := r.backend.takeEvents.2 } :=
      of_log_eq rfl
    exact htaken.trans (handleEvents _)
  have hsignals : ∀ r : Repl, HandsOver handed r r.drainSignals.repl := by
    intro r
    have hbus : ∀ bus, HandsOver handed r { r with bus } := fun _ => of_log_eq rfl
    refine (hbus _).trans (performAll ?_)
    intro op hop
    obtain ⟨signal, -, rfl⟩ := List.mem_map.mp hop
    simp
  have heffects : ∀ r : Repl, HandsOver handed r r.drainEffects.repl := fun _ => of_log_eq rfl
  exact (((hevents r).trans (hsignals _)).trans (hevents _)).trans (heffects _)

theorem send : HandsOver handed r r.send.repl := by
  rcases r.send_cases with heq | ⟨-, heq⟩ | ⟨-, heq⟩
  · rw [heq]
    exact of_log_eq rfl
  · rw [heq]
    have hsubmit : HandsOver handed r (r.perform .submit).repl := perform (by simp)
    exact hsubmit.trans (of_log_eq rfl)
  · rw [heq]
    exact perform (by simp)

/-- A line hands over the transcript as it is, if it hands over any. -/
theorem move (hmove : Move r r') : HandsOver r.conversation? r r' := by
  have hplain : ∀ {ops : List Operation}, (∀ op ∈ ops, op.isPlain = true) →
      HandsOver r.conversation? r (r.performAll ops).repl := by
    intro ops hops
    refine performAll ?_
    rintro op hop command given rfl
    exact absurd (hops _ hop) (by simp [Operation.isPlain])
  have hedits : ∀ {ops : List Operation}, (∀ op ∈ ops, op.isEdit = true) →
      HandsOver r.conversation? r (r.performAll ops).repl :=
    fun hops => hplain fun op hop => Operation.isPlain_of_isEdit (hops op hop)
  cases hmove with
  | plain ops hops => exact hplain hops
  | switch id hid => exact perform (r := { r with backend := r.backend.setSession id }) (by simp)
  | publish signal => exact of_log_eq rfl
  | author ops hops command => exact (hedits hops).trans (runReserved command)
  | send ops hops => exact (hedits hops).trans send

end HandsOver
end Repl

namespace Program

open Repl

variable {p : Program} {r : Repl}

theorem handsOver_answer {handed : Option String} (answers : VariableValues) :
    HandsOver handed r (answer r answers).repl :=
  .perform (by simp)

theorem handsOver_await {handed : Option String} : HandsOver handed r (await r).1.repl := by
  rcases await_cases r with heq | ⟨answers, heq⟩
  · rw [heq]
    exact .pump
  · rw [heq]
    exact HandsOver.pump.trans (handsOver_answer answers)

theorem handsOver_takeAnswer {handed : Option String} (q : Questions) (line : String) :
    HandsOver handed p.repl (p.takeAnswer q line).1.repl := by
  rcases p.takeAnswer_cases q line with heq | heq | ⟨answers, heq⟩
  · rw [heq]
    exact .of_log_eq rfl
  · rw [heq]
    exact handsOver_await
  · rw [heq]
    exact (handsOver_answer answers).trans handsOver_await

theorem handsOver_takeLine (line : String) :
    HandsOver p.repl.conversation? p.repl (p.takeLine line).1.repl := by
  have hhandled : HandsOver p.repl.conversation? p.repl
      (p.repl.handleLine p.repl.input.draft.text line).repl := by
    rcases p.repl.handled_handleLine p.repl.input.draft.text line with ⟨-, heq⟩ | ⟨-, hmove⟩
    · rw [heq]
      exact .of_log_eq rfl
    · exact .move hmove
  rcases p.takeLine_cases line with heq | ⟨-, heq⟩
  · rw [heq]
    exact hhandled.trans handsOver_await
  · rw [heq]
    exact hhandled

theorem handsOver_feed (line : String) :
    HandsOver p.repl.conversation? p.repl (p.feed line).1.repl := by
  unfold feed
  split
  · exact .of_log_eq rfl
  · split
    · exact handsOver_takeAnswer _ line
    · exact handsOver_takeLine line

/-- Whatever lines were read and however the server answered, the next line hands over the whole
transcript if it runs the reserved command; what is handed over was said in the active session alone
exactly if nothing was recorded in another one. -/
theorem authoring_isolated_iff (c : Config) (a : Arguments) (server : Server) (disk : Disk)
    (clock : Instant) (lines : List String) (line : String) :
    let p := ((start c a server disk clock).1.feedAll lines).1
    let kept := (said c a server disk clock lines).filter fun u => u.speaker != .asker
    let here := kept.filter fun u => some u.session == p.repl.backend.sessionId
    ∃ done, (p.feed line).1.repl.log = p.repl.log ++ done ∧
      ∀ e ∈ done, ∀ command handed, e.op = .runReserved command handed →
        e.calls = [.navigate (authoringInstruction handed)] ∧ handed = transcriptOf kept ∧
        (handed = transcriptOf here ↔ ∀ u ∈ kept, some u.session = p.repl.backend.sessionId) := by
  intro p kept here
  obtain ⟨done, hlog, hall⟩ := handsOver_feed (p := p) line
  refine ⟨done, hlog, ?_⟩
  intro e he command handed hop
  obtain ⟨hcalls, hhanded⟩ := hall e he command handed hop
  have hwhole : handed = transcriptOf kept := by
    have htranscript : p.repl.transcript = kept.map Utterance.line :=
      transcript_feedAll c a server disk clock lines
    rw [hhanded, conversation?, htranscript]
    rfl
  refine ⟨hcalls, hwhole, ?_⟩
  rw [hwhole, transcriptOf_inj_of_sublist List.filter_sublist, List.filter_eq_self]
  simp

/-- What is said in one session is handed over in another one. -/
theorem transcript_kept_across_sessions :
    let p := localRun ["hi", ":session t"]
    p.repl.backend.sessionId = some "t" ∧
    localSaid ["hi", ":session t"] = [{ speaker := .typist, session := "s", text := "hi" }] ∧
    ((p.feed "/create-template").1.repl.log.getLast?.map LogEntry.calls) =
      some [.navigate (authoringInstruction (some "user: hi"))] := by
  decide +kernel

end Program
end Terminal
end Composer
