import Composer.Proofs.MessageInput.Conservation
set_option autoImplicit false

/-!
# Batches of files

Files come in batches, from a picker, a paste or a drop. How they are divided into batches does not
matter: the selection holds the first file of each key among all that were ever offered, and the
counts that the merges return tell how far it grew. Which keys it holds does not even depend on the
order of the files.
-/

namespace Composer

namespace Selection

/-! ## First files -/

/-- The first file of each key, in order. -/
def firsts (files : List Attachment) : List Attachment :=
  files.eraseDupsBy fun later first => later.key == first.key

theorem firsts_cons (f : Attachment) (files : List Attachment) :
    firsts (f :: files) = f :: firsts (files.filter fun later => later.key ≠ f.key) := by
  rw [firsts, List.eraseDupsBy_cons, firsts]
  congr 2
  exact List.filter_congr fun later _ => by simp

/-- The files whose keys were not seen before are the first ones among those that are new. -/
theorem unseen_eq_firsts (seen : List FileKey) (incoming : List Attachment) :
    unseen seen incoming = firsts (incoming.filter fun f => f.key ∉ seen) := by
  induction incoming generalizing seen with
  | nil => rfl
  | cons f incoming ih =>
    by_cases hseen : f.key ∈ seen
    · rw [unseen, if_pos hseen, ih, List.filter_cons_of_neg (by simpa using hseen)]
    · rw [unseen, if_neg hseen, ih, List.filter_cons_of_pos (by simpa using hseen), firsts_cons,
        List.filter_filter]
      congr 2
      exact List.filter_congr fun later _ => by simp [Bool.and_comm]

/-- Behind files with keys of their own come the first ones among those that are new. -/
theorem firsts_append {files : List Attachment} (h : (files.map Attachment.key).Nodup)
    (incoming : List Attachment) :
    firsts (files ++ incoming) =
      files ++ firsts (incoming.filter fun f => f.key ∉ files.map Attachment.key) := by
  induction files generalizing incoming with
  | nil => simp
  | cons f files ih =>
    obtain ⟨hnew, hrest⟩ := List.nodup_cons.mp h
    have hothers : (files.filter fun later => later.key ≠ f.key) = files := by
      rw [List.filter_eq_self]
      intro later hlater
      have hne : later.key ≠ f.key := fun heq => hnew (heq ▸ List.mem_map_of_mem hlater)
      simpa using hne
    rw [List.cons_append, firsts_cons, List.filter_append, hothers, ih hrest, List.filter_filter,
      List.cons_append]
    congr 3
    exact List.filter_congr fun later _ => by simp [Bool.and_comm]

/-- A merge leaves the first file of each key. -/
theorem files_merge_eq_firsts {s : Selection} (h : (s.files.map Attachment.key).Nodup)
    (incoming : List Attachment) : (s.merge incoming).files = firsts (s.files ++ incoming) := by
  rw [files_merge, fresh, unseen_eq_firsts, firsts_append h]

/-! ## Keys and counts of a merge -/

theorem mem_keys_add {s : Selection} {f : Attachment} {key : FileKey} :
    key ∈ (s.add f).files.map Attachment.key ↔
      key ∈ s.files.map Attachment.key ∨ key = f.key := by
  unfold add
  split
  · rename_i hselected
    have hmem := has_iff.mp hselected
    exact ⟨.inl, fun h => h.elim id fun heq => heq ▸ hmem⟩
  · simp

/-- The keys after a merge are those that were there and those that were offered. -/
theorem mem_keys_merge {s : Selection} {incoming : List Attachment} {key : FileKey} :
    key ∈ (s.merge incoming).files.map Attachment.key ↔
      key ∈ s.files.map Attachment.key ∨ key ∈ incoming.map Attachment.key := by
  induction incoming generalizing s with
  | nil => simp [merge]
  | cons f incoming ih =>
    have hstep : s.merge (f :: incoming) = (s.add f).merge incoming := rfl
    rw [hstep, ih, mem_keys_add, List.map_cons, List.mem_cons, or_assoc]

theorem added_le_length (s : Selection) (incoming : List Attachment) :
    s.added incoming ≤ incoming.length := by
  induction incoming generalizing s with
  | nil => exact Nat.le_refl 0
  | cons f incoming ih =>
    have hrest := ih (s.add f)
    rw [added, List.length_cons]
    split <;> omega

/-! ## Batches -/

/-- Merges batches one after another. -/
def mergeAll (s : Selection) (batches : List (List Attachment)) : Selection :=
  batches.foldl merge s

/-- What the merges of batches return, one after another. -/
def counts (s : Selection) : List (List Attachment) → List Nat
  | [] => []
  | batch :: batches => s.added batch :: (s.merge batch).counts batches

/-- A division into batches makes no difference. -/
theorem merge_flatten (s : Selection) (batches : List (List Attachment)) :
    s.merge batches.flatten = s.mergeAll batches := by
  induction batches generalizing s with
  | nil => rfl
  | cons batch batches ih =>
    calc s.merge (batch ++ batches.flatten)
        = (s.merge batch).merge batches.flatten := List.foldl_append
      _ = (s.merge batch).mergeAll batches := ih _

theorem sum_counts (s : Selection) (batches : List (List Attachment)) :
    s.files.length + (s.counts batches).sum = (s.mergeAll batches).files.length := by
  induction batches generalizing s with
  | nil => rfl
  | cons batch batches ih =>
    have hrest := ih (s.merge batch)
    have hgrown := s.length_merge batch
    have hstep : s.mergeAll (batch :: batches) = (s.merge batch).mergeAll batches := rfl
    rw [hstep, counts, List.sum_cons]
    omega

theorem counts_le_lengths (s : Selection) (batches : List (List Attachment)) :
    List.Forall₂ (fun count batch => count ≤ batch.length) (s.counts batches) batches := by
  induction batches generalizing s with
  | nil => exact .nil
  | cons batch batches ih => exact .cons (s.added_le_length batch) (ih _)

/-- A batch that was merged has nothing new. -/
theorem merge_eq_self_of_mem {s : Selection} {batches : List (List Attachment)}
    {batch : List Attachment} (h : batch ∈ batches) :
    (s.mergeAll batches).merge batch = s.mergeAll batches := by
  rw [merge_eq_self_iff, ← merge_flatten]
  intro f hf
  have hoffered : f ∈ batches.flatten := List.mem_flatten_of_mem h hf
  exact mem_keys_merge.mpr (.inr (List.mem_map_of_mem hoffered))

/-- The same files in another order lead to the same keys. -/
theorem keys_perm_of_perm {s : Selection} (h : (s.files.map Attachment.key).Nodup)
    {incoming others : List Attachment} (hperm : others.Perm incoming) :
    ((s.merge others).files.map Attachment.key).Perm
      ((s.merge incoming).files.map Attachment.key) := by
  rw [List.perm_ext_iff_of_nodup (nodup_keys_merge h others) (nodup_keys_merge h incoming)]
  intro key
  rw [mem_keys_merge, mem_keys_merge, (hperm.map Attachment.key).mem_iff]

/-! ## Reachable selections -/

/-- The selections that merges and removals lead to; emptying one starts again. -/
inductive Reachable : Selection → Prop where
  | empty : Reachable {}
  | merge {s : Selection} (h : Reachable s) (incoming : List Attachment) :
      Reachable (s.merge incoming)
  | remove {s : Selection} (h : Reachable s) (index : Nat) : Reachable (s.remove index).2

/-- A reachable selection holds each key once. -/
theorem Reachable.nodup_keys {s : Selection} (h : s.Reachable) :
    (s.files.map Attachment.key).Nodup := by
  induction h with
  | empty => exact List.nodup_nil
  | merge _ incoming ih => exact nodup_keys_merge ih incoming
  | remove _ index ih => exact ih.sublist ((List.eraseIdx_sublist _ _).map _)

end Selection

/-! ## Deliveries -/

/-- An operation that offers files: they were picked, dropped or pasted. -/
def Operation.IsDelivery (op : Operation) : Prop :=
  ∃ batch, op = .takeFiles batch ∨ op = .paste (.files batch)

/-- Whether an operation has nothing to do with the selected files. -/
def Operation.sparesFiles : Operation → Bool
  | .paste _ => false
  | .takeFiles _ => false
  | .removeFile _ => false
  | .submit => false
  | .observeSession _ => false
  | .handleSignal _ => false
  | _ => true

namespace MessageInput

variable (m : MessageInput)

/-- While no response is in progress a delivery is merged, and counted. -/
theorem perform_of_isDelivery {session : Session} {op : Operation} (h : op.IsDelivery)
    (hidle : session.responding = false) :
    (m.perform session op).input = { m with files := m.files.merge op.offered } ∧
      (m.perform session op).result.added = m.files.added op.offered := by
  obtain ⟨batch, rfl | rfl⟩ := h
  · simp [perform, takeFiles, hidle, mergeFiles, Operation.offered, Reply.added]
  · simp [perform, paste, hidle, mergeFiles, Operation.offered, Reply.added]

/-- Deliveries one after another are batches that are merged one after another. -/
theorem after_deliveries (steps : List (Operation × Session))
    (h : ∀ step ∈ steps, step.1.IsDelivery ∧ step.2.responding = false) :
    let batches := steps.map fun step => step.1.offered
    m.after steps = { m with files := m.files.mergeAll batches } ∧
      ((m.run steps).map fun reaction => reaction.result.added) = m.files.counts batches := by
  induction steps generalizing m with
  | nil => exact ⟨rfl, rfl⟩
  | cons step steps ih =>
    obtain ⟨op, session⟩ := step
    obtain ⟨hdelivery, hidle⟩ := h _ List.mem_cons_self
    obtain ⟨hinput, hadded⟩ := m.perform_of_isDelivery hdelivery hidle
    obtain ⟨hafter, hcounts⟩ :=
      ih (m.perform session op).input fun later hlater => h later (List.mem_cons_of_mem _ hlater)
    rw [hinput] at hafter hcounts
    refine ⟨?_, ?_⟩
    · rw [after_cons, hinput, hafter]
      rfl
    · simp only [run, List.map_cons, hinput, hadded, hcounts, Selection.counts]

variable {m}

theorem reachable_files_submit (h : m.files.Reachable) (session : Session) :
    (m.submit session).input.files.Reachable := by
  rcases m.submit_cases session with ⟨-, heq⟩ | ⟨-, -, heq⟩ | ⟨-, e, -, heq⟩
  · rw [heq]
    exact h
  · rw [heq]
    exact .empty
  · rw [heq]
    exact h

theorem files_perform_of_sparesFiles {op : Operation} (h : op.sparesFiles = true)
    (session : Session) : (m.perform session op).input.files = m.files := by
  cases op with
  | discardPaste =>
    simp only [perform, discardPaste]
    split <;> rfl
  | savePaste title choice description =>
    rcases m.savePaste_cases session title choice description with
      ⟨-, heq⟩ | ⟨content, -, ⟨artifact, -, heq⟩ | ⟨e, -, heq⟩⟩
    all_goals exact congrArg (fun r => r.input.files) heq
  | cancelResponse =>
    rcases m.cancelResponse_cases session with ⟨-, heq⟩ | ⟨-, -, heq⟩ | ⟨-, e, -, heq⟩
    all_goals exact congrArg (fun r => r.input.files) heq
  | observeResponding responding =>
    simp only [perform, observeResponding]
    split <;> rfl
  | selectPrompt group =>
    rcases m.selectPrompt_cases group with ⟨-, heq⟩ | ⟨-, ⟨-, heq⟩ | ⟨-, heq⟩⟩
    all_goals exact congrArg (fun r => r.2.files) heq
  | submitVariables values =>
    rcases m.submitVariables_cases values with ⟨-, heq⟩ | ⟨dialog, -, ⟨-, heq⟩ | ⟨-, heq⟩⟩
    all_goals exact congrArg (fun r => r.2.files) heq
  | cancelVariables =>
    simp only [perform, cancelVariables]
    split <;> rfl
  | applyPending pending =>
    rcases m.applyPending_cases pending with
      ⟨-, heq⟩ | ⟨p, -, ⟨-, heq⟩ | ⟨-, -, heq⟩ | ⟨-, -, heq⟩⟩
    all_goals exact congrArg (fun r => r.2.2.files) heq
  | runReserved command transcript =>
    cases command with
    | createTemplate => rfl
  | changeText text cursor => rfl
  | closeMenu => rfl
  | transcribe speech => simp only [perform, transcribe, request]
  | setContext context => rfl
  | removeBadge id => rfl
  | insertPrompt text => rfl
  | drainEffects => rfl
  | _ => exact absurd h (by simp [Operation.sparesFiles])

/-- An operation merges files, takes one out, empties the selection, or leaves it as it is. -/
theorem reachable_files_perform (h : m.files.Reachable) (session : Session) (op : Operation) :
    (m.perform session op).input.files.Reachable := by
  have hspared : op.sparesFiles = true → (m.perform session op).input.files.Reachable := by
    intro hspares
    rw [files_perform_of_sparesFiles hspares session]
    exact h
  cases op with
  | paste clipboard =>
    rcases m.paste_cases session clipboard with
      ⟨-, heq⟩ | ⟨-, ⟨incoming, -, heq⟩ | ⟨text, -, ⟨-, heq⟩ | ⟨-, -, heq⟩ | ⟨-, -, heq⟩⟩⟩
    all_goals simp only [perform, heq]
    case inr.inl => exact h.merge incoming
    all_goals exact h
  | takeFiles incoming =>
    simp only [perform]
    rcases m.takeFiles_cases session incoming with ⟨-, heq⟩ | ⟨-, heq⟩
    · rw [heq]
      exact h
    · rw [heq]
      exact h.merge incoming
  | removeFile index => exact h.remove index
  | submit => exact reachable_files_submit h session
  | observeSession id =>
    simp only [perform]
    rcases m.observeSession_cases id with ⟨-, heq⟩ | ⟨-, heq⟩
    · rw [heq]
      exact .empty
    · rw [heq]
      exact h
  | handleSignal signal =>
    cases signal with
    | focusInput => exact h
    | followUp selected question autoSubmit =>
      simp only [perform, handleSignal_followUp]
      split
      · exact reachable_files_submit (m := m.asking selected question) h session
      · exact h
  | _ => exact hspared rfl

/-- What a reachable input has selected is reachable by merges and removals. -/
theorem Reachable.files (h : m.Reachable) : m.files.Reachable := by
  obtain ⟨classifier, first, ops, rfl⟩ := h
  have hstart : (start classifier first).files.Reachable := .empty
  generalize start classifier first = m at hstart
  induction ops generalizing m with
  | nil => exact hstart
  | cons step ops ih => exact ih _ (reachable_files_perform hstart step.2 step.1)

end MessageInput

/-! ## The whole sequence -/

namespace Selection

/-- Merging batches one after another leaves the first file of each key, behind the files that were
there. The counts add up, one batch of all files does the same, a batch that was merged adds
nothing, and the same files in another order or division lead to the same keys. It makes no
difference whether the batches are picked, dropped or pasted. -/
theorem mergeAll_keeps_firsts {s : Selection} (h : s.Reachable)
    (batches : List (List Attachment)) :
    (s.mergeAll batches).files = firsts (s.files ++ batches.flatten) ∧
    s.files <+: (s.mergeAll batches).files ∧
    s.files.length + (s.counts batches).sum = (s.mergeAll batches).files.length ∧
    List.Forall₂ (fun count batch => count ≤ batch.length) (s.counts batches) batches ∧
    s.merge batches.flatten = s.mergeAll batches ∧
    s.added batches.flatten = (s.counts batches).sum ∧
    (∀ batch ∈ batches,
      (s.mergeAll batches).merge batch = s.mergeAll batches ∧
      (s.mergeAll batches).added batch = 0) ∧
    (∀ others : List (List Attachment), others.flatten.Perm batches.flatten →
      ((s.mergeAll others).files.map Attachment.key).Perm
        ((s.mergeAll batches).files.map Attachment.key) ∧
      (s.mergeAll others).files.length = (s.mergeAll batches).files.length) ∧
    ∀ (m : MessageInput) (steps : List (Operation × Session)), m.files = s →
      (steps.map fun step => step.1.offered) = batches →
      (∀ step ∈ steps, step.1.IsDelivery ∧ step.2.responding = false) →
      (m.after steps).files = s.mergeAll batches ∧
      ((m.run steps).map fun reaction => reaction.result.added) = s.counts batches := by
  have hnodup := h.nodup_keys
  have hsum := s.sum_counts batches
  have hone := s.merge_flatten batches
  refine ⟨?_, ?_, hsum, s.counts_le_lengths batches, hone, ?_, ?_, ?_, ?_⟩
  · rw [← hone, files_merge_eq_firsts hnodup]
  · rw [← hone, files_merge]
    exact List.prefix_append _ _
  · have hgrown := s.length_merge batches.flatten
    rw [hone] at hgrown
    omega
  · intro batch hbatch
    have hsame := merge_eq_self_of_mem (s := s) hbatch
    exact ⟨hsame, added_eq_zero hsame⟩
  · intro others hperm
    have hkeys := keys_perm_of_perm hnodup hperm
    rw [merge_flatten, hone] at hkeys
    exact ⟨hkeys, by simpa using hkeys.length_eq⟩
  · rintro m steps rfl rfl hdeliveries
    obtain ⟨hafter, hcounts⟩ := m.after_deliveries steps hdeliveries
    exact ⟨congrArg MessageInput.files hafter, hcounts⟩

/-- Of two files with one key the selection keeps the bytes and the type of the first, also where
they are picked and pasted. -/
theorem twin_left_out :
    let first : Attachment :=
      { name := "a", size := 1, modified := 7, mime := "text/plain", data := [1] }
    let twin : Attachment := { first with mime := "text/html", data := [2] }
    let other := Attachment.ofBytes "b" "text/plain" 7 [3]
    let m := (MessageInput.start {} .idle).after [(.takeFiles [first], .idle)]
    let s := m.files
    let batches := [[twin, other], [other, first]]
    let steps : List (Operation × Session) :=
      [(.takeFiles [twin, other], .idle), (.paste (.files [other, first]), .idle)]
    s.Reachable ∧ (s.mergeAll batches).files = [first, other] ∧ s.counts batches = [1, 0] ∧
      ((s.mergeAll [[other], [other, twin, first]]).files.map Attachment.key).Perm
        ((s.mergeAll batches).files.map Attachment.key) ∧
      (m.after steps).files.files = [first, other] := by
  intro first twin other m s batches steps
  have hreachable : s.Reachable := MessageInput.Reachable.files ⟨{}, .idle, _, rfl⟩
  obtain ⟨hfiles, -, -, -, -, -, -, hperm, hsteps⟩ := mergeAll_keeps_firsts hreachable batches
  have hfirsts : firsts (s.files ++ batches.flatten) = [first, other] := by decide
  have hsame : [[other], [other, twin, first]].flatten.Perm batches.flatten := by decide
  have hdeliveries : ∀ step ∈ steps, step.1.IsDelivery ∧ step.2.responding = false := by
    simp [steps, Operation.IsDelivery, Session.idle]
  have hafter := (hsteps m steps rfl rfl hdeliveries).1
  refine ⟨hreachable, hfiles.trans hfirsts, by decide, (hperm _ hsame).1, ?_⟩
  rw [hafter]
  exact hfiles.trans hfirsts

end Selection
end Composer
