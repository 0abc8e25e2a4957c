import Composer.Proofs.MessageInput.Frame
import Composer.Proofs.Text.Trimming
set_option autoImplicit false

/-!
# Dictation

Spoken text arrives in pieces, some of them blank, and each is trimmed and added at the end of the
draft, behind a space where one is needed. That is the same as adding the pieces at once: what is
said in one piece and in the next, with a space between them, is one piece. Nothing that was in
the draft is changed.
-/

namespace Composer

/-- A piece of speech as it is added: some text, and no white space around it. -/
structure IsSpeech (s : String) : Prop where
  trimmed : Chars.IsTrimmed s.toList
  ne_nil : s.toList ≠ []

namespace IsSpeech

variable {s t : String}

theorem trim (h : Text.isBlank s = false) : IsSpeech (Text.trim s) := by
  constructor
  · rw [Text.toList_trim]
    exact Chars.isTrimmed_trim s.toList
  · rw [Text.toList_trim]
    intro hempty
    exact absurd (h.symm.trans (Chars.trim_eq_nil_iff.mp hempty)) (by decide)

theorem trim_eq (h : IsSpeech s) : Text.trim s = s := by
  rw [Text.trim, show Chars.trim s.toList = s.toList from h.trimmed, String.ofList_toList]

theorem isBlank_eq (h : IsSpeech s) : Text.isBlank s = false := by
  rw [Text.isBlank, Bool.eq_false_iff, Ne, ← Chars.trim_eq_nil_iff,
    show Chars.trim s.toList = s.toList from h.trimmed]
  exact h.ne_nil

/-- Two pieces with a space between them are one. -/
theorem append (hs : IsSpeech s) (ht : IsSpeech t) : IsSpeech (s ++ " " ++ t) := by
  constructor
  · rw [String.toList_append, String.toList_append]
    exact hs.trimmed.append ht.trimmed hs.ne_nil ht.ne_nil _
  · rw [String.toList_append]
    exact List.append_ne_nil_of_right_ne_nil _ ht.ne_nil

theorem intercalate {ss : List String} (h : ∀ s ∈ ss, IsSpeech s) (hne : ss ≠ []) :
    IsSpeech (" ".intercalate ss) := by
  induction ss with
  | nil => exact absurd rfl hne
  | cons s ss ih =>
    rw [List.forall_mem_cons] at h
    cases ss with
    | nil =>
      rw [String.intercalate_singleton]
      exact h.1
    | cons t ss =>
      rw [String.intercalate_cons_cons]
      exact h.1.append (ih h.2 (List.cons_ne_nil t ss))

end IsSpeech

namespace Draft

variable {s t : String}

/-! ## Piece by piece -/

/-- What has to stand between a text and speech that is added to it. -/
def gap (text : String) : String := if text ≠ "" ∧ endsInSpace text = false then " " else ""

/-- Behind speech, more of it needs a space. -/
theorem gap_append (h : IsSpeech s) (front : String) : gap (front ++ s) = " " := by
  have hlast : endsInSpace (front ++ s) = false := by
    rw [endsInSpace, String.toList_append, List.getLast?_append_of_ne_nil _ h.ne_nil]
    cases hs : s.toList.getLast? with
    | none => rfl
    | some c => exact (Chars.isTrimmed_iff.mp h.trimmed).2 c hs
  have hne : front ++ s ≠ "" := by
    intro hempty
    rw [← String.toList_eq_nil_iff, String.toList_append, List.append_eq_nil_iff] at hempty
    exact h.ne_nil hempty.2
  rw [gap, if_pos ⟨hne, hlast⟩]

theorem appendTranscript_of_isBlank (h : Text.isBlank s = true) (d : Draft) :
    d.appendTranscript s = d := by
  have hempty : Text.trim s = "" := by
    rw [← String.toList_eq_nil_iff, Text.toList_trim]
    exact Chars.trim_eq_nil_iff.mpr h
  simp [appendTranscript, hempty]

theorem appendTranscript_of_not_isBlank (h : Text.isBlank s = false) (d : Draft) :
    d.appendTranscript s = d.setText (d.text ++ gap d.text ++ Text.trim s) := by
  have hgap : (if d.text.isEmpty || endsInSpace d.text then "" else " ") = gap d.text := by
    unfold gap
    cases endsInSpace d.text <;> by_cases hempty : d.text = "" <;> simp [hempty]
  have hsaid : (Text.trim s).isEmpty = false := by
    rw [Bool.eq_false_iff, Ne, String.isEmpty_iff, ← String.toList_eq_nil_iff]
    exact (IsSpeech.trim h).ne_nil
  simp only [appendTranscript, hsaid, hgap, Bool.false_eq_true, if_false]

theorem appendTranscript_of_isSpeech (h : IsSpeech s) (d : Draft) :
    d.appendTranscript s = d.setText (d.text ++ gap d.text ++ s) := by
  rw [appendTranscript_of_not_isBlank h.isBlank_eq, h.trim_eq]

/-- One piece after another is the piece that both make up. -/
theorem appendTranscript_append (hs : IsSpeech s) (ht : IsSpeech t) (d : Draft) :
    (d.appendTranscript s).appendTranscript t = d.appendTranscript (s ++ " " ++ t) := by
  have hgap : gap (d.text ++ gap d.text ++ s) = " " := gap_append hs _
  rw [appendTranscript_of_isSpeech hs, appendTranscript_of_isSpeech ht,
    appendTranscript_of_isSpeech (hs.append ht)]
  simp only [setText, hgap]
  simp only [String.append_assoc]

/-! ## All at once -/

/-- What is said in pieces of speech: those that are not blank, trimmed. -/
def spoken (speeches : List String) : List String :=
  (speeches.filter fun s => !Text.isBlank s).map Text.trim

theorem isSpeech_of_mem_spoken {speeches : List String} : ∀ s ∈ spoken speeches, IsSpeech s := by
  intro s hs
  obtain ⟨raw, hraw, rfl⟩ := List.mem_map.mp hs
  exact .trim (by simpa using (List.mem_filter.mp hraw).2)

/-- The run lemma: piece by piece comes to the same as at once. -/
theorem foldl_appendTranscript (d : Draft) (speeches : List String) :
    speeches.foldl appendTranscript d = d.appendTranscript (" ".intercalate (spoken speeches)) := by
  induction speeches generalizing d with
  | nil => exact (appendTranscript_of_isBlank (by decide) d).symm
  | cons s speeches ih =>
    rw [List.foldl_cons, ih]
    cases hblank : Text.isBlank s with
    | true =>
      have hrest : spoken (s :: speeches) = spoken speeches := by simp [spoken, hblank]
      rw [hrest, appendTranscript_of_isBlank hblank]
    | false =>
      have hsaid := IsSpeech.trim hblank
      have hfirst : spoken (s :: speeches) = Text.trim s :: spoken speeches := by
        simp [spoken, hblank]
      have hstep : d.appendTranscript s = d.appendTranscript (Text.trim s) := by
        rw [appendTranscript_of_not_isBlank hblank, appendTranscript_of_isSpeech hsaid]
      rw [hfirst, hstep]
      cases hmore : spoken speeches with
      | nil =>
        rw [String.intercalate_singleton]
        exact appendTranscript_of_isBlank (by decide) _
      | cons t rest =>
        have hrest : IsSpeech (" ".intercalate (t :: rest)) := by
          rw [← hmore]
          exact .intercalate isSpeech_of_mem_spoken (by simp [hmore])
        rw [appendTranscript_append hsaid hrest, String.intercalate_cons_cons]

theorem foldl_appendTranscript_of_forall_isBlank {speeches : List String}
    (h : ∀ s ∈ speeches, Text.isBlank s = true) (d : Draft) :
    speeches.foldl appendTranscript d = d := by
  have hnothing : spoken speeches = [] := by
    rw [spoken, List.map_eq_nil_iff, List.filter_eq_nil_iff]
    intro s hs
    simp [h s hs]
  rw [foldl_appendTranscript, hnothing]
  exact appendTranscript_of_isBlank (by decide) d

theorem foldl_appendTranscript_of_exists {speeches : List String}
    (h : ∃ s ∈ speeches, Text.isBlank s = false) (d : Draft) :
    speeches.foldl appendTranscript d =
      d.setText (d.text ++ gap d.text ++ " ".intercalate (spoken speeches)) := by
  obtain ⟨s, hs, hblank⟩ := h
  have hmem : Text.trim s ∈ spoken speeches :=
    List.mem_map_of_mem (List.mem_filter.mpr ⟨hs, by simp [hblank]⟩)
  rw [foldl_appendTranscript]
  exact appendTranscript_of_isSpeech
    (.intercalate isSpeech_of_mem_spoken (List.ne_nil_of_mem hmem)) d

/-- The text that was there is in front of what there is now. -/
theorem text_prefix_foldl_appendTranscript (d : Draft) (speeches : List String) :
    d.text.toList <+: (speeches.foldl appendTranscript d).text.toList := by
  rw [foldl_appendTranscript]
  rcases d.appendTranscript_cases (" ".intercalate (spoken speeches)) with heq | ⟨more, heq⟩
  · exact ⟨[], by rw [heq, List.append_nil]⟩
  · rw [heq, setText, String.toList_append]
    exact List.prefix_append _ _

/-- Of a draft in the message input the same holds. -/
theorem foldl_transcribe (m : MessageInput) (speeches : List String) :
    (speeches.foldl MessageInput.transcribe m).draft = speeches.foldl appendTranscript m.draft := by
  induction speeches generalizing m with
  | nil => rfl
  | cons s speeches ih =>
    rw [List.foldl_cons, List.foldl_cons, ih, MessageInput.draft_transcribe]

/-- Pieces of speech that are all blank leave the draft as it is, cursor and all. If one of them is
not, the text is followed by what is said, piece by piece with a space between them, and in front of
it there is a space exactly if the text was neither empty nor ended in white space; the cursor is at
the end and the context is the same. All pieces at once come to the same, the text after some of the
pieces is in front of the text after all of them, and the message input has the same draft. -/
theorem dictation_appended (d : Draft) (speeches : List String) :
    let said := " ".intercalate ((speeches.filter fun s => !Text.isBlank s).map Text.trim)
    let after := speeches.foldl appendTranscript d
    ((∀ s ∈ speeches, Text.isBlank s = true) → after = d) ∧
    ((∃ s ∈ speeches, Text.isBlank s = false) →
      after.text =
        d.text ++ (if d.text ≠ "" ∧ endsInSpace d.text = false then " " else "") ++ said ∧
      after.cursor = after.text.length ∧ after.context = d.context) ∧
    after = d.appendTranscript said ∧
    (∀ first second, speeches = first ++ second →
      (first.foldl appendTranscript d).text.toList <+: after.text.toList) ∧
    ∀ m : MessageInput, m.draft = d →
      (speeches.foldl MessageInput.transcribe m).draft = after := by
  intro said after
  refine ⟨?_, ?_, foldl_appendTranscript d speeches, ?_, ?_⟩
  · intro hblank
    exact foldl_appendTranscript_of_forall_isBlank hblank d
  · intro hspoken
    have hafter : after = d.setText (d.text ++ gap d.text ++ said) :=
      foldl_appendTranscript_of_exists hspoken d
    rw [hafter]
    exact ⟨rfl, rfl, rfl⟩
  · rintro first second rfl
    have hafter : after = second.foldl appendTranscript (first.foldl appendTranscript d) :=
      List.foldl_append
    rw [hafter]
    exact text_prefix_foldl_appendTranscript _ second
  · rintro m rfl
    exact foldl_transcribe m speeches

/-- A draft that ends in a newline takes four pieces, two of them blank; of these two alone it stays
as it is, with the cursor in the middle. -/
theorem dictation_behind_newline :
    let d : Draft := { text := "line\n", cursor := 2, context := some "> q" }
    let m : MessageInput := { MessageInput.start {} .idle with draft := d }
    let speeches := ["\tnext  one", " ", "\u3000", "word\r"]
    let after := speeches.foldl appendTranscript d
    [" ", "\u3000"].foldl appendTranscript d = d ∧
      after.text = "line\nnext  one word" ∧ after.cursor = 19 ∧ after.context = some "> q" ∧
      (speeches.foldl MessageInput.transcribe m).draft.text = "line\nnext  one word" := by
  intro d m speeches after
  obtain ⟨hblank, -⟩ := dictation_appended d [" ", "\u3000"]
  obtain ⟨-, hspoken, -, -, hinput⟩ := dictation_appended d speeches
  obtain ⟨htext, hcursor, hcontext⟩ := hspoken ⟨"word\r", by decide, by decide⟩
  have hafter : after.text = "line\nnext  one word" := htext.trans (by decide)
  have hlength : after.text.length = 19 := by
    rw [hafter]
    decide
  refine ⟨hblank (by decide), hafter, hcursor.trans hlength, hcontext, ?_⟩
  rw [hinput m rfl]
  exact hafter

end Draft
end Composer
