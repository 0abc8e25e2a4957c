import Composer.Proofs.MessageInput.Frame
import Composer.Proofs.Text.Lines
set_option autoImplicit false

/-!
# Large pastes

A paste is large by its characters or by its lines. Neither number gets smaller when something is
added to a text, at whichever end and even where the text and what is added share a line; so what is
large by itself is large as part of a longer paste, and no less when a threshold is lowered.
-/

namespace Composer

namespace Text

/-- There are as many lines as newlines, and one more where the text goes on behind the last. -/
theorem lineCount_eq (s : String) :
    lineCount s =
      s.toList.count '\n' + if s ≠ "" ∧ s.toList.getLast? ≠ some '\n' then 1 else 0 := by
  rw [lineCount, Chars.length_lines]
  simp only [Chars.EndsOpen, ne_eq, String.toList_eq_nil_iff]

theorem lineCount_le_append_left (front back : String) :
    lineCount back ≤ lineCount (front ++ back) := by
  rw [lineCount, lineCount, String.toList_append]
  by_cases hback : back.toList = []
  · rw [hback]
    exact Nat.zero_le _
  · rw [Chars.length_lines_append hback]
    exact Nat.le_add_left _ _

theorem lineCount_le_append_right (front back : String) :
    lineCount front ≤ lineCount (front ++ back) := by
  rw [lineCount, lineCount, String.toList_append]
  by_cases hback : back.toList = []
  · rw [hback, List.append_nil]
  · -- the line that the text may leave open is closed, or goes on, in what is added
    have hline : 1 ≤ (Chars.lines back.toList).length :=
      List.length_pos_of_ne_nil (Chars.lines_ne_nil hback)
    rw [Chars.length_lines_append hback, Chars.length_lines front.toList]
    split <;> omega

theorem lineCount_le_surrounded (before s after : String) :
    lineCount s ≤ lineCount (before ++ s ++ after) :=
  (lineCount_le_append_left before s).trans (lineCount_le_append_right (before ++ s) after)

end Text

namespace PasteClassifier

variable {c c' : PasteClassifier} {s t : String}

theorem classify_eq_large_iff :
    c.classify s = .large ↔ c.charThreshold ≤ s.length ∨ c.lineThreshold ≤ Text.lineCount s := by
  have hreached : c.isLarge s = true ↔
      c.charThreshold ≤ s.length ∨ c.lineThreshold ≤ Text.lineCount s := by
    rw [isLarge, Bool.or_eq_true, decide_eq_true_iff, decide_eq_true_iff]
  rw [← hreached, classify]
  cases c.isLarge s <;> simp

/-- Higher numbers and lower thresholds keep a paste large. -/
theorem classify_mono (hchars : c'.charThreshold ≤ c.charThreshold)
    (hlines : c'.lineThreshold ≤ c.lineThreshold) (hlength : s.length ≤ t.length)
    (hcount : Text.lineCount s ≤ Text.lineCount t) (h : c.classify s = .large) :
    c'.classify t = .large := by
  rw [classify_eq_large_iff] at h ⊢
  exact h.imp (fun hmany => hchars.trans (hmany.trans hlength))
    fun hmany => hlines.trans (hmany.trans hcount)

theorem classify_surrounded (h : c.classify s = .large) (before after : String) :
    c.classify (before ++ s ++ after) = .large := by
  refine classify_mono le_rfl le_rfl ?_ (Text.lineCount_le_surrounded before s after) h
  rw [String.length_append, String.length_append]
  omega

end PasteClassifier

namespace MessageInput

variable {m : MessageInput} {session : Session} {text : String}

/-- Only a large text is held back. -/
theorem large_of_artifactPending (h : (m.paste session (.text text)).1 = .artifactPending) :
    m.classifier.classify text = .large := by
  rcases m.paste_cases session (.text text) with ⟨-, heq⟩ |
    ⟨-, ⟨incoming, hfiles, -⟩ | ⟨pasted, htext, ⟨-, heq⟩ | ⟨-, -, heq⟩ | ⟨hlarge, -⟩⟩⟩
  · exact absurd h (by simp [heq])
  · exact absurd hfiles (by simp)
  · exact absurd h (by simp [heq])
  · exact absurd h (by simp [heq])
  · obtain rfl := Clipboard.text.inj htext
    exact hlarge

/-- Only a small text is left to the host. -/
theorem small_of_insertDefault (h : (m.paste session (.text text)).1 = .insertDefault) :
    m.classifier.classify text = .small := by
  rcases m.paste_cases session (.text text) with ⟨-, heq⟩ |
    ⟨-, ⟨incoming, hfiles, -⟩ | ⟨pasted, htext, ⟨hsmall, -⟩ | ⟨-, -, heq⟩ | ⟨-, -, heq⟩⟩⟩
  · exact absurd h (by simp [heq])
  · exact absurd hfiles (by simp)
  · obtain rfl := Clipboard.text.inj htext
    exact hsmall
  · exact absurd h (by simp [heq])
  · exact absurd h (by simp [heq])

/-- A text is large exactly if its characters or its lines reach their threshold, where there are
as many lines as newlines and one more where the text goes on behind the last. A text that is
large by itself is large with more text on both sides, and with lower thresholds. So what one
input holds back, no input with the same thresholds lets through as part of a longer paste,
whatever else is in it and whatever the session is at. -/
theorem large_paste_stays_large (c : PasteClassifier) :
    (∀ s, c.classify s = .large ↔ c.charThreshold ≤ s.length ∨ c.lineThreshold ≤
      s.toList.count '\n' + if s ≠ "" ∧ s.toList.getLast? ≠ some '\n' then 1 else 0) ∧
    (∀ p s q, c.classify s = .large → c.classify (p ++ s ++ q) = .large) ∧
    (∀ (c' : PasteClassifier) s, c'.charThreshold ≤ c.charThreshold →
      c'.lineThreshold ≤ c.lineThreshold → c.classify s = .large → c'.classify s = .large) ∧
    ∀ (m m' : MessageInput) (session session' : Session) (p s q : String),
      m.classifier = c → m'.classifier = c →
      (m.paste session (.text s)).1 = .artifactPending →
      (m'.paste session' (.text (p ++ s ++ q))).1 ≠ .insertDefault := by
  refine ⟨?_, ?_, ?_, ?_⟩
  · intro s
    rw [← Text.lineCount_eq]
    exact PasteClassifier.classify_eq_large_iff
  · intro p s q hlarge
    exact PasteClassifier.classify_surrounded hlarge p q
  · intro c' s hchars hlines hlarge
    exact PasteClassifier.classify_mono hchars hlines le_rfl le_rfl hlarge
  · rintro m m' session session' p s q rfl hsame hheld hthrough
    have hlarge := PasteClassifier.classify_surrounded (large_of_artifactPending hheld) p q
    have hsmall := small_of_insertDefault hthrough
    rw [hsame, hlarge] at hsmall
    exact absurd hsmall (by decide)

/-- Two lines reach a threshold of two, with a newline at their end and without; what comes before
and behind shares its lines with them. -/
theorem two_lines_held_back :
    let c : PasteClassifier := { charThreshold := 100, lineThreshold := 2 }
    let lower : PasteClassifier := { charThreshold := 100, lineThreshold := 1 }
    let m := start c .idle
    lower.charThreshold ≤ c.charThreshold ∧ lower.lineThreshold ≤ c.lineThreshold ∧
    c.classify "b\nc" = .large ∧ c.classify "b\n" = .small ∧
    c.classify ("a" ++ "b\nc" ++ "\n") = .large ∧ lower.classify "b\nc" = .large ∧
    (m.paste .idle (.text "b\nc")).1 = .artifactPending ∧
    (m.paste .idle (.text ("a" ++ "b\nc" ++ "\n"))).1 ≠ .insertDefault := by
  intro c lower m
  obtain ⟨hiff, hsurrounded, hlower, hheld⟩ := large_paste_stays_large c
  have hlarge : c.classify "b\nc" = .large := (hiff "b\nc").mpr (.inr (by decide))
  have hchars : lower.charThreshold ≤ c.charThreshold := by decide
  have hlines : lower.lineThreshold ≤ c.lineThreshold := by decide
  have hpending : (m.paste .idle (.text "b\nc")).1 = .artifactPending := by decide
  exact ⟨hchars, hlines, hlarge, by decide, hsurrounded "a" "b\nc" "\n" hlarge,
    hlower lower "b\nc" hchars hlines hlarge, hpending,
    hheld m m .idle .idle "a" "b\nc" "\n" rfl rfl hpending⟩

end MessageInput
end Composer
