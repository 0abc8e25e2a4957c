import Composer.Artifact.Detection
import Composer.Paste
import Composer.Proofs.Json.LineEnds
set_option autoImplicit false

/-!
# Pastes with other line ends

The same text reaches the clipboard with line ends of one kind or the other, and with more or less
white space around it. None of this has a say in what the text is taken for: each of the looks that
are tried in turn is the same. The number of lines is the same too, so a paste without too many
characters is held back by its lines in both forms or in none.
-/

namespace Composer

/-- The text with a carriage return in front of every newline. -/
def Text.withReturns (s : String) : String := String.ofList (Chars.withReturns s.toList)

namespace Detection

open Chars (withReturns withReturns_cons SameLine)

/-! ## JSON and markup -/

/-- A character that is no line end comes first in both texts or in none. -/
theorem beq_head?_withReturns {x : Char} (hnewline : x ≠ '\n') (hreturn : x ≠ '\r')
    (cs : List Char) : ((withReturns cs).head? == some x) = (cs.head? == some x) := by
  rw [Bool.eq_iff_iff, beq_iff_eq, beq_iff_eq]
  exact Chars.head?_withReturns hnewline hreturn cs

theorem isJson_withReturns (cs : List Char) : isJson (withReturns cs) = isJson cs := by
  rw [isJson_eq, isJson_eq, (Json.readChars_withReturns cs).isOk_eq,
    beq_head?_withReturns (by decide) (by decide), beq_head?_withReturns (by decide) (by decide)]

/-- No letter has a newline for its small form. -/
theorem lowerAscii_eq_newline_iff (c : Char) : Chars.lowerAscii c = '\n' ↔ c = '\n' := by
  have hsmall : ∀ n < 123, 97 ≤ n → Char.ofNat n ≠ '\n' := by decide
  unfold Chars.lowerAscii
  split
  next h =>
    simp only [Char.le_def, UInt32.le_iff_toNat_le] at h
    have hlow : 65 ≤ c.toNat := h.1
    have hhigh : c.toNat ≤ 90 := h.2
    refine iff_of_false (hsmall _ (by omega) (by omega)) ?_
    rintro rfl
    exact absurd hlow (by decide)
  next => exact Iff.rfl

theorem hasHtmlTag_withReturns (cs : List Char) : hasHtmlTag (withReturns cs) = hasHtmlTag cs := by
  have hlower := Chars.map_withReturns (f := Chars.lowerAscii) (by decide)
    lowerAscii_eq_newline_iff cs
  have hinline : ∀ m ∈ htmlMarkers, Chars.IsInline m.toList := by decide
  unfold hasHtmlTag
  dsimp only
  rw [hlower, Bool.eq_iff_iff, List.any_eq_true, List.any_eq_true]
  refine exists_congr fun m => and_congr_right fun hm => ?_
  rw [Chars.hasInfix_withReturns (hinline m hm)]

theorem isMarkup_withReturns (cs : List Char) : isMarkup (withReturns cs) = isMarkup cs := by
  rw [isMarkup, isMarkup, beq_head?_withReturns (by decide) (by decide),
    Chars.getLast?_withReturns, Chars.hasInfix_withReturns (by decide)]

/-! ## Lines -/

theorem isMarkdownLine_eq {line line' : List Char} (h : SameLine line line') :
    isMarkdownLine line' = isMarkdownLine line := by
  have hinline : ∀ m ∈ markdownMarkers, Chars.IsInline m.toList := by decide
  rw [isMarkdownLine, isMarkdownLine, Bool.eq_iff_iff, List.any_eq_true, List.any_eq_true]
  refine exists_congr fun m => and_congr_right fun hm => ?_
  rw [h.trimStart_eq.isPrefixOf_eq (hinline m hm)]

theorem isMarkdown_withReturns (cs : List Char) : isMarkdown (withReturns cs) = isMarkdown cs := by
  have hlines := Chars.lines_withReturns cs
  unfold isMarkdown
  generalize Chars.lines cs = lines, Chars.lines (withReturns cs) = lines' at hlines
  induction hlines with
  | nil => rfl
  | cons hline _ ih => rw [List.any_cons, List.any_cons, ih, isMarkdownLine_eq hline]

/-- The numbers of commas in the rows that are not blank. -/
def rowCommas (cs : List Char) : List Nat :=
  ((Chars.lines cs).filter fun row => !Chars.isBlank row).map commas

/-- Whether there are two numbers at least, all the same and not zero. -/
def isUniform : List Nat → Bool
  | first :: second :: rest => first != 0 && (second :: rest).all (· == first)
  | _ => false

/-- Of its rows only the commas decide whether a text is a table. -/
theorem isTable_eq (cs : List Char) : isTable cs = isUniform (rowCommas cs) := by
  unfold isTable rowCommas
  match (Chars.lines cs).filter fun row => !Chars.isBlank row with
  | [] => rfl
  | [_] => rfl
  | first :: second :: rest => simp [isUniform, Function.comp_def]

theorem rowCommas_withReturns (cs : List Char) : rowCommas (withReturns cs) = rowCommas cs := by
  have hlines := Chars.lines_withReturns cs
  unfold rowCommas
  generalize Chars.lines cs = lines, Chars.lines (withReturns cs) = lines' at hlines
  induction hlines with
  | nil => rfl
  | @cons line line' _ _ hline _ ih =>
    rw [List.filter_cons, List.filter_cons, hline.isBlank_eq]
    split
    · have hcommas : commas line' = commas line := hline.count_eq (by decide)
      rw [List.map_cons, List.map_cons, ih, hcommas]
    · exact ih

/-! ## The kind of a text -/

theorem ofTrimmed_withReturns (cs : List Char) : ofTrimmed (withReturns cs) = ofTrimmed cs := by
  have hempty : (withReturns cs).isEmpty = cs.isEmpty := by
    rw [Bool.eq_iff_iff, List.isEmpty_iff, List.isEmpty_iff, Chars.withReturns_eq_nil_iff]
  rw [ofTrimmed, ofTrimmed, hempty, isJson_withReturns, Chars.isPrefixOf_withReturns (by decide),
    isMarkup_withReturns, hasHtmlTag_withReturns, isMarkdown_withReturns, isTable_eq, isTable_eq,
    rowCommas_withReturns]

theorem mimeType_withReturns (content : String) :
    mimeType (Text.withReturns content) = mimeType content := by
  rw [mimeType, mimeType, Text.withReturns, String.toList_ofList, Chars.trim_withReturns,
    ofTrimmed_withReturns]

theorem mimeType_surrounded {before after : String} (hbefore : Text.isBlank before = true)
    (hafter : Text.isBlank after = true) (content : String) :
    mimeType (before ++ content ++ after) = mimeType content := by
  rw [mimeType, mimeType, String.toList_append, String.toList_append,
    Chars.trim_surrounded hbefore hafter]

end Detection

/-! ## The size of a paste -/

theorem Text.lineCount_withReturns (content : String) :
    lineCount (withReturns content) = lineCount content := by
  rw [lineCount, lineCount, withReturns, String.toList_ofList]
  exact (Chars.lines_withReturns content.toList).length_eq.symm

theorem Text.length_le_withReturns (content : String) :
    content.length ≤ (withReturns content).length := by
  rw [← String.length_toList, ← String.length_toList, withReturns, String.toList_ofList]
  exact Chars.length_le_withReturns content.toList

/-- Where neither text has too many characters, the lines decide, and they are as many. -/
theorem PasteClassifier.classify_withReturns {c : PasteClassifier} {content : String}
    (h : (Text.withReturns content).length < c.charThreshold) :
    c.classify (Text.withReturns content) = c.classify content := by
  have hfew : ¬c.charThreshold ≤ (Text.withReturns content).length := Nat.not_le.mpr h
  have hfew' : ¬c.charThreshold ≤ content.length :=
    Nat.not_le.mpr (Nat.lt_of_le_of_lt (Text.length_le_withReturns content) h)
  simp only [classify, isLarge, hfew, hfew', Text.lineCount_withReturns]

/-- A text is taken for the same whatever its line ends are, which may be mixed or stray before, and
whatever white space is around it. Its lines are as many, so as long as there are not too many
characters it is as large a paste. -/
theorem line_ends_do_not_matter (content : String) :
    Detection.mimeType (Text.withReturns content) = Detection.mimeType content ∧
    (∀ before after, Text.isBlank before = true → Text.isBlank after = true →
      Detection.mimeType (before ++ content ++ after) = Detection.mimeType content) ∧
    Text.lineCount (Text.withReturns content) = Text.lineCount content ∧
    ∀ c : PasteClassifier, (Text.withReturns content).length < c.charThreshold →
      c.classify (Text.withReturns content) = c.classify content :=
  ⟨Detection.mimeType_withReturns content,
    fun _ _ hbefore hafter => Detection.mimeType_surrounded hbefore hafter content,
    Text.lineCount_withReturns content, fun _ h => PasteClassifier.classify_withReturns h⟩

/-- A table with line ends of both kinds and a stray carriage return. -/
theorem table_with_mixed_line_ends :
    let content := "a,b\n1\r,2\r\n3,4"
    let classifier : PasteClassifier := { charThreshold := 20, lineThreshold := 3 }
    Text.withReturns content = "a,b\r\n1\r,2\r\r\n3,4" ∧
      Text.isBlank "\t" = true ∧ Text.isBlank "\r\n\u3000" = true ∧
      (Text.withReturns content).length < classifier.charThreshold ∧
      Detection.mimeType content = "text/csv" ∧
      Detection.mimeType (Text.withReturns content) = "text/csv" ∧
      Detection.mimeType ("\t" ++ content ++ "\r\n\u3000") = "text/csv" ∧
      Text.lineCount (Text.withReturns content) = 3 ∧
      classifier.classify (Text.withReturns content) = .large := by
  intro content classifier
  obtain ⟨hmime, haround, hlines, hclassify⟩ := line_ends_do_not_matter content
  have hbefore : Text.isBlank "\t" = true := by decide
  have hafter : Text.isBlank "\r\n\u3000" = true := by decide
  have hfew : (Text.withReturns content).length < classifier.charThreshold := by decide
  have htable : Detection.mimeType content = "text/csv" := by decide
  exact ⟨by decide, hbefore, hafter, hfew, htable, hmime.trans htable,
    (haround _ _ hbefore hafter).trans htable, hlines.trans (by decide),
    (hclassify classifier hfew).trans (by decide)⟩

end Composer
