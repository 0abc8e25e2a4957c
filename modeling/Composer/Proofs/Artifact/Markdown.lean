import Composer.Proofs.Artifact.Naming
set_option autoImplicit false

/-!
# Texts that are taken for Markdown

A line opens an element of Markdown if it is a heading, starts fenced code or is an item of a
list. Only some of these lines are known: headings of the first three levels, fenced code, and of
the items those with an empty box; quoted lines are known as well. A text that begins neither like
JSON nor like markup is taken for Markdown exactly if one of its lines is known, whatever the
other lines are.
-/

namespace Composer
namespace Detection

/-! ## Lines -/

/-- What a line of Markdown may be, white space in front aside. -/
inductive OpensElement : List Char → Prop where
  | heading {level : Nat} (hpos : 1 ≤ level) (hle : level ≤ 6) (title : List Char) :
      OpensElement (List.replicate level '#' ++ ' ' :: title)
  | fence (rest : List Char) : OpensElement (['`', '`', '`'] ++ rest)
  | item {bullet : Char} (hbullet : bullet = '-' ∨ bullet = '*' ∨ bullet = '+') {text : List Char}
      (htext : Chars.isBlank text = false) : OpensElement (bullet :: ' ' :: text)

/-- A line that makes a text Markdown. -/
inductive IsKnown : List Char → Prop where
  | heading {level : Nat} (hpos : 1 ≤ level) (hle : level ≤ 3) (title : List Char) :
      IsKnown (List.replicate level '#' ++ ' ' :: title)
  | fence (rest : List Char) : IsKnown (['`', '`', '`'] ++ rest)
  | task (rest : List Char) : IsKnown (['-', ' ', '[', ' ', ']'] ++ rest)
  | quote (rest : List Char) : IsKnown (['>', ' '] ++ rest)

theorem isKnown_iff {line : List Char} :
    IsKnown line ↔ ∃ m ∈ markdownMarkers, m.toList <+: line := by
  constructor
  · intro h
    cases h with
    | @heading level hpos hle title =>
      obtain rfl | rfl | rfl : level = 1 ∨ level = 2 ∨ level = 3 := by omega
      · exact ⟨"# ", by decide, title, rfl⟩
      · exact ⟨"## ", by decide, title, rfl⟩
      · exact ⟨"### ", by decide, title, rfl⟩
    | fence rest => exact ⟨"```", by decide, rest, rfl⟩
    | task rest => exact ⟨"- [ ]", by decide, rest, rfl⟩
    | quote rest => exact ⟨"> ", by decide, rest, rfl⟩
  · rintro ⟨m, hm, rest, rfl⟩
    simp only [markdownMarkers, List.mem_cons, List.not_mem_nil, or_false] at hm
    rcases hm with rfl | rfl | rfl | rfl | rfl | rfl
    · exact @IsKnown.heading 1 (by decide) (by decide) rest
    · exact @IsKnown.heading 2 (by decide) (by decide) rest
    · exact @IsKnown.heading 3 (by decide) (by decide) rest
    · exact .fence rest
    · exact .task rest
    · exact .quote rest

/-- The characters that a line of Markdown may begin with. -/
theorem OpensElement.head_mem {c : Char} {rest : List Char} (h : OpensElement (c :: rest)) :
    c ∈ ['#', '`', '-', '*', '+'] := by
  generalize hline : c :: rest = line at h
  cases h with
  | @heading level hpos hle title =>
    obtain ⟨level, rfl⟩ := Nat.exists_eq_add_one_of_ne_zero (Nat.ne_zero_of_lt hpos)
    rw [List.replicate_succ] at hline
    simp [(List.cons.inj hline).1]
  | fence rest => simp [(List.cons.inj hline).1]
  | item hbullet htext =>
    rw [(List.cons.inj hline).1]
    rcases hbullet with rfl | rfl | rfl <;> decide

/-- Of the lines that open an element, the headings below the third level and all items without an
empty box are not known. -/
theorem OpensElement.isKnown_iff {line : List Char} (h : OpensElement line) :
    IsKnown line ↔ (∃ level title, level ≤ 3 ∧ line = List.replicate level '#' ++ ' ' :: title) ∨
      ['`', '`', '`'] <+: line ∨ ['-', ' ', '[', ' ', ']'] <+: line := by
  constructor
  · intro hknown
    cases hknown with
    | heading hpos hle title => exact .inl ⟨_, title, hle, rfl⟩
    | fence rest => exact .inr (.inl ⟨rest, rfl⟩)
    | task rest => exact .inr (.inr ⟨rest, rfl⟩)
    | quote rest => exact absurd h.head_mem (by decide)
  · rintro (⟨level, title, hle, rfl⟩ | ⟨rest, rfl⟩ | ⟨rest, rfl⟩)
    · cases level with
      | zero => exact absurd h.head_mem (by decide)
      | succ level => exact .heading (Nat.succ_pos level) hle title
    · exact .fence rest
    · exact .task rest

theorem isMarkdown_iff {cs : List Char} :
    isMarkdown cs = true ↔ ∃ line ∈ Chars.lines cs, IsKnown (Chars.trimStart line) := by
  rw [isMarkdown, List.any_eq_true]
  refine exists_congr fun line => and_congr_right fun _ => ?_
  rw [isMarkdownLine, List.any_eq_true, Detection.isKnown_iff]
  simp only [List.isPrefixOf_iff_prefix]

/-! ## Texts -/

/-- A text that is left to its lines: it begins neither like JSON nor like markup. -/
def IsPlainText (content : String) : Prop :=
  ∀ c ∈ (Chars.trim content.toList).head?, c ≠ '{' ∧ c ≠ '[' ∧ c ≠ '<'

instance (content : String) : Decidable (IsPlainText content) := Option.decidableForallMem _

/-- Of such a text the lines are looked at at once. -/
theorem mimeType_of_isPlainText {content : String} (h : IsPlainText content) :
    mimeType content =
      if isMarkdown (Chars.trim content.toList) then "text/markdown"
      else if isTable (Chars.trim content.toList) then "text/csv" else "text/plain" := by
  unfold IsPlainText at h
  rw [mimeType]
  cases hcs : Chars.trim content.toList with
  | nil => rfl
  | cons c cs =>
    rw [hcs] at h
    obtain ⟨hobject, harray, hmarkup⟩ := h c rfl
    have hjson : isJson (c :: cs) = false := by
      rw [isJson_eq]
      simp [hobject, harray]
    have hxml : "<?xml".toList.isPrefixOf (c :: cs) = false := by
      simp [List.isPrefixOf, Ne.symm hmarkup]
    have htags : isMarkup (c :: cs) = false := by
      simp [isMarkup, hmarkup]
    rw [ofTrimmed, hjson, hxml, htags]
    simp

end Detection

namespace ArtifactUpload

open Detection

/-- Detection takes a text for Markdown exactly by its known lines. -/
theorem mime_ofPaste_iff {content : String} (h : IsPlainText content) (title : String)
    (description : Option String) :
    (ofPaste title .auto description content).mime = "text/markdown" ↔
      ∃ line ∈ Chars.lines (Chars.trim content.toList), IsKnown (Chars.trimStart line) := by
  have hmime : (ofPaste title .auto description content).mime = mimeType content := rfl
  rw [hmime, mimeType_of_isPlainText h, ← isMarkdown_iff]
  cases isMarkdown (Chars.trim content.toList) with
  | true => exact iff_of_true rfl rfl
  | false =>
    refine iff_of_false ?_ (by decide)
    cases isTable (Chars.trim content.toList) <;> decide

/-- The type decides on the extension. -/
theorem endsWith_name_of_markdown {title content : String} {description : Option String}
    (h : (ofPaste title .auto description content).mime = "text/markdown") :
    Text.endsWith (ofPaste title .auto description content).name ".md" = true := by
  have hname : (ofPaste title .auto description content).name =
      nameFor title (extensionOf (ofPaste title .auto description content).mime) := by
    simp only [ofPaste]
  rw [hname, h]
  exact endsWith_nameFor title "md"

/-- A text that begins neither like JSON nor like markup is stored as Markdown, under a name with
its extension, exactly if one of the lines of the trimmed text is known. A line that opens an
element of Markdown is known exactly if it is a heading of the first three levels, starts fenced
code, or is an item with a hyphen and an empty box. -/
theorem stored_as_markdown_iff {content : String} (h : IsPlainText content) (title : String)
    (description : Option String) :
    let upload := ofPaste title .auto description content
    ((upload.mime = "text/markdown" ∧ Text.endsWith upload.name ".md" = true) ↔
      ∃ line ∈ Chars.lines (Chars.trim content.toList), IsKnown (Chars.trimStart line)) ∧
    ∀ line, OpensElement line →
      (IsKnown line ↔
        (∃ level title, level ≤ 3 ∧ line = List.replicate level '#' ++ ' ' :: title) ∨
          ['`', '`', '`'] <+: line ∨ ['-', ' ', '[', ' ', ']'] <+: line) := by
  intro upload
  refine ⟨?_, fun line hline => hline.isKnown_iff⟩
  rw [← mime_ofPaste_iff h title description]
  exact ⟨fun hstored => hstored.1, fun hmime => ⟨hmime, endsWith_name_of_markdown hmime⟩⟩

/-- A heading of the second level between other lines, with white space in front. -/
theorem heading_stored_as_markdown :
    let upload := ofPaste "plan" .auto none "a,b\n \t## Part\nc,d"
    IsPlainText "a,b\n \t## Part\nc,d" ∧ upload.mime = "text/markdown" ∧
      Text.endsWith upload.name ".md" = true := by
  intro upload
  have hplain : IsPlainText "a,b\n \t## Part\nc,d" := by decide
  have hknown : IsKnown (Chars.trimStart " \t## Part".toList) :=
    @IsKnown.heading 2 (by decide) (by decide) "Part".toList
  exact ⟨hplain, (stored_as_markdown_iff hplain "plan" none).1.mpr
    ⟨" \t## Part".toList, by decide, hknown⟩⟩

/-- An item of a list is not enough: the text is stored as plain text. -/
theorem list_item_stored_as_plain :
    let upload := ofPaste "plan" .auto none "- item"
    IsPlainText "- item" ∧
      (∃ line ∈ Chars.lines "- item".toList, OpensElement (Chars.trimStart line)) ∧
      upload.mime = "text/plain" ∧ upload.name = "plan.txt" := by
  intro upload
  have hitem : OpensElement (Chars.trimStart "- item".toList) :=
    @OpensElement.item '-' (.inl rfl) "item".toList (by decide)
  exact ⟨by decide, ⟨"- item".toList, by decide, hitem⟩, by decide, by decide⟩

end ArtifactUpload
end Composer
