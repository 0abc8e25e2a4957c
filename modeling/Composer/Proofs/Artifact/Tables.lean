import Composer.Proofs.Artifact.LineEnds
import Composer.Proofs.Artifact.Markdown
import Composer.Proofs.Text.Lines
set_option autoImplicit false

/-!
# Texts that are taken for tables

A table is written as rows of cells, with line ends of both kinds between the rows, and white
space where nobody minds it: around the rows, on lines between them, and inside the cells. Only
the commas of a row are counted, and no white space is one; so all rows count, each for its cells,
and the blank lines between them for nothing.
-/

namespace Composer
namespace Detection

/-! ## What counts as a row -/

theorem rowCommas_of_not_mem {line : List Char} (h : '\n' ∉ line) :
    rowCommas line = if Chars.isBlank line then [] else [commas line] := by
  cases line with
  | nil => rfl
  | cons c line =>
    rw [rowCommas, Chars.lines_of_not_mem h (List.cons_ne_nil c line), List.filter_singleton]
    cases Chars.isBlank (c :: line) <;> rfl

/-- A carriage return in front of a newline makes no difference to the row. -/
theorem rowCommas_line_newline {line : List Char} (h : '\n' ∉ line) (rest : List Char) :
    rowCommas (line ++ '\n' :: rest) = rowCommas line ++ rowCommas rest := by
  obtain ⟨first, hsame, hlines⟩ := Chars.lines_append_newline h rest
  have hcommas : commas line = commas first := hsame.count_eq (by decide)
  rw [rowCommas_of_not_mem h, rowCommas, hlines, List.filter_cons, hsame.isBlank_eq, hcommas]
  cases Chars.isBlank first <;> rfl

/-- The rows in front of a newline and those behind it are counted apart. -/
theorem rowCommas_append_newline (front back : List Char) :
    rowCommas (front ++ '\n' :: back) = rowCommas front ++ rowCommas back := by
  induction front using Chars.newline_induction with
  | line front hfront => exact rowCommas_line_newline hfront back
  | newline line rest hline ih =>
    rw [List.append_assoc, List.cons_append, rowCommas_line_newline hline, ih,
      rowCommas_line_newline hline, List.append_assoc]

/-! ## White space -/

theorem ne_comma_of_isSpace {c : Char} (h : Chars.isSpace c = true) : c ≠ ',' := by
  rintro rfl
  exact absurd h (by decide)

theorem rowCommas_space_cons {c : Char} (h : Chars.isSpace c = true) (cs : List Char) :
    rowCommas (c :: cs) = rowCommas cs := by
  by_cases hc : c = '\n'
  · rw [hc]
    exact rowCommas_append_newline [] cs
  · have hrow : ∀ line, '\n' ∉ line → rowCommas (c :: line) = rowCommas line := by
      intro line hline
      have hmem : '\n' ∉ c :: line := by simp [hline, Ne.symm hc]
      have hblank : Chars.isBlank (c :: line) = Chars.isBlank line := by
        rw [Chars.isBlank, List.all_cons, h, Bool.true_and, Chars.isBlank]
      have hcommas : commas (c :: line) = commas line :=
        List.count_cons_of_ne (ne_comma_of_isSpace h)
      rw [rowCommas_of_not_mem hmem, rowCommas_of_not_mem hline, hblank, hcommas]
    induction cs using Chars.newline_induction with
    | line line hline => exact hrow line hline
    | newline line rest hline _ =>
      rw [← List.cons_append, rowCommas_append_newline, hrow line hline, rowCommas_append_newline]

theorem rowCommas_append_space {c : Char} (h : Chars.isSpace c = true) (cs : List Char) :
    rowCommas (cs ++ [c]) = rowCommas cs := by
  by_cases hc : c = '\n'
  · rw [hc, rowCommas_append_newline]
    exact List.append_nil _
  · induction cs using Chars.newline_induction with
    | line line hline =>
      have hmem : '\n' ∉ line ++ [c] := by simp [hline, Ne.symm hc]
      have hblank : Chars.isBlank (line ++ [c]) = Chars.isBlank line := by
        rw [Chars.isBlank_append, Bool.and_eq_left_iff_imp]
        exact fun _ => Chars.isBlank_iff.mpr (by simpa using h)
      have hcommas : commas (line ++ [c]) = commas line := by
        simp [commas, List.count_append, ne_comma_of_isSpace h]
      rw [rowCommas_of_not_mem hmem, rowCommas_of_not_mem hline, hblank, hcommas]
    | newline line rest _ ih =>
      rw [List.append_assoc, List.cons_append, rowCommas_append_newline, ih,
        rowCommas_append_newline]

theorem rowCommas_blank_append {blank : List Char} (h : Chars.isBlank blank = true)
    (cs : List Char) : rowCommas (blank ++ cs) = rowCommas cs := by
  induction blank with
  | nil => rfl
  | cons c blank ih =>
    obtain ⟨hc, hblank⟩ := List.forall_mem_cons.mp (Chars.isBlank_iff.mp h)
    rw [List.cons_append, rowCommas_space_cons hc, ih (Chars.isBlank_iff.mpr hblank)]

theorem rowCommas_append_blank {blank : List Char} (h : Chars.isBlank blank = true)
    (cs : List Char) : rowCommas (cs ++ blank) = rowCommas cs := by
  induction blank generalizing cs with
  | nil => rw [List.append_nil]
  | cons c blank ih =>
    obtain ⟨hc, hblank⟩ := List.forall_mem_cons.mp (Chars.isBlank_iff.mp h)
    rw [List.append_cons, ih (Chars.isBlank_iff.mpr hblank), rowCommas_append_space hc]

/-- Trimming cuts off nothing that counts. -/
theorem rowCommas_trim (cs : List Char) : rowCommas (Chars.trim cs) = rowCommas cs := by
  obtain ⟨before, after, hbefore, hafter, hcs⟩ := Chars.exists_trim_surrounded cs
  conv_rhs => rw [hcs, rowCommas_append_blank hafter, rowCommas_blank_append hbefore]

/-! ## Tables -/

/-- A row: two cells at least, without commas and newlines. -/
structure Row where
  cells : List (List Char)
  two_le : 2 ≤ cells.length
  comma_not_mem : ∀ cell ∈ cells, ',' ∉ cell
  newline_not_mem : ∀ cell ∈ cells, '\n' ∉ cell

/-- The row as it is written. -/
def Row.chars (row : Row) : List Char := List.intercalate [','] row.cells

/-- What ends the line of a row. -/
inductive LineEnd where
  | newline
  | returnNewline

def LineEnd.chars : LineEnd → List Char
  | newline => ['\n']
  | returnNewline => ['\r', '\n']

/-- A row below another: the end of that one's line, white space such as blank
lines, and the row. -/
structure RowBelow where
  ending : LineEnd
  blank : List Char
  isBlank_blank : Chars.isBlank blank = true
  row : Row

def RowBelow.chars (below : RowBelow) : List Char :=
  below.ending.chars ++ (below.blank ++ below.row.chars)

/-- A table of two rows or more, with white space around it. -/
structure Table where
  before : List Char
  first : Row
  below : List RowBelow
  after : List Char
  isBlank_before : Chars.isBlank before = true
  below_ne_nil : below ≠ []
  isBlank_after : Chars.isBlank after = true

namespace Table

def rows (t : Table) : List Row := t.first :: t.below.map RowBelow.row

/-- The table as it is written. -/
def text (t : Table) : String :=
  String.ofList (t.before ++ (t.first.chars ++ t.below.flatMap RowBelow.chars) ++ t.after)

end Table

/-! ## What is counted in a table -/

/-- Between cells that are joined there is one comma less than there are cells. -/
theorem commas_intercalate {cells : List (List Char)} (h : ∀ cell ∈ cells, ',' ∉ cell) :
    commas (List.intercalate [','] cells) = cells.length - 1 := by
  induction cells with
  | nil => rfl
  | cons cell cells ih =>
    rw [List.forall_mem_cons] at h
    have hcell : cell.count ',' = 0 := List.count_eq_zero_of_not_mem h.1
    cases cells with
    | nil => rw [List.intercalate_singleton, commas, hcell]; rfl
    | cons next cells =>
      have hrest := ih h.2
      rw [commas] at hrest
      rw [List.intercalate_cons_cons, commas, List.count_append, List.count_append, hcell, hrest]
      simp only [List.length_cons, List.count_singleton_self]
      omega

theorem newline_not_mem_intercalate {cells : List (List Char)} (h : ∀ cell ∈ cells, '\n' ∉ cell) :
    '\n' ∉ List.intercalate [','] cells := by
  induction cells with
  | nil => exact List.not_mem_nil
  | cons cell cells ih =>
    rw [List.forall_mem_cons] at h
    cases cells with
    | nil =>
      rw [List.intercalate_singleton]
      exact h.1
    | cons next cells =>
      rw [List.intercalate_cons_cons]
      simp [h.1, ih h.2]

/-- A row counts, whatever its cells hold: it has a comma. -/
theorem Row.rowCommas_chars (row : Row) : rowCommas row.chars = [row.cells.length - 1] := by
  have hcommas : commas row.chars = row.cells.length - 1 := commas_intercalate row.comma_not_mem
  have hline : '\n' ∉ row.chars := newline_not_mem_intercalate row.newline_not_mem
  have htwo := row.two_le
  have hnonblank : Chars.isBlank row.chars = false := by
    rw [Bool.eq_false_iff]
    intro hblank
    have hmem : ',' ∈ row.chars := List.count_pos_iff.mp (by rw [← commas]; omega)
    exact ne_comma_of_isSpace (Chars.isBlank_iff.mp hblank ',' hmem) rfl
  rw [rowCommas_of_not_mem hline, hnonblank, hcommas]
  rfl

theorem rowCommas_ending (front : List Char) (e : LineEnd) (back : List Char) :
    rowCommas (front ++ (e.chars ++ back)) = rowCommas front ++ rowCommas back := by
  cases e with
  | newline => exact rowCommas_append_newline front back
  | returnNewline =>
    have hsplit : front ++ (LineEnd.returnNewline.chars ++ back) =
        (front ++ ['\r']) ++ '\n' :: back := by simp [LineEnd.chars]
    rw [hsplit, rowCommas_append_newline, rowCommas_append_space (by decide)]

theorem rowCommas_below (first : Row) (below : List RowBelow) :
    rowCommas (first.chars ++ below.flatMap RowBelow.chars) =
      (first :: below.map RowBelow.row).map fun row => row.cells.length - 1 := by
  induction below generalizing first with
  | nil =>
    rw [List.flatMap_nil, List.append_nil, first.rowCommas_chars]
    rfl
  | cons next below ih =>
    rw [List.flatMap_cons, RowBelow.chars, List.append_assoc, List.append_assoc, rowCommas_ending,
      rowCommas_blank_append next.isBlank_blank, first.rowCommas_chars, ih next.row]
    rfl

theorem Table.rowCommas_text (t : Table) :
    rowCommas (Chars.trim t.text.toList) = t.rows.map fun row => row.cells.length - 1 := by
  rw [rowCommas_trim, Table.text, String.toList_ofList, rowCommas_append_blank t.isBlank_after,
    rowCommas_blank_append t.isBlank_before, rowCommas_below, Table.rows]

/-! ## The kind of a table -/

theorem isUniform_iff {ns : List Nat} :
    isUniform ns = true ↔ 2 ≤ ns.length ∧ ∃ n, n ≠ 0 ∧ ∀ k ∈ ns, k = n := by
  match ns with
  | [] => simp [isUniform]
  | [_] => simp [isUniform]
  | first :: second :: rest =>
    rw [isUniform, Bool.and_eq_true, bne_iff_ne, List.all_eq_true]
    constructor
    · rintro ⟨hne, hall⟩
      refine ⟨by simp, first, hne, ?_⟩
      rw [List.forall_mem_cons]
      exact ⟨rfl, fun k hk => beq_iff_eq.mp (hall k hk)⟩
    · rintro ⟨-, n, hne, hall⟩
      obtain ⟨rfl, hrest⟩ := List.forall_mem_cons.mp hall
      exact ⟨hne, fun k hk => beq_iff_eq.mpr (hrest k hk)⟩

theorem two_le_length_rows (t : Table) : 2 ≤ t.rows.length := by
  have hbelow := List.length_pos_of_ne_nil t.below_ne_nil
  rw [Table.rows, List.length_cons, List.length_map]
  omega

/-- The commas are as many in all rows exactly if the cells are. -/
theorem isUniform_rows_iff (t : Table) :
    isUniform (t.rows.map fun row => row.cells.length - 1) = true ↔
      ∃ k, ∀ row ∈ t.rows, row.cells.length = k := by
  rw [isUniform_iff, List.length_map]
  simp only [List.forall_mem_map]
  constructor
  · rintro ⟨-, n, -, hall⟩
    refine ⟨n + 1, fun row hrow => ?_⟩
    have htwo := row.two_le
    have hcommas := hall row hrow
    omega
  · rintro ⟨k, hall⟩
    have hfirst := hall t.first List.mem_cons_self
    have htwo := t.first.two_le
    refine ⟨two_le_length_rows t, k - 1, by omega, fun row hrow => ?_⟩
    rw [hall row hrow]

/-- What is no Markdown is told by its rows. -/
theorem mimeType_of_table {t : Table} (hplain : IsPlainText t.text)
    (hmarkdown : ∀ line ∈ Chars.lines (Chars.trim t.text.toList), ¬IsKnown (Chars.trimStart line)) :
    mimeType t.text =
      if isUniform (t.rows.map fun row => row.cells.length - 1) then "text/csv"
      else "text/plain" := by
  have hnone : isMarkdown (Chars.trim t.text.toList) = false := by
    rw [Bool.eq_false_iff, Ne, isMarkdown_iff]
    rintro ⟨line, hline, hknown⟩
    exact hmarkdown line hline hknown
  rw [mimeType_of_isPlainText hplain, hnone, isTable_eq, t.rowCommas_text,
    if_neg Bool.false_ne_true]

/-- A table that begins neither like JSON nor like markup, and of which no line is known as one of
Markdown, is taken for comma-separated values if all its rows have the same number of cells, and for
plain text if two of them have different numbers. -/
theorem table_told_by_rows {t : Table} (hplain : IsPlainText t.text)
    (hmarkdown : ∀ line ∈ Chars.lines (Chars.trim t.text.toList), ¬IsKnown (Chars.trimStart line)) :
    (∀ k, (∀ row ∈ t.rows, row.cells.length = k) → mimeType t.text = "text/csv") ∧
    ∀ row ∈ t.rows, ∀ row' ∈ t.rows, row.cells.length ≠ row'.cells.length →
      mimeType t.text = "text/plain" := by
  rw [mimeType_of_table hplain hmarkdown]
  constructor
  · intro k hall
    rw [if_pos ((isUniform_rows_iff t).mpr ⟨k, hall⟩)]
  · intro row hrow row' hrow' hne
    refine if_neg fun huniform => ?_
    obtain ⟨k, hall⟩ := (isUniform_rows_iff t).mp huniform
    exact hne ((hall row hrow).trans (hall row' hrow').symm)

/-- Rows with blank cells and a stray carriage return, a blank line between them and white space
around them; and the same with a cell more in the last row. -/
theorem table_with_blank_cells :
    let first : Row := ⟨[" ".toList, "é".toList], by decide, by decide, by decide⟩
    let second : Row := ⟨["\u3000".toList, []], by decide, by decide, by decide⟩
    let third : Row := ⟨["1\r".toList, " ".toList, "x".toList], by decide, by decide, by decide⟩
    let even : Table :=
      ⟨"\n\t".toList, first, [⟨.returnNewline, " \n".toList, by decide, second⟩], "\n\n".toList,
        by decide, by decide, by decide⟩
    let ragged : Table :=
      ⟨[], first, [⟨.newline, [], by decide, second⟩, ⟨.newline, [], by decide, third⟩], [],
        by decide, by decide, by decide⟩
    even.text = "\n\t ,é\r\n \n\u3000,\n\n" ∧ IsPlainText even.text ∧
      (∀ row ∈ even.rows, row.cells.length = 2) ∧ mimeType even.text = "text/csv" ∧
      ragged.text = " ,é\n\u3000,\n1\r, ,x" ∧ mimeType ragged.text = "text/plain" := by
  intro first second third even ragged
  have hplain : ∀ t ∈ [even, ragged], IsPlainText t.text := by decide
  have hmarkdown : ∀ t ∈ [even, ragged], ∀ line ∈ Chars.lines (Chars.trim t.text.toList),
      ¬IsKnown (Chars.trimStart line) := by
    have hnone : ∀ t ∈ [even, ragged], isMarkdown (Chars.trim t.text.toList) = false := by decide
    intro t ht line hline hknown
    exact absurd (isMarkdown_iff.mpr ⟨line, hline, hknown⟩) (by rw [hnone t ht]; decide)
  have heven : even ∈ [even, ragged] := List.mem_cons_self
  have hragged : ragged ∈ [even, ragged] := by simp
  have hcells : ∀ row ∈ even.rows, row.cells.length = 2 := by decide
  have hcsv := (table_told_by_rows (hplain even heven) (hmarkdown even heven)).1 2 hcells
  have hlast : mimeType ragged.text = "text/plain" :=
    (table_told_by_rows (hplain ragged hragged) (hmarkdown ragged hragged)).2 first
      List.mem_cons_self third (by simp [ragged, Table.rows]) (by decide)
  exact ⟨by decide, hplain even heven, hcells, hcsv, by decide, hlast⟩

end Detection
end Composer
