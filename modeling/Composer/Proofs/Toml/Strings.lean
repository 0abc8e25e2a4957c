import Composer.Toml.Printer
import Composer.Toml.Reader
set_option autoImplicit false

/-!
# Strings are read as they were written

What may stand between marks is a small grammar, which says of each piece which character it
spells and where marks may stand in a row. The printer writes only what the grammar allows,
whichever marks it chooses, and each of the three readers takes everything that the grammar allows
with its marks. So a text of any characters is read back as it was.
-/

namespace Composer.Toml

/-! ## What may stand between marks -/

/-- Some characters behind a backslash stand for one character. They do not look like a backslash at
the end of a line. -/
structure Spells (code : List Char) (c : Char) : Prop where
  escaped : ∀ rest, escaped? (code ++ rest) = some (c, rest)
  goesOn : ∀ rest, newline? (skipBlanks (code ++ rest)) = none

/-- What is written between marks, `limit` of which in a row would end it, with the text that it
spells; `run` marks precede. -/
inductive Spelled (mark : Char) (escapes : Bool) (limit : Nat) :
    (run : Nat) → (written text : List Char) → Prop
  | nil {run : Nat} : Spelled mark escapes limit run [] []
  | mark {run : Nat} {written text : List Char} (hrun : run + 1 < limit)
      (hrest : Spelled mark escapes limit (run + 1) written text) :
      Spelled mark escapes limit run (mark :: written) (mark :: text)
  | plain {run : Nat} {c : Char} {written text : List Char} (hplain : isPlain c = true)
      (hmark : c ≠ mark) (hbackslash : escapes = true → c ≠ '\\')
      (hrest : Spelled mark escapes limit 0 written text) :
      Spelled mark escapes limit run (c :: written) (c :: text)
  | newline {run : Nat} {written text : List Char} (hlong : limit ≠ 1)
      (hrest : Spelled mark escapes limit 0 written text) :
      Spelled mark escapes limit run ('\n' :: written) ('\n' :: text)
  | escape {run : Nat} {code : List Char} {c : Char} {written text : List Char}
      (hescapes : escapes = true) (hcode : Spells code c)
      (hrest : Spelled mark escapes limit 0 written text) :
      Spelled mark escapes limit run ('\\' :: (code ++ written)) (c :: text)

/-! ## What the printer writes -/

theorem isPlain_of_not_isHidden {c : Char} (hhidden : isHidden c = false) (hnewline : c ≠ '\n') :
    isPlain c = true := by
  by_cases htab : c = '\t'
  · simp [isPlain, htab]
  · simp only [isHidden, Bool.or_eq_false_iff, Bool.and_eq_false_iff] at hhidden
    simp only [isPlain, Bool.or_eq_true, Bool.and_eq_true]
    simp_all

theorem hexValue?_hexUpper : ∀ n < 16, Numeral.hexValue? (Numeral.hexUpper n) = some n := by
  decide

/-- A hidden character is one of the first 128. -/
theorem toNat_lt_of_isHidden {c : Char} (h : isHidden c = true) : c.toNat < 128 := by
  simp only [isHidden, Bool.or_eq_true, Bool.and_eq_true, decide_eq_true_eq, beq_iff_eq] at h
  omega

/-- A character of the first 128 is spelled by its code point in four digits. -/
theorem spells_codePoint {c : Char} (h : c.toNat < 128) :
    Spells ['u', '0', '0', Numeral.hexUpper (c.toNat / 16), Numeral.hexUpper (c.toNat % 16)] c := by
  refine ⟨?_, fun _ => rfl⟩
  intro rest
  have hzero : Numeral.hexValue? '0' = some 0 := by decide
  have hjoin : (((0 * 16 + 0) * 16 + 0) * 16 + c.toNat / 16) * 16 + c.toNat % 16 = c.toNat := by
    omega
  have hdigits : hexDigits? 4 0 ('0' :: '0' :: Numeral.hexUpper (c.toNat / 16)
      :: Numeral.hexUpper (c.toNat % 16) :: rest) = some (c.toNat, rest) := by
    simp only [hexDigits?, hzero, hexValue?_hexUpper _ (show c.toNat / 16 < 16 by omega),
      hexValue?_hexUpper _ (show c.toNat % 16 < 16 by omega), hjoin]
  have hscalar : scalar? c.toNat = some c := by
    rw [scalar?, if_pos (show c.toNat.isValidChar from c.valid), Char.ofNat_toNat]
  change codePoint? 4 ('0' :: '0' :: _ :: _ :: rest) = _
  rw [codePoint?, hdigits]
  simp only [bind, Option.bind, hscalar]
  rfl

/-- A character is written with a backslash, or it is a newline between three marks, or it stands
for itself. -/
theorem escape_cases (long : Bool) (c : Char) :
    (∃ code, escape long c = '\\' :: code ∧ Spells code c) ∨
    (long = true ∧ c = '\n' ∧ escape long c = ['\n']) ∨
    (escape long c = [c] ∧ isPlain c = true ∧ c ≠ '\\') := by
  unfold escape
  split
  case isTrue h => exact .inl ⟨['b'], rfl, h ▸ ⟨fun _ => rfl, fun _ => rfl⟩⟩
  split
  case isTrue h => exact .inl ⟨['t'], rfl, h ▸ ⟨fun _ => rfl, fun _ => rfl⟩⟩
  split
  case isTrue h =>
    cases long with
    | false => exact .inl ⟨['n'], rfl, h ▸ ⟨fun _ => rfl, fun _ => rfl⟩⟩
    | true => exact .inr (.inl ⟨rfl, h, rfl⟩)
  split
  case isTrue h => exact .inl ⟨['f'], rfl, h ▸ ⟨fun _ => rfl, fun _ => rfl⟩⟩
  split
  case isTrue h => exact .inl ⟨['r'], rfl, h ▸ ⟨fun _ => rfl, fun _ => rfl⟩⟩
  split
  case isTrue h =>
    refine .inl ⟨['\\'], rfl, ?_⟩
    rw [h]
    exact ⟨fun _ => rfl, fun _ => rfl⟩
  rename_i hnewline _ _ hbackslash
  split
  case isTrue h => exact .inl ⟨_, rfl, spells_codePoint (toNat_lt_of_isHidden h)⟩
  case isFalse h =>
    exact .inr (.inr ⟨rfl, isPlain_of_not_isHidden (by simpa using h) hnewline, hbackslash⟩)

/-- A text with its escapes is spelled between quotation marks. -/
theorem spelled_escapeAll {limit run : Nat} (hrun : run < limit) (cs : List Char) :
    Spelled '"' true limit run (escapeAll limit run cs) cs := by
  induction cs generalizing run with
  | nil => exact .nil
  | cons c cs ih =>
    have hzero : 0 < limit := by omega
    unfold escapeAll
    by_cases hquote : c = '"'
    · rw [if_pos hquote, hquote]
      by_cases hlimit : run + 1 = limit
      · rw [if_pos hlimit]
        have hcode : Spells ['"'] '"' := ⟨fun _ => rfl, fun _ => rfl⟩
        exact .escape rfl hcode (ih hzero)
      · rw [if_neg hlimit]
        exact .mark (by omega) (ih (by omega))
    · rw [if_neg hquote]
      rcases escape_cases (limit != 1) c with
        ⟨code, hwritten, hcode⟩ | ⟨hlong, rfl, hwritten⟩ | ⟨hwritten, hplain, hbackslash⟩
      · rw [hwritten]
        exact .escape rfl hcode (ih hzero)
      · rw [hwritten]
        exact .newline (by simpa using hlong) (ih hzero)
      · rw [hwritten]
        exact .plain hplain hquote (fun _ => hbackslash) (ih hzero)

/-! ## Texts without escapes -/

/-- The longest run of a character and the run at the end, after one more character. -/
def longerRun (x : Char) : Nat × Nat → Char → Nat × Nat := fun (longest, run) c =>
  if c = x then (max longest (run + 1), run + 1) else (longest, 0)

theorem longestRun_eq (x : Char) (cs : List Char) :
    longestRun x cs = (cs.foldl (longerRun x) (0, 0)).1 := rfl

theorem le_foldl_longerRun (x : Char) (cs : List Char) (runs : Nat × Nat) :
    runs.1 ≤ (cs.foldl (longerRun x) runs).1 := by
  induction cs generalizing runs with
  | nil => exact Nat.le_refl _
  | cons c cs ih =>
    have hstep : runs.1 ≤ (longerRun x runs c).1 := by
      dsimp only [longerRun]
      split
      · exact Nat.le_max_left _ _
      · exact Nat.le_refl _
    exact Nat.le_trans hstep (ih (longerRun x runs c))

theorem longestRun_of_not_mem {x : Char} {cs : List Char} (h : x ∉ cs) : longestRun x cs = 0 := by
  have hstays : cs.foldl (longerRun x) (0, 0) = (0, 0) := by
    induction cs with
    | nil => rfl
    | cons c cs ih =>
      rw [List.mem_cons, not_or] at h
      rw [List.foldl_cons, longerRun, if_neg (Ne.symm h.1)]
      exact ih h.2
  rw [longestRun_eq, hstays]

/-- A text without hidden characters and long runs of the mark spells itself. -/
theorem spelled_self {mark : Char} {limit longest run : Nat} {cs : List Char}
    (hhidden : ∀ c ∈ cs, isHidden c = false) (hnewline : limit = 1 → '\n' ∉ cs)
    (hruns : (cs.foldl (longerRun mark) (longest, run)).1 < limit) :
    Spelled mark false limit run cs cs := by
  -- The run that precedes is the one that the fold carries along.
  induction cs generalizing longest run with
  | nil => exact .nil
  | cons c cs ih =>
    rw [List.forall_mem_cons] at hhidden
    have hnewline' : limit = 1 → '\n' ∉ cs := fun hlimit hmem =>
      hnewline hlimit (List.mem_cons_of_mem c hmem)
    rw [List.foldl_cons, longerRun] at hruns
    by_cases hmark : c = mark
    · rw [if_pos hmark] at hruns
      have hle := le_foldl_longerRun mark cs (max longest (run + 1), run + 1)
      rw [hmark]
      exact .mark (by dsimp only at hle; omega) (ih hhidden.2 hnewline' hruns)
    · rw [if_neg hmark] at hruns
      by_cases hline : c = '\n'
      · rw [hline] at hnewline ⊢
        exact .newline (fun hlimit => hnewline hlimit List.mem_cons_self)
          (ih hhidden.2 hnewline' hruns)
      · exact .plain (isPlain_of_not_isHidden hhidden.1 hline) hmark (by simp)
          (ih hhidden.2 hnewline' hruns)

/-! ## The readers -/

section Readers

variable {run n : Nat} {written text rest : List Char}

/-- A string on one line is read up to its quotation mark. -/
theorem basicWithin_of_spelled (h : Spelled '"' true 1 run written text) (hn : written.length < n) :
    basicWithin n (written ++ '"' :: rest) = some (text, rest) := by
  induction h generalizing n with
  | nil =>
    obtain ⟨m, rfl⟩ : ∃ m, n = m + 1 := ⟨n - 1, by omega⟩
    rfl
  | mark hrun => omega
  | plain hplain hmark hbackslash hrest ih =>
    rw [List.length_cons] at hn
    obtain ⟨m, rfl⟩ : ∃ m, n = m + 1 := ⟨n - 1, by omega⟩
    rw [List.cons_append, basicWithin, if_neg hmark, if_neg (hbackslash rfl), if_pos hplain,
      ih (by omega), Option.map_some]
  | newline hlong => exact absurd rfl hlong
  | escape hescapes hcode hrest ih =>
    rw [List.length_cons, List.length_append] at hn
    obtain ⟨m, rfl⟩ : ∃ m, n = m + 1 := ⟨n - 1, by omega⟩
    rw [List.cons_append, List.append_assoc, basicWithin, if_neg (by decide), if_pos rfl,
      hcode.escaped]
    simp only [bind, Option.bind, ih (show _ < m by omega)]
    rfl

/-- A string without escapes is read up to its apostrophe. -/
theorem literal?_of_spelled (h : Spelled '\'' false 1 run written text) :
    literal? (written ++ '\'' :: rest) = some (text, rest) := by
  induction h with
  | nil => rfl
  | mark hrun => omega
  | plain hplain hmark hbackslash hrest ih =>
    rw [List.cons_append, literal?, if_neg hmark, if_pos hplain, ih, Option.map_some]
  | newline hlong => exact absurd rfl hlong
  | escape hescapes => exact absurd hescapes (by simp)

variable {mark : Char} {escapes : Bool}

/-- A run of marks is taken as a whole: a short one belongs to the text, a longer one ends it. -/
theorem linesWithin_run (hrun : 0 < run) (hrest : rest.head? ≠ some mark) :
    linesWithin mark escapes (n + 1) (List.replicate run mark ++ rest) =
      if run < 3 then
        (linesWithin mark escapes n rest).map fun (xs, rest) =>
          (List.replicate run mark ++ xs, rest)
      else if run ≤ 5 then some (List.replicate (run - 3) mark, rest)
      else none := by
  obtain ⟨k, rfl⟩ : ∃ k, run = k + 1 := ⟨run - 1, by omega⟩
  have hall : ∀ c ∈ List.replicate (k + 1) mark, (c == mark) = true := by
    intro c hc
    rw [List.eq_of_mem_replicate hc, beq_self_eq_true]
  have hstop : rest.takeWhile (· == mark) = [] := by
    cases rest with
    | nil => rfl
    | cons c rest =>
      rw [List.head?_cons, ne_eq, Option.some.injEq] at hrest
      rw [List.takeWhile_cons_of_neg (by simpa using hrest)]
  have htaken :
      (List.replicate (k + 1) mark ++ rest).takeWhile (· == mark) =
        List.replicate (k + 1) mark := by
    rw [List.takeWhile_append_of_pos hall, hstop, List.append_nil]
  have hdropped : (List.replicate (k + 1) mark ++ rest).drop (k + 1) = rest := by
    rw [List.drop_append_of_le_length (by simp), List.drop_replicate, Nat.sub_self]
    rfl
  rw [List.replicate_succ, List.cons_append] at htaken hdropped ⊢
  rw [linesWithin, if_pos rfl]
  simp only [htaken, List.length_cons, List.length_replicate, hdropped, List.replicate_succ]

theorem newline?_cons_of_ne {c : Char} (hline : c ≠ '\n') (hreturn : c ≠ '\r') (cs : List Char) :
    newline? (c :: cs) = none := by
  unfold newline?
  split
  · rename_i hcs
    exact absurd (List.cons.inj hcs).1 hline
  · rename_i hcs
    exact absurd (List.cons.inj hcs).1 hreturn
  · rfl

theorem newline?_cons_of_isPlain {c : Char} (h : isPlain c = true) (cs : List Char) :
    newline? (c :: cs) = none := by
  apply newline?_cons_of_ne
  · rintro rfl
    exact absurd h (by decide)
  · rintro rfl
    exact absurd h (by decide)

/-- A character that is no mark and starts no escape stands for itself. -/
theorem linesWithin_plain {c : Char} (hplain : isPlain c = true) (hother : c ≠ mark)
    (hbackslash : escapes = true → c ≠ '\\') (n : Nat) (cs : List Char) :
    linesWithin mark escapes (n + 1) (c :: cs)
      = (linesWithin mark escapes n cs).map fun (xs, rest) => (c :: xs, rest) := by
  have hnot : (escapes && c == '\\') = false := by
    cases escapes with
    | false => rfl
    | true => simpa using hbackslash rfl
  rw [linesWithin, if_neg hother, if_neg (by simp [hnot]), newline?_cons_of_isPlain hplain]
  simp only [hplain, if_true]

theorem linesWithin_newline (hline : '\n' ≠ mark) (n : Nat) (cs : List Char) :
    linesWithin mark escapes (n + 1) ('\n' :: cs)
      = (linesWithin mark escapes n cs).map fun (xs, rest) => ('\n' :: xs, rest) := by
  rw [linesWithin, if_neg hline, if_neg (by simp)]
  rfl

/-- What stands behind a backslash stands for the character that it spells. -/
theorem linesWithin_escape {code : List Char} {c : Char} (hescapes : escapes = true)
    (hcode : Spells code c) (hbackslash : '\\' ≠ mark) (n : Nat) (cs : List Char) :
    linesWithin mark escapes (n + 1) ('\\' :: code ++ cs)
      = (linesWithin mark escapes n cs).map fun (xs, rest) => (c :: xs, rest) := by
  rw [List.cons_append, linesWithin, if_neg hbackslash, if_pos (by simp [hescapes]), hcode.goesOn,
    hcode.escaped]
  simp only [bind, Option.bind]
  cases linesWithin mark escapes n cs <;> rfl

/-- The marks before a piece of the text belong to the text; then the piece is read, and then what
follows it. -/
theorem linesWithin_piece (front : List Char) {more : List Char} {c x : Char} (hx : x ≠ mark)
    (hpiece : ∀ n cs, linesWithin mark escapes (n + 1) (x :: front ++ cs)
      = (linesWithin mark escapes n cs).map fun (xs, rest) => (c :: xs, rest))
    (hmore : ∀ n, written.length < n →
      linesWithin mark escapes n (written ++ more) = some (text, rest))
    (hrun : run < 3) (hn : run + (x :: front ++ written).length < n) :
    linesWithin mark escapes n (List.replicate run mark ++ (x :: front ++ written ++ more))
      = some (List.replicate run mark ++ c :: text, rest) := by
  have hread : ∀ k, written.length + 1 < k →
      linesWithin mark escapes k (x :: front ++ written ++ more) = some (c :: text, rest) := by
    intro k hk
    obtain ⟨m, rfl⟩ : ∃ m, k = m + 1 := ⟨k - 1, by omega⟩
    rw [List.append_assoc, hpiece, hmore m (by omega), Option.map_some]
  rw [List.length_append, List.length_cons] at hn
  by_cases hzero : run = 0
  · subst hzero
    exact hread n (by omega)
  · obtain ⟨k, rfl⟩ : ∃ k, n = k + 1 := ⟨n - 1, by omega⟩
    rw [linesWithin_run (by omega) (by simpa using hx), if_pos hrun, hread k (by omega),
      Option.map_some]

/-- A string of several lines is read up to its three marks. -/
theorem linesWithin_of_spelled (hmark : mark = '"' ∨ mark = '\'') (hrest : rest.head? ≠ some mark)
    (h : Spelled mark escapes 3 run written text) (hrun : run < 3)
    (hn : run + written.length < n) :
    linesWithin mark escapes n
        (List.replicate run mark ++ (written ++ mark :: mark :: mark :: rest))
      = some (List.replicate run mark ++ text, rest) := by
  have hbackslash : '\\' ≠ mark := by rcases hmark with rfl | rfl <;> decide
  have hline : '\n' ≠ mark := by rcases hmark with rfl | rfl <;> decide
  -- The reader takes marks in a row at once, so those that precede are part of what it is given.
  induction h generalizing n with
  | @nil run =>
    obtain ⟨m, rfl⟩ : ∃ m, n = m + 1 := ⟨n - 1, by omega⟩
    have hmarks : List.replicate run mark ++ ([] ++ mark :: mark :: mark :: rest)
        = List.replicate (run + 3) mark ++ rest := by
      rw [← List.replicate_append_replicate, List.append_assoc]
      rfl
    rw [hmarks, linesWithin_run (by omega) hrest, if_neg (by omega), if_pos (by omega),
      Nat.add_sub_cancel, List.append_nil]
  | mark hlimit _ ih =>
    rw [List.length_cons] at hn
    have hnext := ih hlimit (n := n) (by omega)
    rw [List.replicate_succ', List.append_assoc, List.append_assoc] at hnext
    exact hnext
  | plain hplain hother hescaped _ ih =>
    exact linesWithin_piece [] hother (linesWithin_plain hplain hother hescaped)
      (fun k hk => ih (n := k) (by omega) (by omega)) hrun hn
  | newline hlong _ ih =>
    exact linesWithin_piece [] hline (linesWithin_newline hline)
      (fun k hk => ih (n := k) (by omega) (by omega)) hrun hn
  | escape hescapes hcode _ ih =>
    exact linesWithin_piece _ hbackslash (linesWithin_escape hescapes hcode hbackslash)
      (fun k hk => ih (n := k) (by omega) (by omega)) hrun hn

/-- Without a newline at its start the text is not taken for one that begins on the next line. -/
theorem newline?_of_spelled {limit : Nat} (hmark : mark = '"' ∨ mark = '\'')
    (h : Spelled mark escapes limit run written text) (hline : '\n' ∉ text) :
    newline? (written ++ mark :: rest) = none := by
  have hplainMark : isPlain mark = true := by rcases hmark with rfl | rfl <;> decide
  cases h with
  | nil => exact newline?_cons_of_isPlain hplainMark rest
  | mark => exact newline?_cons_of_isPlain hplainMark _
  | plain hplain => exact newline?_cons_of_isPlain hplain _
  | newline => exact absurd List.mem_cons_self hline
  | escape => exact newline?_cons_of_isPlain (by decide) _

/-- A string between three marks is read, whether it begins behind them or on the next line. -/
theorem lines?_of_spelled (hmark : mark = '"' ∨ mark = '\'') (hrest : rest.head? ≠ some mark)
    (h : Spelled mark escapes 3 0 written text) :
    lines? mark escapes ((if text.contains '\n' then ['\n'] else [])
      ++ (written ++ mark :: mark :: mark :: rest)) = some (text, rest) := by
  have hbody : (newline? ((if text.contains '\n' then ['\n'] else [])
      ++ (written ++ mark :: mark :: mark :: rest))).getD
        ((if text.contains '\n' then ['\n'] else []) ++ (written ++ mark :: mark :: mark :: rest))
      = written ++ mark :: mark :: mark :: rest := by
    by_cases hline : '\n' ∈ text
    · rw [if_pos (List.contains_iff_mem.mpr hline)]
      rfl
    · rw [if_neg (by simpa using hline), List.nil_append, newline?_of_spelled hmark h hline]
      rfl
  have hread := linesWithin_of_spelled (n := (written ++ mark :: mark :: mark :: rest).length + 1)
    hmark hrest h (by omega) (by rw [List.length_append]; omega)
  unfold lines?
  dsimp only
  rw [hbody]
  exact hread

end Readers

/-! ## Quoting -/

/-- Between single marks nothing starts with the mark. -/
theorem head?_of_spelled {mark : Char} {escapes : Bool} {run : Nat} {written text : List Char}
    (h : Spelled mark escapes 1 run written text) (hmark : mark ≠ '\\') :
    written.head? ≠ some mark := by
  cases h with
  | nil => simp
  | mark hrun => omega
  | plain hplain hother => simpa using hother
  | newline hlong => exact absurd rfl hlong
  | escape => simpa using hmark.symm

/-- Two marks with nothing between them, or one mark and something else, do not make three. -/
theorem string?_basic {written rest : List Char} (hhead : written.head? ≠ some '"')
    (hrest : rest.head? ≠ some '"') :
    string? ('"' :: (written ++ '"' :: rest))
      = basicWithin ((written ++ '"' :: rest).length + 1) (written ++ '"' :: rest) := by
  cases written with
  | nil =>
    cases rest with
    | nil => rfl
    | cons c rest => simp_all [string?]
  | cons c written => simp_all [string?]

theorem string?_literal {written rest : List Char} (hhead : written.head? ≠ some '\'')
    (hrest : rest.head? ≠ some '\'') :
    string? ('\'' :: (written ++ '\'' :: rest)) = literal? (written ++ '\'' :: rest) := by
  cases written with
  | nil =>
    cases rest with
    | nil => rfl
    | cons c rest => simp_all [string?]
  | cons c written => simp_all [string?]

/-- Apostrophes are chosen for a text on one line that has no apostrophe and nothing hidden. -/
theorem spelled_of_literal {cs : List Char} (h : Style.of cs = .literal) :
    Spelled '\'' false 1 0 cs cs := by
  have hchosen : '\n' ∉ cs ∧ (∀ c ∈ cs, isHidden c = false) ∧ '\'' ∉ cs := by
    unfold Style.of at h
    dsimp only at h
    split at h
    · exact absurd h (by simp)
    split at h
    case isTrue hmay => simpa [and_assoc] using hmay
    case isFalse =>
      split at h
      · exact absurd h (by simp)
      split at h
      · exact absurd h (by simp)
      split at h <;> exact absurd h (by simp)
  have hruns : (cs.foldl (longerRun '\'') (0, 0)).1 < 1 := by
    rw [← longestRun_eq, longestRun_of_not_mem hchosen.2.2]
    omega
  exact spelled_self hchosen.2.1 (fun _ => hchosen.1) hruns

/-- Three apostrophes are chosen only for a text that has no three of them and nothing hidden. -/
theorem spelled_of_longLiteral {cs : List Char} (h : Style.of cs = .longLiteral) :
    Spelled '\'' false 3 0 cs cs := by
  have hchosen : (∀ c ∈ cs, isHidden c = false) ∧ longestRun '\'' cs ≤ 2 := by
    unfold Style.of at h
    dsimp only at h
    split at h
    · exact absurd h (by simp)
    split at h
    · exact absurd h (by simp)
    split at h
    · exact absurd h (by simp)
    split at h
    case isTrue hmay => simpa using hmay
    case isFalse => split at h <;> exact absurd h (by simp)
  have hruns : (cs.foldl (longerRun '\'') (0, 0)).1 < 3 := by
    rw [← longestRun_eq]
    omega
  exact spelled_self hchosen.1 (by omega) hruns

/-- A text of any characters is read back from its quoted form, behind which the line ends. -/
theorem string?_quote (cs rest : List Char) :
    string? (quote cs ++ '\n' :: rest) = some (cs, '\n' :: rest) := by
  have hquote : ('\n' :: rest).head? ≠ some '"' := by simp
  have hapostrophe : ('\n' :: rest).head? ≠ some '\'' := by simp
  unfold quote
  dsimp only
  split
  case h_1 =>
    have hspelled : Spelled '"' true 1 0 (escapeAll 1 0 cs) cs := spelled_escapeAll (by omega) cs
    rw [List.cons_append, List.cons_append, List.append_assoc, List.singleton_append,
      string?_basic (head?_of_spelled hspelled (by decide)) hquote]
    exact basicWithin_of_spelled hspelled (by rw [List.length_append]; omega)
  case h_2 hstyle =>
    have hspelled := spelled_of_literal hstyle
    rw [List.cons_append, List.cons_append, List.append_assoc, List.singleton_append,
      string?_literal (head?_of_spelled hspelled (by decide)) hapostrophe]
    exact literal?_of_spelled hspelled
  case h_3 =>
    have hspelled : Spelled '"' true 3 0 (escapeAll 3 0 cs) cs := spelled_escapeAll (by omega) cs
    have hread := lines?_of_spelled (.inl rfl) hquote hspelled
    simpa [string?] using hread
  case h_4 hstyle =>
    have hread := lines?_of_spelled (.inr rfl) hapostrophe (spelled_of_longLiteral hstyle)
    simpa [string?] using hread

-- A backslash asks for apostrophes, an apostrophe in the text for three of them.
example : quote ['i', '\'', '\\']
    = ['\'', '\'', '\'', 'i', '\'', '\\', '\'', '\'', '\''] := by
  decide

end Composer.Toml
