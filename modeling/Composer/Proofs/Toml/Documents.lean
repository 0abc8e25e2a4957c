import Composer.Proofs.Toml.Strings
set_option autoImplicit false

/-!
# Documents are read as they were written

Sections whose names and keys need no quotation marks, and whose numbers fit, are read back as their
statements. Every line is read on its own, so what a text says is stated by its lines.
-/

namespace Composer.Toml

/-! ## Sections that can be written -/

/-- A key that needs no quotation marks. -/
def IsBareKey (key : String) : Prop := key.toList ≠ [] ∧ ∀ c ∈ key.toList, isKeyChar c = true

instance (key : String) : Decidable (IsBareKey key) :=
  decidable_of_iff ((!key.toList.isEmpty && key.toList.all isKeyChar) = true) (by simp [IsBareKey])

/-- A number fits into the signed numbers that a document may hold; a text always can be written. -/
def Setting.Fits : Setting → Prop
  | text _ => True
  | number n => n ≤ Numeral.maxSigned

/-- A section that can be written so that it can be read. -/
structure Section.IsWritable (s : Section) : Prop where
  name : IsBareKey s.name
  keys : ∀ setting ∈ s.settings, IsBareKey setting.1
  fits : ∀ setting ∈ s.settings, setting.2.Fits

/-! ## Characters -/

theorem ne_of_isKeyChar {c d : Char} (hc : isKeyChar c = true) (hd : isKeyChar d = false) :
    c ≠ d := by
  rintro rfl
  rw [hc] at hd
  exact absurd hd (by simp)

theorem isKeyChar_of_isDigit {c : Char} (h : Numeral.isDigit c = true) : isKeyChar c = true := by
  simp [isKeyChar, h]

theorem isRunChar_of_isDigit {c : Char} (h : Numeral.isDigit c = true) : isRunChar c = true := by
  simp [isRunChar, isKeyChar_of_isDigit h]

theorem isBlank_of_isKeyChar {c : Char} (h : isKeyChar c = true) : isBlank c = false := by
  rw [isBlank, Bool.or_eq_false_iff, beq_eq_false_iff_ne, beq_eq_false_iff_ne]
  exact ⟨ne_of_isKeyChar h (by decide), ne_of_isKeyChar h (by decide)⟩

theorem skipBlanks_cons {c : Char} (h : isBlank c = false) (cs : List Char) :
    skipBlanks (c :: cs) = c :: cs :=
  List.dropWhile_cons_of_neg (by simp [h])

/-- What a class of characters takes from the front of a text ends at the first other one. -/
theorem takeWhile_append_stop {p : Char → Bool} {front : List Char} {c : Char}
    (hfront : ∀ d ∈ front, p d = true) (hc : p c = false) (rest : List Char) :
    (front ++ c :: rest).takeWhile p = front := by
  rw [List.takeWhile_append_of_pos hfront, List.takeWhile_cons_of_neg (by simp [hc]),
    List.append_nil]

theorem dropWhile_append_stop {p : Char → Bool} {front : List Char} {c : Char}
    (hfront : ∀ d ∈ front, p d = true) (hc : p c = false) (rest : List Char) :
    (front ++ c :: rest).dropWhile p = c :: rest := by
  rw [List.dropWhile_append_of_pos hfront, List.dropWhile_cons_of_neg (by simp [hc])]

/-! ## Numbers -/

/-- Digits without underscores are read as they are. -/
theorem groupedDigits?_of_isDigit {ds : List Char} (hne : ds ≠ [])
    (h : ∀ c ∈ ds, Numeral.isDigit c = true) : groupedDigits? Numeral.isDigit ds = some ds := by
  induction ds with
  | nil => exact absurd rfl hne
  | cons c ds ih =>
    rw [List.forall_mem_cons] at h
    cases ds with
    | nil => simp [groupedDigits?, h.1]
    | cons d ds =>
      have hd : d ≠ '_' := by
        have hdigit := h.2 d List.mem_cons_self
        rintro rfl
        exact absurd hdigit (by decide)
      have hrest := ih (by simp) h.2
      unfold groupedDigits?
      split
      · rename_i heq
        simp at heq
      · rename_i heq
        simp at heq
      · rename_i heq
        simp only [List.cons.injEq] at heq
        exact absurd heq.2.1 hd
      · rename_i heq
        simp only [List.cons.injEq] at heq
        obtain ⟨rfl, rfl, rfl⟩ := heq
        rw [if_pos h.1, hrest, Option.map_some]

theorem signed_of_isDigit {c : Char} (h : Numeral.isDigit c = true) (cs : List Char) :
    signed (c :: cs) = (false, c :: cs) := by
  unfold signed
  split
  · rename_i heq
    rw [(List.cons.inj heq).1] at h
    exact absurd h (by decide)
  · rename_i heq
    rw [(List.cons.inj heq).1] at h
    exact absurd h (by decide)
  · rfl

/-- Decimal digits are a magnitude without a sign, and not one of another base. -/
theorem magnitude?_of_isDigit {ds : List Char} (h : ∀ c ∈ ds, Numeral.isDigit c = true) :
    magnitude? ds = (wholeDigits? ds).map fun ds => (false, Numeral.ofDigits ds) := by
  have hbase : ∀ {x : Char} {cs : List Char}, Numeral.isDigit x = false → ds ≠ '0' :: x :: cs := by
    rintro x cs hx rfl
    rw [h x (by simp)] at hx
    exact absurd hx (by simp)
  unfold magnitude?
  split
  · exact absurd rfl (hbase (by decide))
  · exact absurd rfl (hbase (by decide))
  · exact absurd rfl (hbase (by decide))
  · cases ds with
    | nil => rfl
    | cons c ds => rw [signed_of_isDigit (h c List.mem_cons_self)]

/-- A number is read back from its digits if it fits. -/
theorem integer?_digits {n : Nat} (h : n ≤ Numeral.maxSigned) :
    integer? (Numeral.digits n) = some (n : Int) := by
  obtain ⟨c, cs, hdigits, hzero⟩ := Numeral.exists_digits_eq_cons n
  have hgrouped := groupedDigits?_of_isDigit (by simp [hdigits]) (Numeral.isDigit_of_mem_digits n)
  have hwhole : wholeDigits? (Numeral.digits n) = some (Numeral.digits n) := by
    unfold wholeDigits?
    rw [hgrouped]
    split
    · rename_i d ds heq
      rw [Option.some.injEq, hdigits, List.cons.injEq] at heq
      have hn := hzero heq.1
      rw [hn] at hdigits
      have hone : Numeral.digits 0 = ['0'] := by
        rw [Numeral.digits]
        rfl
      rw [hone, List.cons.injEq] at hdigits
      rw [← hdigits.2] at heq
      exact absurd heq.2 (by simp)
    · rfl
  unfold integer?
  rw [magnitude?_of_isDigit (Numeral.isDigit_of_mem_digits n), hwhole, Option.map_some,
    Numeral.ofDigits_digits]
  simp [h]

/-- A run at the end of a line is taken as a whole. -/
theorem takeRun_line {run : List Char} (h : ∀ c ∈ run, isRunChar c = true) (rest : List Char) :
    takeRun (run ++ '\n' :: rest) = (run, '\n' :: rest) := by
  unfold takeRun
  rw [takeWhile_append_stop h (by decide), dropWhile_append_stop h (by decide)]
  dsimp only
  split
  · rename_i heq
    simp at heq
  · rfl

/-! ## Values -/

/-- A quoted text begins with a mark. -/
theorem exists_quote_eq_cons (cs : List Char) :
    ∃ c rest, quote cs = c :: rest ∧ (c = '"' ∨ c = '\'') := by
  unfold quote
  dsimp only
  split
  · exact ⟨_, _, rfl, .inl rfl⟩
  · exact ⟨_, _, rfl, .inr rfl⟩
  · exact ⟨_, _, rfl, .inl rfl⟩
  · exact ⟨_, _, rfl, .inr rfl⟩

/-- What begins with a mark is read as a string. -/
theorem value?_of_mark {c : Char} (h : c = '"' ∨ c = '\'') (depth : Nat) (cs : List Char) :
    value? depth (c :: cs)
      = (string? (c :: cs)).map fun (s, rest) => (.string (String.ofList s), rest) := by
  rcases h with rfl | rfl <;> simp [value?]

/-- What begins with a digit is read as a run. -/
theorem value?_of_isDigit {c : Char} (h : Numeral.isDigit c = true) (depth : Nat)
    (cs : List Char) :
    value? depth (c :: cs)
      = (ofRun (takeRun (c :: cs)).1).map fun v => (v, (takeRun (c :: cs)).2) := by
  have hkey := isKeyChar_of_isDigit h
  unfold value?
  split
  · rename_i heq
    exact absurd (List.cons.inj heq).1 (ne_of_isKeyChar hkey (by decide))
  · rename_i heq
    exact absurd (List.cons.inj heq).1 (ne_of_isKeyChar hkey (by decide))
  · rw [if_neg]
    rw [List.head?_cons, Option.some.injEq, Option.some.injEq, not_or]
    exact ⟨ne_of_isKeyChar hkey (by decide), ne_of_isKeyChar hkey (by decide)⟩

/-- A number that fits is read as an integer. -/
theorem ofRun_digits {n : Nat} (h : n ≤ Numeral.maxSigned) :
    ofRun (Numeral.digits n) = some (.integer n) := by
  have hword : ∀ {c : Char} {cs : List Char}, Numeral.isDigit c = false →
      Numeral.digits n ≠ c :: cs := by
    intro c cs hc hdigits
    rw [Numeral.isDigit_of_mem_digits n c (by simp [hdigits])] at hc
    exact absurd hc (by simp)
  rw [ofRun, if_neg (hword (by decide)), if_neg (hword (by decide)), integer?_digits h]

/-- A value that can be written is read back at the end of its line. -/
theorem value?_written {v : Setting} (h : v.Fits) (depth : Nat) (rest : List Char) :
    value? depth (v.written ++ '\n' :: rest) = some (v.value, '\n' :: rest) := by
  cases v with
  | text s =>
    obtain ⟨c, cs, hquote, hmark⟩ := exists_quote_eq_cons s.toList
    have hread := string?_quote s.toList rest
    rw [hquote, List.cons_append] at hread
    rw [Setting.written, hquote, List.cons_append, value?_of_mark hmark, hread, Option.map_some]
    simp only [String.ofList_toList, Setting.value]
  | number n =>
    obtain ⟨c, cs, hdigits, -⟩ := Numeral.exists_digits_eq_cons n
    have hrun := takeRun_line
      (fun d hd => isRunChar_of_isDigit (Numeral.isDigit_of_mem_digits n d hd)) rest
    have hvalue := ofRun_digits h
    have hfirst := Numeral.isDigit_of_mem_digits n c (by simp [hdigits])
    rw [hdigits, List.cons_append] at hrun
    rw [hdigits] at hvalue
    rw [Setting.written, hdigits, List.cons_append, value?_of_isDigit hfirst, hrun, hvalue,
      Option.map_some]
    rfl

/-- A value does not begin with a blank. -/
theorem skipBlanks_written (v : Setting) (rest : List Char) :
    skipBlanks (v.written ++ rest) = v.written ++ rest := by
  cases v with
  | text s =>
    obtain ⟨c, cs, hquote, hmark⟩ := exists_quote_eq_cons s.toList
    rw [Setting.written, hquote, List.cons_append, skipBlanks_cons]
    rcases hmark with rfl | rfl <;> decide
  | number n =>
    obtain ⟨c, cs, hdigits, -⟩ := Numeral.exists_digits_eq_cons n
    have hfirst := Numeral.isDigit_of_mem_digits n c (by simp [hdigits])
    rw [Setting.written, hdigits, List.cons_append,
      skipBlanks_cons (isBlank_of_isKeyChar (isKeyChar_of_isDigit hfirst))]

/-! ## Keys -/

/-- A bare key begins with a character of keys. -/
theorem IsBareKey.exists_eq_cons {key : String} (h : IsBareKey key) :
    ∃ c cs, key.toList = c :: cs ∧ isKeyChar c = true := by
  obtain ⟨c, cs, hkey⟩ := List.exists_cons_of_ne_nil h.1
  exact ⟨c, cs, hkey, h.2 c (by simp [hkey])⟩

/-- A bare key is read up to the first other character. -/
theorem key?_of_isBareKey {key : String} (h : IsBareKey key) {c : Char} (hc : isKeyChar c = false)
    (rest : List Char) : key? (key.toList ++ c :: rest) = some (key.toList, c :: rest) := by
  obtain ⟨d, ds, hkey, hfirst⟩ := h.exists_eq_cons
  have htake := takeWhile_append_stop h.2 hc rest
  have hdrop := dropWhile_append_stop h.2 hc rest
  unfold key?
  split
  · rename_i heq
    rw [hkey, List.cons_append, List.cons.injEq] at heq
    exact absurd heq.1 (ne_of_isKeyChar hfirst (by decide))
  · rename_i heq
    rw [hkey, List.cons_append, List.cons.injEq] at heq
    exact absurd heq.1 (ne_of_isKeyChar hfirst (by decide))
  · rw [htake, hdrop]
    simp [h.1]

/-- A bare key that no point follows is a path of its own. -/
theorem path?_of_isBareKey {key : String} (h : IsBareKey key) {c : Char}
    (hc : isKeyChar c = false) {rest after : List Char} (hafter : skipBlanks (c :: rest) = after)
    (hpoint : after.head? ≠ some '.') :
    path? (key.toList ++ c :: rest) = some ([key], after) := by
  obtain ⟨d, ds, hkey, hfirst⟩ := h.exists_eq_cons
  have hstart : skipBlanks (key.toList ++ c :: rest) = key.toList ++ c :: rest := by
    rw [hkey, List.cons_append, skipBlanks_cons (isBlank_of_isKeyChar hfirst)]
  change pathWithin (78 + 1) _ = _
  rw [pathWithin, hstart, key?_of_isBareKey h hc]
  simp only [bind, Option.bind, hafter, String.ofList_toList]
  split
  · rename_i heq
    exact absurd rfl hpoint
  · rfl

/-! ## Lines -/

/-- A line that begins with a bracket or a key is not empty. -/
theorem lineEnd?_cons {c : Char} (hc : c = '[' ∨ isKeyChar c = true) (cs : List Char) :
    lineEnd? (c :: cs) = none := by
  have hother : ∀ d, isKeyChar d = false → d ≠ '[' → c ≠ d := by
    rintro d hd hbracket rfl
    rcases hc with rfl | hkey
    · exact hbracket rfl
    · exact ne_of_isKeyChar hkey hd rfl
  have hblank : isBlank c = false := by
    rw [isBlank, Bool.or_eq_false_iff, beq_eq_false_iff_ne, beq_eq_false_iff_ne]
    exact ⟨hother _ (by decide) (by decide), hother _ (by decide) (by decide)⟩
  unfold lineEnd?
  rw [skipBlanks_cons hblank]
  split
  · rename_i heq
    exact absurd (List.cons.inj heq).1 (hother _ (by decide) (by decide))
  · exact newline?_cons_of_ne (hother _ (by decide) (by decide))
      (hother _ (by decide) (by decide)) cs

theorem exists_headerLine_eq_cons (s : Section) : ∃ line, s.headerLine = '[' :: line := by
  unfold Section.headerLine
  split <;> exact ⟨_, rfl⟩

/-- The line of a header opens its table or its item. -/
theorem statement?_headerLine {s : Section} (h : IsBareKey s.name) (rest : List Char) :
    statement? (s.headerLine ++ rest) = some (s.header, '\n' :: rest) := by
  obtain ⟨c, cs, hname, hfirst⟩ := h.exists_eq_cons
  unfold Section.headerLine Section.header
  cases s.isItem with
  | true =>
    have hpath : path? (s.name.toList ++ ']' :: ']' :: '\n' :: rest)
        = some ([s.name], ']' :: ']' :: '\n' :: rest) :=
      path?_of_isBareKey h (by decide) rfl (by simp)
    simp only [if_true, List.cons_append, List.append_assoc, List.nil_append]
    rw [statement?, skipBlanks_cons (by decide)]
    simp only [hpath, bind, Option.bind]
    rfl
  | false =>
    have hpath : path? (s.name.toList ++ ']' :: '\n' :: rest)
        = some ([s.name], ']' :: '\n' :: rest) :=
      path?_of_isBareKey h (by decide) rfl (by simp)
    simp only [Bool.false_eq_true, if_false, List.cons_append, List.append_assoc, List.nil_append]
    rw [statement?, skipBlanks_cons (by decide)]
    split
    · rename_i heq
      rw [hname, List.cons_append, List.cons.injEq, List.cons.injEq] at heq
      exact absurd heq.2.1 (ne_of_isKeyChar hfirst (by decide))
    · rename_i heq
      rw [← (List.cons.inj heq).2, hpath]
      rfl
    · rename_i hno
      exact absurd rfl (hno _)

/-- The line of an assignment assigns the value to the key. -/
theorem statement?_settingLine {key : String} {v : Setting} (hkey : IsBareKey key) (hv : v.Fits)
    (rest : List Char) :
    statement? (settingLine key v ++ rest) = some (.assign [key] v.value, '\n' :: rest) := by
  obtain ⟨c, cs, hname, hfirst⟩ := hkey.exists_eq_cons
  have hpath : path? (key.toList ++ ' ' :: '=' :: ' ' :: (v.written ++ '\n' :: rest))
      = some ([key], '=' :: ' ' :: (v.written ++ '\n' :: rest)) :=
    path?_of_isBareKey hkey (by decide) rfl (by simp)
  have hvalue : value? maxDepth (skipBlanks (' ' :: (v.written ++ '\n' :: rest)))
      = some (v.value, '\n' :: rest) := by
    change value? maxDepth (skipBlanks (v.written ++ '\n' :: rest)) = _
    rw [skipBlanks_written, value?_written hv]
  have hline : settingLine key v ++ rest
      = key.toList ++ ' ' :: '=' :: ' ' :: (v.written ++ '\n' :: rest) := by
    simp [settingLine]
  have hstart : skipBlanks (settingLine key v ++ rest)
      = key.toList ++ ' ' :: '=' :: ' ' :: (v.written ++ '\n' :: rest) := by
    rw [hline, hname, List.cons_append, skipBlanks_cons (isBlank_of_isKeyChar hfirst)]
  have hnoBracket : ∀ more,
      key.toList ++ ' ' :: '=' :: ' ' :: (v.written ++ '\n' :: rest) ≠ '[' :: more := by
    intro more heq
    rw [hname, List.cons_append, List.cons.injEq] at heq
    exact ne_of_isKeyChar hfirst (by decide) heq.1
  rw [statement?, hstart]
  split
  · rename_i heq
    exact absurd heq (hnoBracket _)
  · rename_i heq
    exact absurd heq (hnoBracket _)
  · simp only [pair?, hpath, hvalue, bind, Option.bind, pure]

/-! ## Texts -/

/-- The statements that a text consists of, read line by line with enough lines allowed. -/
def Says (cs : List Char) (statements : List Statement) : Prop :=
  ∀ n, cs.length ≤ n → statementsWithin n cs = some statements

theorem says_nil : Says [] [] := by
  intro n _
  cases n <;> rfl

/-- An empty line says nothing. -/
theorem Says.blankLine {cs : List Char} {statements : List Statement} (h : Says cs statements) :
    Says ('\n' :: cs) statements := by
  intro n hn
  rw [List.length_cons] at hn
  obtain ⟨m, rfl⟩ : ∃ m, n = m + 1 := ⟨n - 1, by omega⟩
  exact h m (by omega)

/-- A line that is read says its statement before the rest. -/
theorem Says.line {c : Char} {line rest : List Char} {statement : Statement}
    {statements : List Statement} (hc : c = '[' ∨ isKeyChar c = true)
    (hread : statement? (c :: line ++ rest) = some (statement, '\n' :: rest))
    (h : Says rest statements) : Says (c :: line ++ rest) (statement :: statements) := by
  intro n hn
  rw [List.length_append, List.length_cons] at hn
  obtain ⟨m, rfl⟩ : ∃ m, n = m + 1 := ⟨n - 1, by omega⟩
  rw [List.cons_append] at hread ⊢
  have hend : lineEnd? ('\n' :: rest) = some rest := rfl
  rw [statementsWithin, lineEnd?_cons hc]
  · simp only [bind, Option.bind, hread, hend, h m (by omega), pure]
  · simp

theorem says_settings {settings : List (String × Setting)} {rest : List Char}
    {statements : List Statement} (hkeys : ∀ setting ∈ settings, IsBareKey setting.1)
    (hfits : ∀ setting ∈ settings, setting.2.Fits) (h : Says rest statements) :
    Says ((settings.flatMap fun (key, v) => settingLine key v) ++ rest)
      ((settings.map fun (key, v) => .assign [key] v.value) ++ statements) := by
  induction settings with
  | nil => exact h
  | cons setting settings ih =>
    obtain ⟨key, v⟩ := setting
    rw [List.forall_mem_cons] at hkeys hfits
    have hrest := ih hkeys.2 hfits.2
    obtain ⟨c, cs, hname, hfirst⟩ := hkeys.1.exists_eq_cons
    have hline : ∃ line, settingLine key v = c :: line := by
      rw [settingLine, hname]
      exact ⟨_, rfl⟩
    obtain ⟨line, hline⟩ := hline
    have hread := statement?_settingLine hkeys.1 hfits.1
      ((settings.flatMap fun (key, v) => settingLine key v) ++ rest)
    rw [hline] at hread
    rw [List.flatMap_cons, List.append_assoc, List.map_cons, List.cons_append]
    dsimp only
    rw [hline]
    exact hrest.line (.inr hfirst) hread

/-- The lines of a section say its statements. -/
theorem says_section {s : Section} (hs : s.IsWritable) {rest : List Char}
    {statements : List Statement} (h : Says rest statements) :
    Says (s.written ++ rest) (s.statements ++ statements) := by
  obtain ⟨line, hline⟩ := exists_headerLine_eq_cons s
  have hread := statement?_headerLine hs.name
    ((s.settings.flatMap fun (key, v) => settingLine key v) ++ rest)
  rw [hline] at hread
  rw [Section.written, List.append_assoc, Section.statements, List.cons_append, hline]
  exact (says_settings hs.keys hs.fits h).line (.inl rfl) hread

/-- The lines of a document say the statements of its sections. -/
theorem says_document {sections : List Section} (h : ∀ s ∈ sections, s.IsWritable) :
    Says (List.intercalate ['\n'] (sections.map Section.written))
      (sections.flatMap Section.statements) := by
  induction sections with
  | nil => exact says_nil
  | cons s sections ih =>
    rw [List.forall_mem_cons] at h
    cases sections with
    | nil =>
      have honly := says_section h.1 says_nil
      simpa using honly
    | cons next sections =>
      have hrest := (ih h.2).blankLine
      have hboth := says_section h.1 hrest
      simpa using hboth

/-- A document with a section begins with a bracket. -/
theorem exists_print_eq_cons (s : Section) (sections : List Section) :
    ∃ cs, (print (s :: sections)).toList = '[' :: cs := by
  obtain ⟨line, hline⟩ := exists_headerLine_eq_cons s
  have hwritten : ∃ more, s.written = '[' :: more := by
    rw [Section.written, hline]
    exact ⟨_, rfl⟩
  obtain ⟨more, hwritten⟩ := hwritten
  rw [print, String.toList_ofList, List.map_cons, hwritten]
  cases sections with
  | nil => exact ⟨more, by simp⟩
  | cons next sections => exact ⟨_, by rw [List.map_cons, List.intercalate_cons_cons]; rfl⟩

/-- A document that can be written is read back as its statements. -/
theorem statements?_print {sections : List Section} (h : ∀ s ∈ sections, s.IsWritable) :
    statements? (print sections).toList = some (sections.flatMap Section.statements) := by
  have hsays := says_document h
  have hmark : ∀ rest, (print sections).toList ≠ '\uFEFF' :: rest := by
    intro rest heq
    cases sections with
    | nil => exact absurd heq (by simp [print])
    | cons s sections =>
      obtain ⟨cs, hcs⟩ := exists_print_eq_cons s sections
      rw [hcs] at heq
      exact absurd (List.cons.inj heq).1 (by decide)
  unfold statements?
  split
  · rename_i heq
    exact absurd heq (hmark _)
  · rw [print, String.toList_ofList]
    exact hsays _ (Nat.le_refl _)

end Composer.Toml
