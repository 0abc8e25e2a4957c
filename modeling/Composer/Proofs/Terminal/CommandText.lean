import Composer.Proofs.Text.Trimming
import Composer.Terminal.Command
set_option autoImplicit false

/-!
# The written form of a command

A command is written as a colon, its name and, behind a space, its arguments. Reading a line that
holds this text between any white space gives the command back: the name ends at the first space,
the arguments are what is left when the line is trimmed, and each kind of argument is cut where it
was joined.

A title is followed by a word for the MIME type even if that is left to the content, so a last
word that looks like a type stays part of the title. A selection is cut off its question at the
first separator, which is the one that was written unless the selection holds another or its end
starts one.
-/

namespace Composer

/-! ## Positions -/

/-- Digits that were written are read, up to the largest number of 64 bits. -/
theorem Numeral.unsigned?_digits {n : Nat} (h : n ≤ maxUnsigned) :
    unsigned? (digits n) = some n := by
  obtain ⟨c, cs, hdigits, -⟩ := exists_digits_eq_cons n
  have hall := isDigit_of_mem_digits n
  have hvalue := ofDigits_digits n
  rw [hdigits] at hall hvalue ⊢
  have hplus : c ≠ '+' := by
    rintro rfl
    exact absurd (hall '+' List.mem_cons_self) (by decide)
  have hsigned : unsigned? (c :: cs) =
      if (c :: cs).isEmpty || !(c :: cs).all isDigit then none
      else if ofDigits (c :: cs) ≤ maxUnsigned then some (ofDigits (c :: cs)) else none := by
    unfold unsigned?
    split
    · rename_i heq
      exact absurd (List.cons.inj heq).1 hplus
    · rfl
  rw [hsigned, List.isEmpty_cons, List.all_eq_true.mpr hall, hvalue, if_neg (by simp), if_pos h]

namespace Terminal.Command

open Chars (IsTrimmed IsWord)

/-! ## What can be written -/

/-- An argument that is taken as it stands: some text without white space at its ends. -/
def IsArgument (s : String) : Prop := s ≠ "" ∧ IsTrimmed s.toList

/-- A title: some words, joined by single spaces. -/
def IsTitle (title : String) : Prop :=
  ∃ ws, ws ≠ [] ∧ (∀ w ∈ ws, IsWord w) ∧ title.toList = List.intercalate [' '] ws

/-- What stands between a selection and its question. -/
def separator : List Char := [' ', '-', '-', ' ']

/-- The commands that have a written form. -/
def IsSpellable : Command → Prop
  | attach paths => paths ≠ [] ∧ ∀ p ∈ paths, IsWord p.toList
  | paste path => IsArgument path
  | save title .auto => title = "" ∨ IsTitle title
  | save title (.explicit mime) => IsTitle title ∧ IsWord mime.toList ∧ '/' ∈ mime.toList
  | discard => True
  | files => True
  | remove index => index < Numeral.maxUnsigned
  | unlink index => index < Numeral.maxUnsigned
  | session id => ∀ i ∈ id, IsArgument i
  | followUp selection question =>
    IsArgument selection ∧ ¬ separator <:+: selection.toList ∧
      ¬ separator.dropLast <:+ selection.toList ∧ ∀ q ∈ question, IsArgument q
  | context text => ∀ t ∈ text, IsArgument t
  | say text => IsArgument text
  | cancel => True
  | help => True
  | quit => True

/-! ## How it is written -/

/-- The word for a MIME type. -/
def mimeWord : MimeChoice → List Char
  | .auto => ['a', 'u', 't', 'o']
  | .explicit mime => mime.toList

/-- The name of a command and its arguments. -/
def spelling : Command → String × List Char
  | attach paths => ("attach", List.intercalate [' '] (paths.map String.toList))
  | paste path => ("paste", path.toList)
  | save title mime => ("save", if title = "" then [] else title.toList ++ ' ' :: mimeWord mime)
  | discard => ("discard", [])
  | files => ("files", [])
  | remove index => ("rm", Numeral.digits (index + 1))
  | unlink index => ("unlink", Numeral.digits (index + 1))
  | session id => ("session", (id.getD "").toList)
  | followUp selection none => ("followup", selection.toList)
  | followUp selection (some question) =>
    ("followup", selection.toList ++ separator ++ question.toList)
  | context text => ("context", (text.getD "").toList)
  | say text => ("say", text.toList)
  | cancel => ("cancel", [])
  | help => ("help", [])
  | quit => ("quit", [])

/-- A name and its arguments as a line. -/
def written (name : List Char) : List Char → List Char
  | [] => ':' :: name
  | a :: arguments => ':' :: (name ++ ' ' :: a :: arguments)

/-- The written form of a command. -/
def text (c : Command) : String := String.ofList (written c.spelling.1.toList c.spelling.2)

/-! ## The name and the arguments -/

/-- A line is read by the name and the arguments that were written. -/
theorem ofChars_written {name arguments before after : List Char}
    (hname : ∀ c ∈ name, Chars.isSpace c = false) (harguments : IsTrimmed arguments)
    (hbefore : Chars.isBlank before = true) (hafter : Chars.isBlank after = true) :
    ofChars (before ++ written name arguments ++ after) =
      ofName (String.ofList name) arguments := by
  have hcolon : Chars.isSpace ':' = false := by decide
  have hspace : Chars.isSpace ' ' = true := by decide
  cases arguments with
  | nil =>
    have htrim : Chars.trim (':' :: name) = ':' :: name :=
      Chars.trim_of_forall_not_isSpace (List.forall_mem_cons.mpr ⟨hcolon, hname⟩)
    rw [ofChars, Chars.trim_surrounded hbefore hafter, written, htrim]
    simp only [Chars.splitFirst_of_forall hname]
  | cons a arguments =>
    have hend : Chars.trimEnd (name ++ ' ' :: a :: arguments) = name ++ ' ' :: a :: arguments := by
      rw [List.append_cons]
      exact harguments.trimEnd_append (List.cons_ne_nil a arguments) (name ++ [' '])
    rw [ofChars, Chars.trim_surrounded hbefore hafter, written, Chars.trim_cons hcolon, hend]
    simp only [Chars.splitFirst_append_cons hname hspace]
    rw [show Chars.trim (a :: arguments) = a :: arguments from harguments]

theorem not_isSpace_of_mem_name (c : Command) :
    ∀ x ∈ c.spelling.1.toList, Chars.isSpace x = false := by
  have hall : (c.spelling.1.toList.all fun x => !Chars.isSpace x) = true := by
    cases c with
    | followUp selection question => cases question <;> simp [spelling, Chars.isSpace]
    | _ => simp [spelling, Chars.isSpace]
  intro x hx
  simpa using List.all_eq_true.mp hall x hx

/-! ## Titles -/

theorem isTrimmed_title {title : String} (h : IsTitle title) :
    IsTrimmed title.toList ∧ title.toList ≠ [] := by
  obtain ⟨ws, hne, hall, hws⟩ := h
  rw [hws]
  exact ⟨Chars.isTrimmed_intercalate hall, Chars.intercalate_ne_nil hne hall⟩

/-- Either nothing is written behind the name, or a title and a word that is
read as the MIME type. -/
theorem save_cases {title : String} {mime : MimeChoice} (h : (save title mime).IsSpellable) :
    (title = "" ∧ mime = .auto) ∨
      (IsTitle title ∧ IsWord (mimeWord mime) ∧ isMimeWord (mimeWord mime) = true ∧
        MimeChoice.parse (String.ofList (mimeWord mime)) = mime) := by
  cases mime with
  | auto =>
    rcases h with hempty | htitle
    · exact .inl ⟨hempty, rfl⟩
    · have hword : IsWord (mimeWord .auto) :=
        ⟨by simp [mimeWord], by simp [mimeWord, Chars.isSpace]⟩
      exact .inr ⟨htitle, hword, rfl, rfl⟩
  | explicit m =>
    obtain ⟨htitle, hword, hslash⟩ := h
    have hlooks : isMimeWord m.toList = true := by simp [isMimeWord, hslash]
    have hnot : m.toList.map Chars.lowerAscii ≠ ['a', 'u', 't', 'o'] := by
      intro heq
      have hmem : Chars.lowerAscii '/' ∈ m.toList.map Chars.lowerAscii := List.mem_map_of_mem hslash
      rw [heq] at hmem
      exact absurd hmem (by decide)
    have htrim : Chars.trim m.toList = m.toList := hword.isTrimmed
    have hparse : MimeChoice.parse (String.ofList m.toList) = .explicit m := by
      simp [MimeChoice.parse, htrim, hword.1, hnot]
    exact .inr ⟨htitle, hword, hlooks, hparse⟩

/-- Behind a title the last word is its MIME type. -/
theorem titleAndMime_written {title : String} {mime : MimeChoice} (htitle : IsTitle title)
    (hmime : IsWord (mimeWord mime)) (hlooks : isMimeWord (mimeWord mime) = true) :
    titleAndMime (title.toList ++ ' ' :: mimeWord mime) =
      save title (.parse (String.ofList (mimeWord mime))) := by
  obtain ⟨ws, hne, hall, hws⟩ := htitle
  have hwords : Chars.words (title.toList ++ ' ' :: mimeWord mime) = ws ++ [mimeWord mime] := by
    rw [hws, ← Chars.intercalate_append_singleton hne]
    apply Chars.words_intercalate
    intro w hw
    rcases List.mem_append.mp hw with hw | hw
    · exact hall w hw
    · rw [List.mem_singleton.mp hw]
      exact hmime
  have hseveral : 1 < (ws ++ [mimeWord mime]).length := by
    have := List.length_pos_of_ne_nil hne
    simp
    omega
  unfold titleAndMime
  simp only [hwords, List.getLast?_concat, hseveral, hlooks, List.dropLast_concat, decide_true,
    Bool.and_self, if_true]
  rw [← hws, String.ofList_toList]

/-! ## Selections -/

/-- The separator is found where it was written: it does not start earlier, neither within the text
before it nor at the end of that text. -/
theorem splitOn_separator {selection : List Char} (hinside : ¬ separator <:+: selection)
    (hend : ¬ separator.dropLast <:+ selection) (rest : List Char) :
    Chars.splitOn separator (selection ++ separator ++ rest) = some (selection, rest) := by
  induction selection with
  | nil => rfl
  | cons c cs ih =>
    have hlater := ih (fun h => hinside (h.trans (List.suffix_cons c cs).isInfix))
      (fun h => hend (h.trans (List.suffix_cons c cs)))
    have hfirst : separator.isPrefixOf? (c :: (cs ++ separator ++ rest)) = none := by
      rw [← Option.not_isSome_iff_eq_none, Option.isSome_iff_exists]
      rintro ⟨after, hafter⟩
      have heq := List.isPrefixOf?_eq_some_iff_append_eq.mp hafter
      -- The first characters are those of a separator; where they reach beyond the selection, its
      -- end is one space or starts a separator.
      match cs with
      | [] => simp [separator] at heq
      | [d] => simp [separator] at heq
      | [d, e] =>
        simp only [separator, List.cons_append, List.nil_append, List.cons.injEq] at heq
        obtain ⟨rfl, rfl, rfl, -⟩ := heq
        exact hend (List.suffix_refl _)
      | d :: e :: f :: ds =>
        simp only [separator, List.cons_append, List.cons.injEq] at heq
        obtain ⟨rfl, rfl, rfl, rfl, -⟩ := heq
        exact hinside (List.prefix_append separator ds).isInfix
    rw [List.cons_append, List.cons_append, Chars.splitOn, hfirst]
    dsimp only
    rw [hlater]
    rfl

theorem splitOn_separator_of_absent {selection : List Char} (h : ¬ separator <:+: selection) :
    Chars.splitOn separator selection = none := by
  induction selection with
  | nil => rfl
  | cons c cs ih =>
    have hlater := ih fun hcs => h (hcs.trans (List.suffix_cons c cs).isInfix)
    have hfirst : separator.isPrefixOf? (c :: cs) = none := by
      rw [← Option.not_isSome_iff_eq_none, Option.isSome_iff_exists]
      rintro ⟨after, hafter⟩
      have heq := List.isPrefixOf?_eq_some_iff_append_eq.mp hafter
      exact h (heq ▸ List.prefix_append separator after).isInfix
    rw [Chars.splitOn, hfirst]
    dsimp only
    rw [hlater]
    rfl

/-! ## Reading what was written -/

theorem isArgument_ne_nil {s : String} (h : IsArgument s) : s.toList ≠ [] := by
  intro hnil
  exact h.1 (String.toList_eq_nil_iff.mp hnil)

theorem required_written {s usage : String} (h : IsArgument s) :
    required usage s.toList = .ok s := by
  rw [required, if_neg (by simpa using h.1), String.ofList_toList]

theorem optional_written {s : Option String} (h : ∀ t ∈ s, IsArgument t) :
    optional (s.getD "").toList = s := by
  cases s with
  | none => rfl
  | some t =>
    have ht := h t rfl
    rw [Option.getD_some, optional, if_neg (by simpa using ht.1), String.ofList_toList]

theorem position_written {index : Nat} (h : index < Numeral.maxUnsigned) (usage : String) :
    position usage (Numeral.digits (index + 1)) = .ok index := by
  rw [position, Numeral.unsigned?_digits h]

/-- The arguments of a command have no white space at their ends. -/
theorem isTrimmed_spelling {c : Command} (h : c.IsSpellable) : IsTrimmed c.spelling.2 := by
  have hdigits : ∀ n, IsTrimmed (Numeral.digits n) := by
    intro n
    apply Chars.trim_of_forall_not_isSpace
    intro c hc
    exact Chars.not_isSpace_of_isDigit (Numeral.isDigit_of_mem_digits n c hc)
  have hoptional : ∀ s : Option String, (∀ t ∈ s, IsArgument t) → IsTrimmed (s.getD "").toList := by
    intro s hs
    cases s with
    | none => exact Chars.isTrimmed_nil
    | some t => exact (hs t rfl).2
  cases c with
  | attach paths =>
    apply Chars.isTrimmed_intercalate
    intro w hw
    obtain ⟨path, hpath, rfl⟩ := List.mem_map.mp hw
    exact h.2 path hpath
  | paste path => exact h.2
  | save title mime =>
    rcases save_cases h with ⟨rfl, -⟩ | ⟨htitle, hword, -⟩
    · exact Chars.isTrimmed_nil
    · obtain ⟨htrimmed, hne⟩ := isTrimmed_title htitle
      have happend := htrimmed.append hword.isTrimmed hne hword.1 [' ']
      rw [List.append_assoc] at happend
      rw [spelling, if_neg (by simpa using hne)]
      exact happend
  | remove index => exact hdigits _
  | unlink index => exact hdigits _
  | session id => exact hoptional id h
  | followUp selection question =>
    obtain ⟨hselection, -, -, hquestion⟩ := h
    cases question with
    | none => exact hselection.2
    | some q =>
      have hq := hquestion q rfl
      exact hselection.2.append hq.2 (isArgument_ne_nil hselection) (isArgument_ne_nil hq) _
  | context text => exact hoptional text h
  | say text => exact h.2
  | discard => exact Chars.isTrimmed_nil
  | files => exact Chars.isTrimmed_nil
  | cancel => exact Chars.isTrimmed_nil
  | help => exact Chars.isTrimmed_nil
  | quit => exact Chars.isTrimmed_nil

/-- The name and the arguments of a command are read as the command. -/
theorem ofName_spelling {c : Command} (h : c.IsSpellable) :
    ofName c.spelling.1 c.spelling.2 = .ok c := by
  cases c with
  | attach paths =>
    obtain ⟨hne, hall⟩ := h
    have hwords : ∀ w ∈ paths.map String.toList, IsWord w := by
      intro w hw
      obtain ⟨path, hpath, rfl⟩ := List.mem_map.mp hw
      exact hall path hpath
    have hpaths : (Chars.words (List.intercalate [' '] (paths.map String.toList))).map String.ofList
        = paths := by
      rw [Chars.words_intercalate hwords, List.map_map]
      simp
    simp only [spelling, ofName, Command.paths, hpaths]
    obtain ⟨path, rest, rfl⟩ := List.exists_cons_of_ne_nil hne
    rfl
  | paste path =>
    simp only [spelling, ofName, required_written h]
    rfl
  | save title mime =>
    simp only [spelling, ofName]
    rcases save_cases h with ⟨rfl, rfl⟩ | ⟨htitle, hword, hlooks, hparse⟩
    · rfl
    · rw [if_neg (by simpa using (isTrimmed_title htitle).2),
        titleAndMime_written htitle hword hlooks, hparse]
  | discard => rfl
  | files => rfl
  | remove index =>
    simp only [spelling, ofName, position_written h]
    rfl
  | unlink index =>
    simp only [spelling, ofName, position_written h]
    rfl
  | session id =>
    simp only [spelling, ofName, optional_written h]
  | followUp selection question =>
    obtain ⟨hselection, hinside, hend, hquestion⟩ := h
    cases question with
    | none =>
      have hnone := splitOn_separator_of_absent hinside
      rw [separator] at hnone
      simp only [spelling, ofName, selectionAndQuestion, hnone, required_written hselection]
      rfl
    | some q =>
      have hq := hquestion q rfl
      have hsome := splitOn_separator hinside hend q.toList
      have htrim : Chars.trim selection.toList = selection.toList := hselection.2
      have htrim' : Chars.trim q.toList = q.toList := hq.2
      have hoptional : optional q.toList = some q := optional_written (s := some q) hquestion
      rw [separator] at hsome
      simp only [spelling, ofName, selectionAndQuestion, separator, hsome, htrim, htrim', hoptional,
        required_written hselection]
      rfl
  | context text =>
    simp only [spelling, ofName, optional_written h]
  | say text =>
    simp only [spelling, ofName, required_written h]
    rfl
  | cancel => rfl
  | help => rfl
  | quit => rfl

/-- A line that holds the written form of a command between any white space is
read as the command. -/
theorem written_command_read {c : Command} (h : c.IsSpellable) {before after : String}
    (hbefore : Text.isBlank before = true) (hafter : Text.isBlank after = true) :
    parse (before ++ c.text ++ after) = .ok c := by
  rw [parse, String.toList_append, String.toList_append, text, String.toList_ofList,
    ofChars_written (not_isSpace_of_mem_name c) (isTrimmed_spelling h) hbefore hafter,
    String.ofList_toList]
  exact ofName_spelling h

/-- A title whose last word looks like a MIME type, and a line with white space beyond ASCII. -/
theorem title_read_before_type :
    (save "build auto" (.explicit "text/plain")).IsSpellable ∧
    Text.isBlank "\u3000\t" = true ∧ Text.isBlank "\n" = true ∧
    (save "build auto" (.explicit "text/plain")).text = ":save build auto text/plain" ∧
    parse ("\u3000\t" ++ (save "build auto" (.explicit "text/plain")).text ++ "\n") =
      .ok (save "build auto" (.explicit "text/plain")) := by
  have hwords : ∀ w ∈ ["build".toList, "auto".toList], IsWord w := by
    simp [IsWord, Chars.isSpace]
  have htitle : IsTitle "build auto" :=
    ⟨["build".toList, "auto".toList], by simp, hwords, by decide⟩
  have hmime : IsWord "text/plain".toList := by simp [IsWord, Chars.isSpace]
  have hspellable : (save "build auto" (.explicit "text/plain")).IsSpellable :=
    ⟨htitle, hmime, by decide⟩
  have hbefore : Text.isBlank "\u3000\t" = true := by decide
  have hafter : Text.isBlank "\n" = true := by decide
  exact ⟨hspellable, hbefore, hafter, by decide, written_command_read hspellable hbefore hafter⟩

end Terminal.Command
end Composer
