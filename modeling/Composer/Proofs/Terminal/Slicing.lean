import Composer.Proofs.Draft.Slicing
import Composer.Proofs.Terminal.Completing
import Composer.Terminal.Repl
set_option autoImplicit false

/-!
# No slice fails

A line can be completed, hinted at and typed by slices: it is cut in front of its last word and
behind a slash that starts that word, and a name is cut behind what was typed of it. Like the
slices around the token of a draft, all of these can be had, whatever the characters are and
however many bytes they take; and what comes of them is what comes of counting characters.
-/

namespace Composer.Sliced

open Terminal

/-! ## By slices -/

/-- Where the last word of a line starts: behind its last white space. -/
def wordStart (line : String) : Nat :=
  match findLast? Chars.isSpace line with
  | some (position, c) => position + c.utf8Size
  | none => 0

/-- The names that are offered behind a line, and where they would start. -/
def candidates (c : Completion) (line : String) : Option (Nat × List String) :=
  if Text.startsWith line ":" && !line.toList.contains ' ' then
    some (0, c.commands.filter fun name => Text.startsWith name line)
  else do
    let word ← from? line (wordStart line)
    if Text.startsWith word "/" then
      some (wordStart line, c.prompts.filter fun name => Text.startsWith name word)
    else some (wordStart line, [])

/-- The names that are offered at a position, and where they would start. -/
def complete (c : Completion) (line : String) (position : Nat) : Option (Nat × List String) := do
  candidates c (← upTo? line position)

/-- How the line could go on, if there is a way. -/
def hint (c : Completion) (line : String) (position : Nat) : Option (Option String) :=
  if position < line.utf8ByteSize then some none
  else do
    let (start, names) ← candidates c line
    let typed ← from? line start
    if typed.utf8ByteSize < 2 then some none
    else match names.find? fun name => typed.utf8ByteSize < name.utf8ByteSize with
      | none => some none
      | some name => (from? name typed.utf8ByteSize).map some

/-- The line up to the slash that starts its last word, if one does. -/
def typedSlash (line : String) : Option (Option String) := do
  let word ← from? line (wordStart line)
  if Text.startsWith word "/" then (upTo? line (wordStart line + 1)).map some else some none

/-- Records that the line was typed: first up to that slash, then the whole of it. -/
def typeLine (r : Repl) (line : String) : Option Repl := do
  let r := match ← typedSlash line with
    | some typed => (r.perform (.changeText typed typed.length)).repl
    | none => r
  some (r.perform (.changeText line line.length)).repl

/-! ## By counting characters -/

variable {line : String} {front word : List Char}

/-- A line falls apart in front of its last word, and its last white space is
what the search finds. -/
theorem lastWord_cases (line : String) :
    ∃ front word, Chars.cutLastWord line.toList = (front, word) ∧ line.toList = front ++ word ∧
      (∀ c ∈ word, Chars.isSpace c = false) ∧ wordStart line = Utf8.size front ∧
      (front = [] ∨ ∃ c, front.getLast? = some c ∧ Chars.isSpace c = true) := by
  cases hcut : Chars.cutLastWord line.toList with
  | mk front word =>
    obtain ⟨hline, hword, hbehind⟩ := Chars.cutLastWord_eq_iff.mp hcut
    refine ⟨front, word, rfl, hline, hword, ?_⟩
    rcases List.eq_nil_or_concat front with rfl | ⟨init, c, rfl⟩
    · have hnone : findLast? Chars.isSpace line = none := findLast?_eq_none (by rwa [hline])
      exact ⟨by rw [wordStart, hnone]; rfl, .inl rfl⟩
    · rw [List.concat_eq_append] at hline hbehind ⊢
      have hc : Chars.isSpace c = true := hbehind c List.getLast?_concat
      have hfound : findLast? Chars.isSpace line = some (Utf8.size init, c) := by
        refine findLast?_of_toList ?_ hc hword
        rw [hline, List.append_assoc, List.singleton_append]
      refine ⟨?_, .inr ⟨c, List.getLast?_concat, hc⟩⟩
      rw [wordStart, hfound, Utf8.size_append]
      rfl

theorem wordStart_eq (line : String) : wordStart line = Completion.wordStart line.toList := by
  obtain ⟨front, word, hcut, -, -, hstart, -⟩ := lastWord_cases line
  rw [hstart, Completion.wordStart, hcut]

theorem isPrefixOf_singleton (c : Char) (cs : List Char) :
    [c].isPrefixOf cs = decide (cs.head? = some c) := by
  cases cs with
  | nil => rfl
  | cons d cs => simp [List.isPrefixOf, eq_comm, Bool.beq_eq_decide_eq]

/-- A word starts with a slash if its first character is one. -/
theorem startsWith_slash (word : List Char) :
    Text.startsWith (String.ofList word) "/" = decide (word.head? = some '/') := by
  rw [← isPrefixOf_singleton, Text.startsWith, String.toList_ofList, String.toList_ofList]

/-- The slice behind the last white space is the last word. -/
theorem from?_wordStart (line : String) :
    from? line (wordStart line) = some (String.ofList (Chars.cutLastWord line.toList).2) := by
  obtain ⟨front, word, hcut, hline, -, hstart, -⟩ := lastWord_cases line
  rw [hstart, hcut]
  exact from?_of_toList hline

theorem candidates_eq (c : Completion) (line : String) :
    candidates c line = some (Completion.start line.toList, c.candidates line.toList) := by
  have hcolon : Text.startsWith line ":" = decide (line.toList.head? = some ':') :=
    isPrefixOf_singleton ':' line.toList
  rw [candidates, hcolon, Completion.start, Completion.candidates, Completion.typedPart]
  split
  next => rfl
  next =>
    rw [from?_wordStart, wordStart_eq, Option.bind_eq_bind, Option.bind_some, startsWith_slash,
      Completion.wordStart]
    by_cases hslash : (Chars.cutLastWord line.toList).2.head? = some '/'
    · simp only [hslash, decide_true, if_true, Completion.matching, Text.startsWith,
        String.toList_ofList]
    · simp only [hslash, decide_false, if_false, Bool.false_eq_true]

theorem complete_eq (c : Completion) {position : Nat} (h : IsBoundary line position) :
    complete c line position = some (c.complete line position) := by
  obtain ⟨front, back, rfl, rfl⟩ := isBoundary_iff.mp h
  have hslice : upTo? (front ++ back) front.utf8ByteSize = some front := by
    rw [← Utf8.size_toList, upTo?_of_toList (String.toList_append), String.ofList_toList]
  have hupTo : Completion.upTo front.utf8ByteSize (front ++ back).toList = front.toList := by
    rw [← Utf8.size_toList, String.toList_append, Completion.upTo_append]
  rw [complete, hslice, Option.bind_eq_bind, Option.bind_some, candidates_eq, Completion.complete,
    hupTo]

/-- What of a line is completed is the slice from where the names would start. -/
theorem from?_start (line : String) :
    from? line (Completion.start line.toList) =
      some (String.ofList (Completion.typedPart line.toList).2) := by
  rw [Completion.start, Completion.typedPart]
  split
  next =>
    have hall : line.toList = [] ++ line.toList := rfl
    exact from?_of_toList hall
  next =>
    rw [← Completion.wordStart, ← wordStart_eq]
    exact from?_wordStart line

/-- A name that is offered begins with what is typed. -/
theorem exists_of_mem_candidates {c : Completion} {name : String}
    (h : name ∈ c.candidates line.toList) :
    ∃ more, name.toList = (Completion.typedPart line.toList).2 ++ more := by
  have hmatching : ∀ names : List String,
      name ∈ Completion.matching names (Completion.typedPart line.toList).2 →
        ∃ more, name.toList = (Completion.typedPart line.toList).2 ++ more := by
    intro names hname
    obtain ⟨more, hmore⟩ := List.isPrefixOf_iff_prefix.mp (List.mem_filter.mp hname).2
    exact ⟨more, hmore.symm⟩
  rw [Completion.candidates] at h
  split at h
  · exact hmatching _ h
  · split at h
    · exact hmatching _ h
    · cases h

/-- A name that is offered can be cut behind what is typed. -/
theorem from?_of_mem_candidates {c : Completion} {name : String}
    (h : name ∈ c.candidates line.toList) :
    from? name (Utf8.size (Completion.typedPart line.toList).2) =
      some (String.ofList (name.toList.drop (Completion.typedPart line.toList).2.length)) := by
  obtain ⟨more, hmore⟩ := exists_of_mem_candidates h
  rw [from?_of_toList hmore, hmore, List.drop_left]

theorem hint_eq (c : Completion) (line : String) (position : Nat) :
    hint c line position = some (c.hint line position) := by
  rw [hint, Completion.hint]
  dsimp only
  rw [Utf8.size_toList]
  by_cases hbefore : position < line.utf8ByteSize
  · simp [hbefore]
  · rw [if_neg hbefore, candidates_eq, Option.bind_eq_bind, Option.bind_some]
    dsimp only
    rw [from?_start, Option.bind_eq_bind, Option.bind_some, Utf8.utf8ByteSize_ofList]
    by_cases hshort : Utf8.size (Completion.typedPart line.toList).2 < 2
    · simp [hshort]
    · simp only [hshort, hbefore, decide_false, Bool.or_false, if_false, Bool.false_eq_true,
        Utf8.size_toList]
      cases hfind : (c.candidates line.toList).find? fun name =>
          Utf8.size (Completion.typedPart line.toList).2 < name.utf8ByteSize with
      | none => rfl
      | some name =>
        dsimp only
        rw [from?_of_mem_candidates (List.mem_of_find?_eq_some hfind), Option.map_some,
          Option.map_some]

/-- The line up to the slash that starts its last word, if one does, in characters. -/
def slashTyped? (line : List Char) : Option String :=
  match Chars.cutLastWord line with
  | (front, '/' :: _) => some (String.ofList (front ++ ['/']))
  | _ => none

theorem typedSlash_eq (line : String) : typedSlash line = some (slashTyped? line.toList) := by
  obtain ⟨front, word, hcut, hline, -, hstart, -⟩ := lastWord_cases line
  rw [typedSlash, from?_wordStart, Option.bind_eq_bind, Option.bind_some, startsWith_slash, hcut,
    hstart, slashTyped?, hcut]
  cases word with
  | nil => rfl
  | cons c query =>
    by_cases hc : c = '/'
    · subst hc
      obtain ⟨hbehind, hsize⟩ := toList_behind_slash hline
      rw [← hsize, upTo?_of_toList hbehind]
      rfl
    · simp [hc]

theorem typeLine_eq (r : Repl) (line : String) :
    typeLine r line = some (r.typeLine line.toList) := by
  rw [typeLine, typedSlash_eq, Option.bind_eq_bind, Option.bind_some, slashTyped?, Repl.typeLine,
    String.ofList_toList, String.length_toList]
  cases hcut : Chars.cutLastWord line.toList with
  | mk front word =>
    cases word with
    | nil => rfl
    | cons c query =>
      by_cases hc : c = '/'
      · subst hc
        simp only [String.length_ofList]
      · simp [hc]

/-! ## Every slice can be had -/

/-- A text is cut at an offset in characters. -/
structure OffsetSlices (text : String) (offset : Nat) : Prop where
  boundary : IsBoundary text (byteIndex text offset)
  le : byteIndex text offset ≤ text.utf8ByteSize
  before : ∃ front, upTo? text (byteIndex text offset) = some front ∧
    front.toList <+: text.toList ∧ front.length = min offset text.length
  mono : ∀ later, offset ≤ later → byteIndex text offset ≤ byteIndex text later

/-- A draft is cut around its token. -/
structure DraftSlices (text : String) (cursor : Nat) (replacement : String) : Prop where
  before : beforeCursor text cursor = some (String.ofList (SlashToken.before text.toList cursor))
  /-- What is before the cursor is cut at its last slash, or behind it. -/
  at_slash : ∀ before position, beforeCursor text cursor = some before →
    slashPosition? before = some position →
      IsBoundary before position ∧ IsBoundary before (position + 1)
  start : tokenStart text cursor = some (SlashToken.start? text.toList cursor)
  query : tokenQuery text cursor = some ((SlashToken.query? text.toList cursor).map String.ofList)
  /-- The token ends where it starts, or later. -/
  start_le :
    byteIndex text ((SlashToken.start? text.toList cursor).getD (min cursor text.length)) ≤
      byteIndex text (min cursor text.length)
  replaced : replaceToken text cursor replacement =
    some (String.ofList (SlashToken.replace text.toList cursor replacement.toList).1,
      (SlashToken.replace text.toList cursor replacement.toList).2)

/-- A line is cut in front of its last word, and behind a slash that starts it. -/
structure LineSlices (line : String) : Prop where
  start_eq : wordStart line = Completion.wordStart line.toList
  boundary : IsBoundary line (wordStart line)
  word : ∃ word, from? line (wordStart line) = some word ∧
    ∀ c ∈ word.toList, Chars.isSpace c = false
  behind_space : wordStart line = 0 ∨
    ∃ front c, upTo? line (wordStart line) = some front ∧
      front.toList.getLast? = some c ∧ Chars.isSpace c = true
  behind_slash : ∀ word, from? line (wordStart line) = some word →
    Text.startsWith word "/" = true →
      IsBoundary line (wordStart line + 1) ∧ wordStart line + 1 ≤ line.utf8ByteSize

/-- A line is completed and hinted at, for which names are cut behind what is typed. -/
structure CompletionSlices (c : Completion) (line : String) : Prop where
  candidates : candidates c line = some (Completion.start line.toList, c.candidates line.toList)
  complete : ∀ position, IsBoundary line position →
    complete c line position = some (c.complete line position)
  hint : ∀ position, hint c line position = some (c.hint line position)
  names : ∃ typed, from? line (Completion.start line.toList) = some typed ∧
    ∀ name ∈ c.candidates line.toList, typed.utf8ByteSize < name.utf8ByteSize →
      IsBoundary name typed.utf8ByteSize

theorem offsetSlices (text : String) (offset : Nat) : OffsetSlices text offset where
  boundary := isBoundary_byteIndex text offset
  le := (isBoundary_byteIndex text offset).le
  before := by
    refine ⟨_, upTo?_byteIndex text offset, ?_, ?_⟩
    · rw [String.toList_ofList]
      exact List.take_prefix offset text.toList
    · rw [String.length_ofList, List.length_take, String.length_toList]
  mono := fun _ h => byteIndex_mono text h

theorem draftSlices (text : String) (cursor : Nat) (replacement : String) :
    DraftSlices text cursor replacement where
  before := beforeCursor_eq text cursor
  at_slash := by
    intro before position _ hposition
    exact isBoundary_slashPosition hposition
  start := tokenStart_eq text cursor
  query := tokenQuery_eq text cursor
  start_le := byteIndex_mono text (tokenStart_le text cursor)
  replaced := replaceToken_eq text cursor replacement

theorem lineSlices (line : String) : LineSlices line := by
  obtain ⟨front, word, hcut, hline, hword, hstart, hbehind⟩ := lastWord_cases line
  have hfrom : from? line (wordStart line) = some (String.ofList word) := by
    rw [hstart]
    exact from?_of_toList hline
  refine ⟨wordStart_eq line, ?_, ⟨_, hfrom, by rwa [String.toList_ofList]⟩, ?_, ?_⟩
  · rw [hstart]
    exact isBoundary_of_toList hline
  · rcases hbehind with rfl | ⟨c, hlast, hc⟩
    · exact .inl hstart
    · refine .inr ⟨String.ofList front, c, ?_, by rwa [String.toList_ofList], hc⟩
      rw [hstart]
      exact upTo?_of_toList hline
  · intro slice hslice hslash
    obtain rfl := Option.some.inj (hfrom.symm.trans hslice)
    rw [startsWith_slash, decide_eq_true_eq] at hslash
    obtain ⟨query, rfl⟩ := List.head?_eq_some_iff.mp hslash
    obtain ⟨hbehind, hsize⟩ := toList_behind_slash hline
    have hboundary : IsBoundary line (wordStart line + 1) := by
      rw [hstart, ← hsize]
      exact isBoundary_of_toList hbehind
    exact ⟨hboundary, hboundary.le⟩

theorem completionSlices (c : Completion) (line : String) : CompletionSlices c line where
  candidates := candidates_eq c line
  complete := fun _ h => complete_eq c h
  hint := hint_eq c line
  names := by
    refine ⟨_, from?_start line, fun name hname _ => ?_⟩
    obtain ⟨more, hmore⟩ := exists_of_mem_candidates hname
    rw [Utf8.utf8ByteSize_ofList]
    exact isBoundary_of_toList hmore

/-- Whatever the text, the line, the cursor and the names: every position in bytes at which
something is cut is within it and between two of its characters, so every slice can be had, and
what is made of them is what counting characters makes. A text is cut at any offset, before as
many of its characters; a draft where its token starts and, no earlier, where the cursor is; a
line in front of its last word, behind a slash that starts it, and wherever it is to be completed
if it may be cut there; and a name that is offered behind what is typed of it. -/
theorem no_slice_fails :
    (∀ text offset, OffsetSlices text offset) ∧
    (∀ text cursor replacement, DraftSlices text cursor replacement) ∧
    (∀ line, LineSlices line) ∧
    (∀ c line, CompletionSlices c line) ∧
    ∀ (r : Repl) (line : String), typeLine r line = some (r.typeLine line.toList) :=
  ⟨offsetSlices, draftSlices, lineSlices, completionSlices, typeLine_eq⟩

/-- White space of three bytes in front of a slash, characters of two and three bytes around it. -/
theorem wide_characters_cut :
    let line := "日本\u3000/é"
    let c := Completion.ofPrompts [{ id := "1", name := "été", text := "x" }]
    wordStart line = 9 ∧ IsBoundary line 9 ∧ IsBoundary line 10 ∧ ¬IsBoundary line 11 ∧
      from? line 9 = some "/é" ∧ upTo? line 10 = some "日本\u3000/" ∧
      replaceToken line 5 "プロ" = some ("日本\u3000プロ", 5) ∧
      hint c line 12 = some (some "té") := by
  intro line c
  obtain ⟨-, hdrafts, hlines, hcompletions, -⟩ := no_slice_fails
  have hstart : wordStart line = 9 := by decide +kernel
  have hword : from? line 9 = some "/é" := by decide +kernel
  have hboundary : IsBoundary line 9 := hstart ▸ (hlines line).boundary
  have hbehind : IsBoundary line 10 := by
    have hslash := (hlines line).behind_slash "/é"
    rw [hstart] at hslash
    exact (hslash hword (by decide +kernel)).1
  have hreplaced := (hdrafts line 5 "プロ").replaced
  have hhint := (hcompletions c line).hint 12
  exact ⟨hstart, hboundary, hbehind, by decide +kernel, hword, by decide +kernel,
    hreplaced.trans (by decide +kernel), hhint.trans (by decide +kernel)⟩

end Composer.Sliced
