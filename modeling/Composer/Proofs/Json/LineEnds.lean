import Composer.Json.Reader
import Composer.Proofs.Text.LineEnds
set_option autoImplicit false

/-!
# Line ends in JSON texts

Carriage returns and newlines are white space between tokens and nothing inside of one. So a
reader that is given a text with a carriage return in front of every newline does what it does
with the text itself: both fail, or both read the same and leave the same but for the line ends.
Where a reader is bounded by the length of the text, the bound is never reached, as every item
takes a character.
-/

namespace Composer.Json

open Chars (withReturns withReturns_cons withReturns_newline withReturns_nil)

/-! ## Results of two readers -/

/-- Both fail, or the results of both are related. -/
inductive Matched {ε α β : Type} (R : α → β → Prop) : Except ε α → Except ε β → Prop where
  | failed (e e' : ε) : Matched R (.error e) (.error e')
  | read {a : α} {b : β} (h : R a b) : Matched R (.ok a) (.ok b)

namespace Matched

variable {ε α β γ δ : Type} {R : α → β → Prop} {S : γ → δ → Prop} {x : Except ε α}
  {y : Except ε β}

theorem bind (h : Matched R x y) {f : α → Except ε γ} {g : β → Except ε δ}
    (hnext : ∀ a b, R a b → Matched S (f a) (g b)) : Matched S (x >>= f) (y >>= g) := by
  cases h with
  | failed e e' => exact .failed e e'
  | read h => exact hnext _ _ h

theorem map (h : Matched R x y) {f : α → γ} {g : β → δ} (hnext : ∀ a b, R a b → S (f a) (g b)) :
    Matched S (x.map f) (y.map g) := by
  cases h with
  | failed e e' => exact .failed e e'
  | read h => exact .read (hnext _ _ h)

theorem mono {R' : α → β → Prop} (h : Matched R x y) (hweaker : ∀ a b, R a b → R' a b) :
    Matched R' x y := by
  cases h with
  | failed e e' => exact .failed e e'
  | read h => exact .read (hweaker _ _ h)

theorem isOk_eq (h : Matched R x y) : y.isOk = x.isOk := by
  cases h <;> rfl

end Matched

/-- What is left of two texts is the same but for the line ends, and shorter than `n`. -/
structure SameRest (n : Nat) (rest rest' : List Char) : Prop where
  rest_eq : rest' = withReturns rest
  shorter : rest.length < n

/-- The same was read off two texts. -/
structure SameRead {α : Type} (n : Nat) (r r' : α × List Char) : Prop
    extends SameRest n r.2 r'.2 where
  read_eq : r'.1 = r.1

theorem sameRest_of_lt {n : Nat} {rest : List Char} (h : rest.length < n) :
    SameRest n rest (withReturns rest) := ⟨rfl, h⟩

theorem sameRead_of_lt {α : Type} {n : Nat} {rest : List Char} (h : rest.length < n) (a : α) :
    SameRead n (a, rest) (a, withReturns rest) := ⟨⟨rfl, h⟩, rfl⟩

theorem SameRest.mono {n m : Nat} {rest rest' : List Char} (h : SameRest n rest rest')
    (hle : n ≤ m) : SameRest m rest rest' := ⟨h.rest_eq, Nat.lt_of_lt_of_le h.shorter hle⟩

/-- Fewer characters are left than a larger bound says. -/
theorem Matched.within {α : Type} {n m : Nat} {x y : Read (α × List Char)}
    (h : Matched (SameRead n) x y) (hle : n ≤ m) : Matched (SameRead m) x y :=
  h.mono fun _ _ hsame => ⟨hsame.toSameRest.mono hle, hsame.read_eq⟩

/-- What comes behind the same reading. -/
theorem Matched.bindRead {α β γ : Type} {n : Nat} {S : β → γ → Prop} {x y : Read (α × List Char)}
    (h : Matched (SameRead n) x y) {f : α × List Char → Read β} {g : α × List Char → Read γ}
    (hnext : ∀ a rest, rest.length < n → Matched S (f (a, rest)) (g (a, withReturns rest))) :
    Matched S (x >>= f) (y >>= g) := by
  refine h.bind fun (a, rest) (a', rest') hsame => ?_
  obtain rfl : a' = a := hsame.read_eq
  obtain rfl : rest' = withReturns rest := hsame.rest_eq
  exact hnext a' rest hsame.shorter

/-- How a text begins without and with the carriage returns. -/
theorem withReturns_cases (cs : List Char) :
    cs = [] ∨ (∃ rest, cs = '\n' :: rest) ∨ ∃ c rest, c ≠ '\n' ∧ cs = c :: rest := by
  cases cs with
  | nil => exact .inl rfl
  | cons c rest =>
    by_cases hc : c = '\n'
    · exact .inr (.inl ⟨rest, by rw [hc]⟩)
    · exact .inr (.inr ⟨c, rest, hc, rfl⟩)

/-- A text with carriage returns is the same from its next token on. -/
theorem skipLayout_withReturns (cs : List Char) :
    skipLayout (withReturns cs) = withReturns (skipLayout cs) :=
  Chars.dropWhile_withReturns (by decide) cs

/-- The next token of a text, which does not begin with a line end. -/
theorem skipLayout_cases (cs : List Char) :
    (skipLayout cs = [] ∧ skipLayout (withReturns cs) = []) ∨
    ∃ c rest, c ≠ '\n' ∧ skipLayout cs = c :: rest ∧
      skipLayout (withReturns cs) = c :: withReturns rest ∧ rest.length < cs.length := by
  rw [skipLayout_withReturns]
  cases hskip : skipLayout cs with
  | nil => exact .inl ⟨rfl, rfl⟩
  | cons c rest =>
    have hhead := List.head?_dropWhile_not isLayout cs
    have hlength : (skipLayout cs).length ≤ cs.length := List.length_dropWhile_le isLayout cs
    rw [← skipLayout, hskip] at hhead
    rw [hskip] at hlength
    have hlayout : isLayout c = false := hhead
    have hc : c ≠ '\n' := by
      rintro rfl
      exact absurd hlayout (by decide)
    exact .inr ⟨c, rest, hc, rfl, withReturns_cons hc rest, hlength⟩

/-! ## Keywords -/

theorem keyword_withReturns {letters : List Char} (h : Chars.IsInline letters) (cs : List Char) :
    Matched (SameRest (cs.length + 1)) (keyword letters cs) (keyword letters (withReturns cs)) := by
  induction letters generalizing cs with
  | nil => exact .read (sameRest_of_lt (Nat.lt_succ_self _))
  | cons x xs ih =>
    obtain ⟨⟨hreturn, hnewline⟩, hxs⟩ := List.forall_mem_cons.mp h
    rcases withReturns_cases cs with rfl | ⟨rest, rfl⟩ | ⟨c, rest, hc, rfl⟩
    · exact .failed _ _
    · rw [withReturns_newline, keyword, keyword, if_neg hnewline.symm, if_neg hreturn.symm]
      exact .failed _ _
    · rw [withReturns_cons hc, keyword, keyword]
      split
      · exact (ih hxs rest).mono fun a b hsame => hsame.mono (Nat.succ_le_succ (Nat.le_succ _))
      · exact .failed _ _

/-! ## Numbers -/

section Numbers

variable {minus : Bool} {n count : Nat} {start : Int}

theorem wordDigits_withReturns (n count : Nat) (cs : List Char) :
    ∃ m k rest, wordDigits n count cs = (m, k, rest) ∧
      wordDigits n count (withReturns cs) = (m, k, withReturns rest) ∧
      rest.length ≤ cs.length := by
  induction cs generalizing n count with
  | nil => exact ⟨n, count, [], rfl, rfl, Nat.le_refl _⟩
  | cons c cs ih =>
    by_cases hc : c = '\n'
    · subst hc
      exact ⟨n, count, '\n' :: cs, rfl, rfl, Nat.le_refl _⟩
    · rw [withReturns_cons hc, wordDigits, wordDigits]
      split
      · obtain ⟨m, k, rest, hread, hread', hlength⟩ :=
          ih (n * 10 + Numeral.digitValue c) (count + 1)
        exact ⟨m, k, rest, hread, hread', Nat.le_succ_of_le hlength⟩
      · exact ⟨n, count, c :: cs, rfl, by rw [withReturns_cons hc], Nat.le_refl _⟩

theorem exponentDigits_withReturns (n : Nat) (cs : List Char) :
    ∃ m rest, exponentDigits n cs = (m, rest) ∧
      exponentDigits n (withReturns cs) = (m, withReturns rest) ∧ rest.length ≤ cs.length := by
  induction cs generalizing n with
  | nil => exact ⟨n, [], rfl, rfl, Nat.le_refl _⟩
  | cons c cs ih =>
    by_cases hc : c = '\n'
    · subst hc
      exact ⟨n, '\n' :: cs, rfl, rfl, Nat.le_refl _⟩
    · rw [withReturns_cons hc, exponentDigits, exponentDigits]
      split
      · obtain ⟨m, rest, hread, hread', hlength⟩ := ih (n * 10 + Numeral.digitValue c)
        exact ⟨m, rest, hread, hread', Nat.le_succ_of_le hlength⟩
      · exact ⟨n, c :: cs, rfl, by rw [withReturns_cons hc], Nat.le_refl _⟩

/-- Whether a digit comes next. -/
theorem digitNext_withReturns (cs : List Char) :
    ((withReturns cs).head?.map Numeral.isDigit).getD false =
      (cs.head?.map Numeral.isDigit).getD false := by
  rcases withReturns_cases cs with rfl | ⟨rest, rfl⟩ | ⟨c, rest, hc, rfl⟩
  · rfl
  · rfl
  · rw [withReturns_cons hc]
    rfl

theorem dropDigits_withReturns (cs : List Char) :
    (withReturns cs).dropWhile Numeral.isDigit = withReturns (cs.dropWhile Numeral.isDigit) :=
  Chars.dropWhile_withReturns (by decide) cs

theorem floatOf_withReturns (significand : Nat) (exponent : Int) (rest : List Char) :
    Matched (SameRead (rest.length + 1)) (floatOf minus significand exponent rest)
      (floatOf minus significand exponent (withReturns rest)) := by
  unfold floatOf
  split
  · exact .read (sameRead_of_lt (Nat.lt_succ_self _) _)
  · exact .failed _ _

/-- The sign of an exponent and what follows it. -/
def exponentSign (cs : List Char) : Bool × List Char :=
  match cs with
  | '+' :: rest => (false, rest)
  | '-' :: rest => (true, rest)
  | _ => (false, cs)

/-- Reads an exponent behind its sign. -/
def unsignedExponent (minus : Bool) (significand : Nat) (start : Int) (negative : Bool) :
    List Char → Read (Number × List Char)
  | [] => .error (.before [] .eofInValue)
  | d :: rest =>
    if !Numeral.isDigit d then .error (.behind (d :: rest) .invalidNumber)
    else
      let (e, rest) := exponentDigits (Numeral.digitValue d) rest
      if (rest.head?.map Numeral.isDigit).getD false then
        if significand ≠ 0 ∧ !negative then .error (.behind rest .numberOutOfRange)
        else .ok (.float minus .zero, rest.dropWhile Numeral.isDigit)
      else floatOf minus significand (if negative then start - e else start + e) rest

theorem exponentPart_eq (minus : Bool) (significand : Nat) (start : Int) (cs : List Char) :
    exponentPart minus significand start cs =
      unsignedExponent minus significand start (exponentSign cs).1 (exponentSign cs).2 := rfl

theorem exponentSign_withReturns (cs : List Char) :
    exponentSign (withReturns cs) = ((exponentSign cs).1, withReturns (exponentSign cs).2) ∧
      (exponentSign cs).2.length ≤ cs.length := by
  rcases withReturns_cases cs with rfl | ⟨rest, rfl⟩ | ⟨c, rest, hc, rfl⟩
  · exact ⟨rfl, Nat.le_refl _⟩
  · exact ⟨rfl, Nat.le_refl _⟩
  · rw [withReturns_cons hc]
    by_cases hplus : c = '+'
    · subst hplus
      exact ⟨rfl, Nat.le_succ _⟩
    by_cases hminus : c = '-'
    · subst hminus
      exact ⟨rfl, Nat.le_succ _⟩
    · have hnone : ∀ cs, exponentSign (c :: cs) = (false, c :: cs) := by
        intro cs
        unfold exponentSign
        split
        next heq => exact absurd (List.cons.inj heq).1 hplus
        next heq => exact absurd (List.cons.inj heq).1 hminus
        next => rfl
      rw [hnone, hnone, withReturns_cons hc]
      exact ⟨rfl, Nat.le_refl _⟩

theorem unsignedExponent_withReturns (negative : Bool) (cs : List Char) :
    Matched (SameRead (cs.length + 1)) (unsignedExponent minus n start negative cs)
      (unsignedExponent minus n start negative (withReturns cs)) := by
  rcases withReturns_cases cs with rfl | ⟨rest, rfl⟩ | ⟨c, rest, hc, rfl⟩
  · exact .failed _ _
  · exact .failed _ _
  · obtain ⟨e, left, hread, hread', hlength⟩ :=
      exponentDigits_withReturns (Numeral.digitValue c) rest
    rw [withReturns_cons hc, unsignedExponent, unsignedExponent, hread, hread']
    dsimp only
    rw [digitNext_withReturns, dropDigits_withReturns]
    have hlength' := List.length_dropWhile_le Numeral.isDigit left
    split
    · exact .failed _ _
    split
    · split
      · exact .failed _ _
      · refine .read (sameRead_of_lt ?_ _)
        simp only [List.length_cons]
        omega
    · exact (floatOf_withReturns _ _ left).within (by simp only [List.length_cons]; omega)

theorem exponentPart_withReturns (n : Nat) (start : Int) (cs : List Char) :
    Matched (SameRead (cs.length + 1)) (exponentPart minus n start cs)
      (exponentPart minus n start (withReturns cs)) := by
  obtain ⟨hsign, hlength⟩ := exponentSign_withReturns cs
  rw [exponentPart_eq, exponentPart_eq, hsign]
  exact (unsignedExponent_withReturns _ _).within (Nat.succ_le_succ hlength)

/-- What follows the digits of a number with a fraction: an exponent, or the end. -/
def behindFraction (minus : Bool) (n : Nat) (exponent : Int) (cs : List Char) :
    Read (Number × List Char) :=
  match cs with
  | 'e' :: rest => exponentPart minus n exponent rest
  | 'E' :: rest => exponentPart minus n exponent rest
  | _ => floatOf minus n exponent cs

theorem behindFraction_withReturns (n : Nat) (exponent : Int) (cs : List Char) :
    Matched (SameRead (cs.length + 1)) (behindFraction minus n exponent cs)
      (behindFraction minus n exponent (withReturns cs)) := by
  rcases withReturns_cases cs with rfl | ⟨rest, rfl⟩ | ⟨c, rest, hc, rfl⟩
  · exact floatOf_withReturns n exponent []
  · exact floatOf_withReturns n exponent ('\n' :: rest)
  · by_cases he : c = 'e'
    · subst he
      exact (exponentPart_withReturns n exponent rest).within (Nat.le_succ _)
    by_cases hE : c = 'E'
    · subst hE
      exact (exponentPart_withReturns n exponent rest).within (Nat.le_succ _)
    · have hfloat := @floatOf_withReturns minus n exponent (c :: rest)
      rw [withReturns_cons hc] at hfloat ⊢
      simpa [behindFraction, he, hE] using hfloat

theorem fractionPart_withReturns (n : Nat) (start : Int) (cs : List Char) :
    Matched (SameRead (cs.length + 1)) (fractionPart minus n start cs)
      (fractionPart minus n start (withReturns cs)) := by
  obtain ⟨m, count, rest, hread, hread', hlength⟩ := wordDigits_withReturns n 0 cs
  unfold fractionPart
  rw [hread, hread']
  dsimp only
  rw [digitNext_withReturns, dropDigits_withReturns]
  split
  · cases rest with
    | nil => exact .failed _ _
    | cons c rest =>
      split
      all_goals split
      all_goals exact .failed _ _
  · have hlength' := List.length_dropWhile_le Numeral.isDigit rest
    exact (behindFraction_withReturns m _ _).within (by omega)

/-- The number without fraction and exponent. -/
def integerOf (minus : Bool) (n : Nat) (dropped rest : List Char) : Read (Number × List Char) :=
  if dropped ≠ [] then floatOf minus n dropped.length rest
  else if !minus then .ok (.natural n, rest)
  else if n = 0 ∨ Numeral.maxSigned + 1 < n then floatOf true n 0 rest
  else .ok (.negative n, rest)

theorem integerOf_withReturns (n : Nat) (dropped rest : List Char) :
    Matched (SameRead (rest.length + 1)) (integerOf minus n dropped rest)
      (integerOf minus n dropped (withReturns rest)) := by
  unfold integerOf
  split
  · exact floatOf_withReturns n dropped.length rest
  split
  · exact .read (sameRead_of_lt (Nat.lt_succ_self _) _)
  split
  · exact floatOf_withReturns n 0 rest
  · exact .read (sameRead_of_lt (Nat.lt_succ_self _) _)

theorem afterDigits_withReturns (n : Nat) (cs : List Char) :
    Matched (SameRead (cs.length + 1)) (afterDigits minus n cs)
      (afterDigits minus n (withReturns cs)) := by
  have hlength := List.length_dropWhile_le Numeral.isDigit cs
  unfold afterDigits
  rw [Chars.takeWhile_withReturns (by decide) (by decide), dropDigits_withReturns]
  generalize cs.takeWhile Numeral.isDigit = dropped
  generalize cs.dropWhile Numeral.isDigit = rest at hlength
  have hend : ∀ rest, Matched (SameRead (rest.length + 1)) (integerOf minus n dropped rest)
      (integerOf minus n dropped (withReturns rest)) :=
    fun rest => integerOf_withReturns n dropped rest
  rcases withReturns_cases rest with rfl | ⟨rest, rfl⟩ | ⟨c, rest, hc, rfl⟩
  · exact (hend []).within (by omega)
  · exact (hend ('\n' :: rest)).within (by omega)
  rw [List.length_cons] at hlength
  by_cases hpoint : c = '.'
  · subst hpoint
    exact (fractionPart_withReturns n dropped.length rest).within (by omega)
  by_cases he : c = 'e'
  · subst he
    exact (exponentPart_withReturns n dropped.length rest).within (by omega)
  by_cases hE : c = 'E'
  · subst hE
    exact (exponentPart_withReturns n dropped.length rest).within (by omega)
  · have hend := (hend (c :: rest)).within (m := cs.length + 1)
      (by simp only [List.length_cons]; omega)
    rw [withReturns_cons hc] at hend ⊢
    simpa [integerOf, hpoint, he, hE] using hend

theorem numeral_withReturns (cs : List Char) :
    Matched (SameRead cs.length) (numeral minus cs) (numeral minus (withReturns cs)) := by
  rcases withReturns_cases cs with rfl | ⟨rest, rfl⟩ | ⟨c, rest, hc, rfl⟩
  · exact .failed _ _
  · exact .failed _ _
  rw [withReturns_cons hc]
  by_cases hzero : c = '0'
  · subst hzero
    rw [numeral, numeral, digitNext_withReturns]
    split
    · exact .failed _ _
    · exact afterDigits_withReturns 0 rest
  · obtain ⟨n, count, left, hread, hread', hlength⟩ :=
      wordDigits_withReturns (Numeral.digitValue c) 1 rest
    have hnumeral : ∀ cs, numeral minus (c :: cs) = if Numeral.isDigit c then
        afterDigits minus (wordDigits (Numeral.digitValue c) 1 cs).1
          (wordDigits (Numeral.digitValue c) 1 cs).2.2
        else .error (.behind (c :: cs) .invalidNumber) := by
      intro cs
      rw [numeral]
      exact fun h => absurd h hzero
    rw [hnumeral, hnumeral, hread, hread']
    split
    · exact (afterDigits_withReturns n left).within (Nat.succ_le_succ hlength)
    · exact .failed _ _

end Numbers

/-! ## Strings -/

theorem hexFour_fails {cs : List Char}
    (h : cs.length < 4 ∨ ∃ c ∈ cs.take 4, Numeral.hexValue? c = none) :
    ∃ e, hexFour cs = .error e := by
  unfold hexFour
  split
  next a b c d rest =>
    split
    next ha hb hc hd =>
      obtain hshort | ⟨x, hx, hnone⟩ := h
      · simp only [List.length_cons] at hshort
        omega
      · simp only [List.take_succ_cons, List.take_zero, List.mem_cons, List.not_mem_nil,
          or_false] at hx
        rcases hx with rfl | rfl | rfl | rfl
        all_goals simp_all
    next => exact ⟨_, rfl⟩
  next =>
    split
    all_goals exact ⟨_, rfl⟩

/-- A line end is no hexadecimal digit. -/
theorem hexFour_withReturns (cs : List Char) :
    Matched (SameRead (cs.length + 1)) (hexFour cs) (hexFour (withReturns cs)) := by
  by_cases hend : '\n' ∈ cs.take 4
  · obtain ⟨e, he⟩ := hexFour_fails (.inr ⟨'\n', hend, rfl⟩)
    obtain ⟨e', he'⟩ := hexFour_fails (.inr ⟨'\r', Chars.mem_take_withReturns hend, rfl⟩)
    rw [he, he']
    exact .failed e e'
  by_cases hshort : cs.length < 4
  · rw [List.take_of_length_le (Nat.le_of_lt hshort)] at hend
    obtain ⟨e, he⟩ := hexFour_fails (.inl hshort)
    rw [Chars.withReturns_of_not_mem hend, he]
    exact .failed e e
  obtain ⟨a, b, c, d, rest, rfl⟩ : ∃ a b c d rest, cs = a :: b :: c :: d :: rest := by
    match cs with
    | a :: b :: c :: d :: rest => exact ⟨a, b, c, d, rest, rfl⟩
    | [] | [_] | [_, _] | [_, _, _] => simp at hshort
  simp only [List.take_succ_cons, List.take_zero, List.mem_cons, List.not_mem_nil, or_false,
    not_or] at hend
  obtain ⟨ha, hb, hc, hd⟩ := hend
  rw [withReturns_cons (Ne.symm ha), withReturns_cons (Ne.symm hb), withReturns_cons (Ne.symm hc),
    withReturns_cons (Ne.symm hd), hexFour, hexFour]
  split
  · exact .read (sameRead_of_lt (by simp only [List.length_cons]; omega) _)
  · exact .failed _ _

theorem lowSurrogate_fails (high : Nat) {cs : List Char} (h : ∀ rest, cs ≠ '\\' :: 'u' :: rest) :
    ∃ e, lowSurrogate high cs = .error e := by
  unfold lowSurrogate
  split
  · exact ⟨_, rfl⟩
  · exact ⟨_, rfl⟩
  next rest => exact absurd rfl (h rest)
  · exact ⟨_, rfl⟩
  · exact ⟨_, rfl⟩

theorem lowSurrogate_withReturns (high : Nat) (cs : List Char) :
    Matched (SameRead (cs.length + 1)) (lowSurrogate high cs)
      (lowSurrogate high (withReturns cs)) := by
  by_cases hstart : ['\\', 'u'] <+: cs
  · obtain ⟨rest, rfl⟩ := hstart
    refine (hexFour_withReturns rest).bindRead fun low left hlength => ?_
    dsimp only
    split
    · exact .read (sameRead_of_lt (by simp only [List.length_append, List.length_cons]; omega) _)
    · exact .failed _ _
  · have hstart' : ¬['\\', 'u'] <+: withReturns cs := by
      rwa [← List.isPrefixOf_iff_prefix, Chars.isPrefixOf_withReturns (by decide),
        List.isPrefixOf_iff_prefix]
    obtain ⟨e, he⟩ := lowSurrogate_fails high fun rest h => hstart ⟨rest, h.symm⟩
    obtain ⟨e', he'⟩ := lowSurrogate_fails high fun rest h => hstart' ⟨rest, h.symm⟩
    rw [he, he']
    exact .failed e e'

/-- The character that is escaped by a single other one. -/
def shortEscape? (c : Char) : Option Char :=
  match c with
  | '"' => some '"'
  | '\\' => some '\\'
  | '/' => some '/'
  | 'b' => some '\x08'
  | 'f' => some '\x0c'
  | 'n' => some '\n'
  | 'r' => some '\r'
  | 't' => some '\t'
  | _ => none

theorem escaped_cons {c : Char} (h : c ≠ 'u') (cs : List Char) :
    escaped (c :: cs) =
      match shortEscape? c with
      | some x => .ok (x, cs)
      | none => .error (.behind (c :: cs) .invalidEscape) := by
  rw [escaped.eq_def]
  split
  next heq => cases heq
  next heq => exact absurd (List.cons.inj heq).1 h
  next heq =>
    cases heq
    split
    case h_9 => simp [shortEscape?, *]
    all_goals rfl

theorem escaped_withReturns (cs : List Char) :
    Matched (SameRead (cs.length + 1)) (escaped cs) (escaped (withReturns cs)) := by
  rcases withReturns_cases cs with rfl | ⟨rest, rfl⟩ | ⟨c, rest, hc, rfl⟩
  · exact .failed _ _
  · exact .failed _ _
  rw [withReturns_cons hc]
  by_cases hu : c = 'u'
  · subst hu
    refine (hexFour_withReturns rest).bindRead fun n left hlength => ?_
    dsimp only
    split
    · exact .failed _ _
    split
    · exact (lowSurrogate_withReturns n left).within (by simp only [List.length_cons]; omega)
    · exact .read (sameRead_of_lt (by simp only [List.length_cons]; omega) _)
  · rw [escaped_cons hu, escaped_cons hu]
    cases shortEscape? c with
    | none => exact .failed _ _
    | some x => exact .read (sameRead_of_lt (by simp only [List.length_cons]; omega) x)

/-- No line end may stand in a string, and every character takes one at least. -/
theorem stringWithin_withReturns {n n' : Nat} {cs : List Char} (hn : cs.length ≤ n)
    (hn' : cs.length ≤ n') :
    Matched (SameRead (cs.length + 1)) (stringWithin n cs) (stringWithin n' (withReturns cs)) := by
  induction n generalizing n' cs with
  | zero =>
    obtain rfl := List.length_eq_zero_iff.mp (Nat.le_zero.mp hn)
    cases n' <;> exact .failed _ _
  | succ n ih =>
    cases n' with
    | zero =>
      obtain rfl := List.length_eq_zero_iff.mp (Nat.le_zero.mp hn')
      exact .failed _ _
    | succ n' =>
      rcases withReturns_cases cs with rfl | ⟨rest, rfl⟩ | ⟨c, rest, hc, rfl⟩
      · exact .failed _ _
      · exact .failed _ _
      rw [List.length_cons] at hn hn'
      rw [withReturns_cons hc, stringWithin, stringWithin]
      split
      · exact .read (sameRead_of_lt (by simp only [List.length_cons]; omega) _)
      split
      · refine (escaped_withReturns rest).bindRead fun x left hleft => ?_
        refine (ih (by omega) (by omega)).bindRead fun xs last hlast => ?_
        exact .read (sameRead_of_lt (by simp only [List.length_cons]; omega) _)
      split
      · exact .failed _ _
      · refine (ih (by omega) (by omega)).bindRead fun xs last hlast => ?_
        exact .read (sameRead_of_lt (by simp only [List.length_cons]; omega) _)

theorem stringBody_withReturns (cs : List Char) :
    Matched (SameRead (cs.length + 1)) (stringBody cs) (stringBody (withReturns cs)) := by
  refine (stringWithin_withReturns (Nat.le_refl _)
    (Chars.length_le_withReturns cs)).bindRead fun xs rest hlength => ?_
  exact .read (sameRead_of_lt hlength _)

/-! ## Values -/

theorem colon_withReturns (cs : List Char) :
    Matched (SameRest cs.length) (colon cs) (colon (withReturns cs)) := by
  unfold colon
  rcases skipLayout_cases cs with ⟨hnil, hnil'⟩ | ⟨c, rest, hc, hskip, hskip', hlength⟩
  · rw [hnil, hnil']
    exact .failed _ _
  · rw [hskip, hskip']
    by_cases hcolon : c = ':'
    · subst hcolon
      exact .read (sameRest_of_lt hlength)
    · simpa [hcolon] using .failed _ _

section Lists

variable {α : Type} {item : List Char → Read (α × List Char)}

theorem itemsWithin_withReturns
    (hitem : ∀ cs, Matched (SameRead cs.length) (item cs) (item (withReturns cs)))
    {n n' : Nat} {cs : List Char} (hn : cs.length < n) (hn' : cs.length < n') (first : Bool) :
    Matched (SameRead cs.length) (itemsWithin item n first cs)
      (itemsWithin item n' first (withReturns cs)) := by
  -- each item takes a character off the text, so the bounds may differ as long as both exceed it
  induction n generalizing n' cs first with
  | zero => exact absurd hn (Nat.not_lt_zero _)
  | succ n ih =>
    obtain ⟨n', rfl⟩ := Nat.exists_eq_add_one_of_ne_zero (Nat.ne_zero_of_lt hn')
    have hnext : ∀ {rest : List Char}, rest.length ≤ cs.length →
        Matched (SameRead cs.length)
          (item rest >>= fun r => itemsWithin item n false r.2 >>= fun s => pure (r.1 :: s.1, s.2))
          (item (withReturns rest) >>= fun r => itemsWithin item n' false r.2 >>= fun s =>
            pure (r.1 :: s.1, s.2)) := by
      intro rest hrest
      refine (hitem rest).bindRead fun x left hleft => ?_
      refine (ih (by omega : left.length < n) (by omega) false).bindRead fun xs last hlast => ?_
      exact .read (sameRead_of_lt (Nat.lt_trans hlast (Nat.lt_of_lt_of_le hleft hrest)) _)
    rcases skipLayout_cases cs with ⟨hnil, hnil'⟩ | ⟨c, rest, hc, hskip, hskip', hlength⟩
    · rw [itemsWithin, itemsWithin, hnil, hnil']
      exact .failed _ _
    rw [itemsWithin, itemsWithin, hskip, hskip']
    by_cases hclose : c = ']'
    · subst hclose
      exact .read (sameRead_of_lt hlength _)
    have hhere : ∀ {d : Char} {left : List Char}, d ≠ '\n' → left.length < cs.length →
        Matched (SameRead cs.length)
          (item (d :: left) >>= fun r =>
            itemsWithin item n false r.2 >>= fun s => pure (r.1 :: s.1, s.2))
          (item (d :: withReturns left) >>= fun r =>
            itemsWithin item n' false r.2 >>= fun s => pure (r.1 :: s.1, s.2)) := by
      intro d left hd hleft
      have hfrom := @hnext (d :: left) hleft
      rwa [withReturns_cons hd] at hfrom
    simp only
    split
    · exact hhere hc hlength
    split
    · exact .failed _ _
    rcases skipLayout_cases rest with ⟨hnil, hnil'⟩ | ⟨d, left, hd, hskip, hskip', hleft⟩
    · rw [hnil, hnil']
      exact .failed _ _
    rw [hskip, hskip']
    by_cases htrailing : d = ']'
    · subst htrailing
      exact .failed _ _
    · split
      next heq => cases heq
      next heq => exact absurd (List.cons.inj heq).1 htrailing
      split
      next heq => cases heq
      next heq => exact absurd (List.cons.inj heq).1 htrailing
      exact hhere hd (Nat.lt_trans hleft hlength)

theorem membersWithin_withReturns
    (hitem : ∀ cs, Matched (SameRead cs.length) (item cs) (item (withReturns cs)))
    {n n' : Nat} {cs : List Char} (hn : cs.length < n) (hn' : cs.length < n') (first : Bool) :
    Matched (SameRead cs.length) (membersWithin item n first cs)
      (membersWithin item n' first (withReturns cs)) := by
  induction n generalizing n' cs first with
  | zero => exact absurd hn (Nat.not_lt_zero _)
  | succ n ih =>
    obtain ⟨n', rfl⟩ := Nat.exists_eq_add_one_of_ne_zero (Nat.ne_zero_of_lt hn')
    have hnext : ∀ {rest : List Char}, rest.length < cs.length →
        Matched (SameRead cs.length)
          (stringBody rest >>= fun k => colon k.2 >>= fun left => item left >>= fun r =>
            membersWithin item n false r.2 >>= fun s => pure ((k.1, r.1) :: s.1, s.2))
          (stringBody (withReturns rest) >>= fun k => colon k.2 >>= fun left =>
            item left >>= fun r => membersWithin item n' false r.2 >>= fun s =>
              pure ((k.1, r.1) :: s.1, s.2)) := by
      intro rest hrest
      refine (stringBody_withReturns rest).bindRead fun key behind hbehind => ?_
      refine (colon_withReturns behind).bind fun start start' hsame => ?_
      obtain ⟨rfl, hstart⟩ := hsame
      refine (hitem start).bindRead fun x left hleft => ?_
      refine (ih (by omega : left.length < n) (by omega) false).bindRead fun ms last hlast => ?_
      exact .read (sameRead_of_lt (Nat.lt_trans hlast (by omega)) _)
    rcases skipLayout_cases cs with ⟨hnil, hnil'⟩ | ⟨c, rest, hc, hskip, hskip', hlength⟩
    · rw [membersWithin, membersWithin, hnil, hnil']
      exact .failed _ _
    rw [membersWithin, membersWithin, hskip, hskip']
    by_cases hclose : c = '}'
    · subst hclose
      exact .read (sameRead_of_lt hlength _)
    simp only
    split
    · split
      · exact hnext hlength
      · exact .failed _ _
    split
    · exact .failed _ _
    rcases skipLayout_cases rest with ⟨hnil, hnil'⟩ | ⟨d, left, hd, hskip, hskip', hleft⟩
    · rw [hnil, hnil']
      exact .failed _ _
    rw [hskip, hskip']
    by_cases hquote : d = '"'
    · subst hquote
      exact hnext (Nat.lt_trans hleft hlength)
    by_cases htrailing : d = '}'
    · subst htrailing
      exact .failed _ _
    · split
      next heq => cases heq
      next heq => exact absurd (List.cons.inj heq).1 hquote
      next heq => exact absurd (List.cons.inj heq).1 htrailing
      split
      next heq => cases heq
      next heq => exact absurd (List.cons.inj heq).1 hquote
      next heq => exact absurd (List.cons.inj heq).1 htrailing
      exact .failed _ _

end Lists

/-- Behind a keyword stands what stood behind it. -/
theorem keyword_read {n : Nat} {letters rest : List Char} (h : Chars.IsInline letters)
    (hlength : rest.length < n) (v : Json) :
    Matched (SameRead n) ((keyword letters rest).map fun left => (v, left))
      ((keyword letters (withReturns rest)).map fun left => (v, left)) :=
  (keyword_withReturns h rest).map fun _ _ hsame =>
    ⟨⟨hsame.rest_eq, Nat.lt_of_lt_of_le hsame.shorter hlength⟩, rfl⟩

theorem value_withReturns (depth : Nat) (cs : List Char) :
    Matched (SameRead cs.length) (value depth cs) (value depth (withReturns cs)) := by
  induction depth using Nat.strongRecOn generalizing cs with
  | ind depth ih =>
    unfold value
    rcases skipLayout_cases cs with ⟨hnil, hnil'⟩ | ⟨c, rest, hc, hskip, hskip', hlength⟩
    · rw [hnil, hnil']
      exact .failed _ _
    rw [hskip, hskip']
    have hrest := Chars.length_le_withReturns rest
    by_cases hnull : c = 'n'
    · subst hnull
      exact keyword_read (by decide) hlength .null
    by_cases htrue : c = 't'
    · subst htrue
      exact keyword_read (by decide) hlength (.bool true)
    by_cases hfalse : c = 'f'
    · subst hfalse
      exact keyword_read (by decide) hlength (.bool false)
    by_cases hminus : c = '-'
    · subst hminus
      refine (numeral_withReturns rest).bindRead fun x left hleft => ?_
      exact .read (sameRead_of_lt (Nat.lt_trans hleft hlength) _)
    by_cases hquote : c = '"'
    · subst hquote
      refine (stringBody_withReturns rest).bindRead fun s left hleft => ?_
      exact .read (sameRead_of_lt (Nat.lt_of_lt_of_le hleft hlength) _)
    by_cases harray : c = '['
    · subst harray
      cases depth with
      | zero => exact .failed _ _
      | succ depth =>
        refine (itemsWithin_withReturns (ih depth (Nat.lt_succ_self depth)) (Nat.lt_succ_self _)
          (Nat.lt_succ_of_le hrest) true).bindRead fun items left hleft => ?_
        exact .read (sameRead_of_lt (Nat.lt_trans hleft hlength) _)
    by_cases hobject : c = '{'
    · subst hobject
      cases depth with
      | zero => exact .failed _ _
      | succ depth =>
        refine (membersWithin_withReturns (ih depth (Nat.lt_succ_self depth)) (Nat.lt_succ_self _)
          (Nat.lt_succ_of_le hrest) true).bindRead fun members left hleft => ?_
        exact .read (sameRead_of_lt (Nat.lt_trans hleft hlength) _)
    simp only
    split
    · have hnumeral := @numeral_withReturns false (c :: rest)
      rw [withReturns_cons hc] at hnumeral
      refine hnumeral.bindRead fun x left hleft => ?_
      exact .read (sameRead_of_lt (Nat.lt_of_lt_of_le hleft hlength) _)
    · exact .failed _ _

/-- A text is JSON with carriage returns in front of its newlines exactly if it is without, and then
the value is the same. -/
theorem readChars_withReturns (cs : List Char) :
    Matched Eq (readChars cs) (readChars (withReturns cs)) := by
  refine (value_withReturns maxDepth cs).bindRead fun v rest hrest => ?_
  dsimp only
  have hfinish : Matched Eq (finish rest) (finish (withReturns rest)) := by
    unfold finish
    rcases skipLayout_cases rest with ⟨hnil, hnil'⟩ | ⟨c, left, hc, hskip, hskip', hlength⟩
    · rw [hnil, hnil']
      exact .read rfl
    · rw [hskip, hskip']
      exact .failed _ _
  exact hfinish.bind fun _ _ _ => .read rfl

end Composer.Json
