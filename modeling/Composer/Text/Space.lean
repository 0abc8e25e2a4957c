set_option autoImplicit false

/-!
# White space at the ends of a text

White space is the Unicode property `White_Space`, not the smaller ASCII class: an ideographic space
ends a word and is cut from the ends of a title, while a zero-width space is an ordinary character.

Functions on characters live in `Chars`, the same functions on strings in `Text`; each string
function is described by its list of characters.
-/

namespace Composer.Chars

/-- The characters with the Unicode property `White_Space`. -/
def isSpace (c : Char) : Bool :=
  let n := c.toNat
  (0x09 ≤ n && n ≤ 0x0D) || n == 0x20 || n == 0x85 || n == 0xA0 || n == 0x1680
    || (0x2000 ≤ n && n ≤ 0x200A) || n == 0x2028 || n == 0x2029 || n == 0x202F || n == 0x205F
    || n == 0x3000

/-- The class of core is contained in this one. -/
theorem isSpace_of_isWhitespace {c : Char} (h : c.isWhitespace = true) : isSpace c = true := by
  simp only [Char.isWhitespace, Bool.or_eq_true, decide_eq_true_eq] at h
  rcases h with ((rfl | rfl) | rfl) | rfl <;> decide

/-- The text without its leading white space. -/
def trimStart (cs : List Char) : List Char := cs.dropWhile isSpace

/-- The text without its trailing white space. -/
def trimEnd (cs : List Char) : List Char := (cs.reverse.dropWhile isSpace).reverse

/-- The text without white space at either end. -/
def trim (cs : List Char) : List Char := trimEnd (trimStart cs)

/-- White space at the end stays behind a character that is none. -/
theorem trimEnd_cons {c : Char} (h : isSpace c = false) (cs : List Char) :
    trimEnd (c :: cs) = c :: trimEnd cs := by
  simp only [trimEnd, List.reverse_cons, List.dropWhile_append]
  cases hrest : cs.reverse.dropWhile isSpace with
  | nil => simp [h]
  | cons d ds => simp

theorem trim_cons {c : Char} (h : isSpace c = false) (cs : List Char) :
    trim (c :: cs) = c :: trimEnd cs := by
  rw [trim, trimStart, List.dropWhile_cons_of_neg (by simp [h]), trimEnd_cons h]

/-- Without white space nothing is cut off. -/
theorem trim_of_forall_not_isSpace {cs : List Char} (h : ∀ c ∈ cs, isSpace c = false) :
    trim cs = cs := by
  have hend : ∀ cs : List Char, (∀ c ∈ cs, isSpace c = false) → trimEnd cs = cs := by
    intro cs hcs
    induction cs with
    | nil => rfl
    | cons c cs ih =>
      rw [List.forall_mem_cons] at hcs
      rw [trimEnd_cons hcs.1, ih hcs.2]
  cases cs with
  | nil => rfl
  | cons c cs =>
    rw [List.forall_mem_cons] at h
    rw [trim_cons h.1, hend cs h.2]

/-- A text is blank if it holds nothing but white space. -/
def isBlank (cs : List Char) : Bool := cs.all isSpace

@[simp] theorem isBlank_nil : isBlank [] = true := rfl

theorem isBlank_append (front back : List Char) :
    isBlank (front ++ back) = (isBlank front && isBlank back) :=
  List.all_append

/-- What is left of a text between its ends starts with something. -/
theorem isBlank_trim {cs : List Char} (h : trim cs ≠ []) : isBlank (trim cs) = false := by
  cases hstart : trimStart cs with
  | nil =>
    rw [trim, hstart] at h
    exact absurd rfl h
  | cons c rest =>
    have hc : isSpace c = false := by
      have hhead := List.head?_dropWhile_not isSpace cs
      rw [← trimStart, hstart] at hhead
      simpa using hhead
    rw [trim, hstart, trimEnd_cons hc, isBlank, List.all_cons, hc, Bool.false_and]

end Composer.Chars

namespace Composer.Text

/-- The string without its leading white space. -/
def trimStart (s : String) : String := String.ofList (Chars.trimStart s.toList)

/-- The string without white space at either end. -/
def trim (s : String) : String := String.ofList (Chars.trim s.toList)

/-- A string is blank if it holds nothing but white space. -/
def isBlank (s : String) : Bool := Chars.isBlank s.toList

theorem not_isBlank_append (front back : String) (h : isBlank front = false) :
    isBlank (front ++ back) = false := by
  rw [isBlank] at h ⊢
  rw [String.toList_append, Chars.isBlank_append, h, Bool.false_and]

@[simp] theorem toList_trimStart (s : String) :
    (trimStart s).toList = Chars.trimStart s.toList := by
  simp [trimStart]

@[simp] theorem toList_trim (s : String) : (trim s).toList = Chars.trim s.toList := by
  simp [trim]

/-- An optional text counts as present only if it is not blank. -/
def nonBlank? (s : Option String) : Option String := s.filter fun t => !isBlank t

@[simp] theorem nonBlank?_none : nonBlank? none = none := rfl

theorem nonBlank?_of_isBlank {s : String} (h : isBlank s = true) : nonBlank? (some s) = none := by
  simp [nonBlank?, h]

theorem nonBlank?_of_not_isBlank {s : String} (h : isBlank s = false) :
    nonBlank? (some s) = some s := by
  simp [nonBlank?, h]

@[simp] theorem nonBlank?_nonBlank? (s : Option String) :
    nonBlank? (nonBlank? s) = nonBlank? s := by
  simp [nonBlank?]

end Composer.Text
