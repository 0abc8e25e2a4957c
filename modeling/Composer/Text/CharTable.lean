import Composer.Text.Numeral
import Composer.Text.Search
import Composer.Text.Words
set_option autoImplicit false

/-!
# Tables of characters

What a standard says of characters is kept as spans of code points, each with the value that its
characters share. A table is written as a text of words: `41-5A=x` gives the characters from `A` to
`Z` the value that `x` writes, `41=x` one character alone, and a set leaves the values out. Code
points are in hexadecimal and rise from word to word, so that a character is found by halving.
-/

namespace Composer

/-- Neighbouring code points that share a value. -/
structure CharSpan (α : Type) where
  first : Nat
  last : Nat
  value : α
  deriving DecidableEq, Repr

/-- Values of characters, as spans that rise and do not overlap. -/
structure CharTable (α : Type) where
  spans : Array (CharSpan α)
  deriving DecidableEq, Repr

namespace CharTable

variable {α : Type}

/-- The number that hexadecimal digits write. -/
def hexNumber (cs : List Char) : Nat :=
  cs.foldl (fun n c => n * 16 + (Numeral.hexValue? c).getD 0) 0

/-- Reads one word of a table. -/
def readSpan (value : List Char → α) (word : List Char) : CharSpan α :=
  let (points, text) := (Chars.splitFirst (· == '=') word).getD (word, [])
  let (first, last) := (Chars.splitFirst (· == '-') points).getD (points, points)
  { first := hexNumber first, last := hexNumber last, value := value text }

/-- Reads a table whose values are written as `value` reads them. -/
def read (value : List Char → α) (text : String) : CharTable α :=
  let words := (text.splitOn "\n").flatMap fun line => Chars.words line.toList
  { spans := (words.map (readSpan value)).toArray }

/-- The span that holds a code point, among those from `low` to before `high`. -/
def search (t : CharTable α) (n low high : Nat) : Option (CharSpan α) :=
  if low < high then
    let middle := (low + high) / 2
    match t.spans[middle]? with
    | none => none
    | some s =>
      if n < s.first then t.search n low middle
      else if s.last < n then t.search n (middle + 1) high
      else some s
  else none
termination_by high - low
decreasing_by all_goals omega

/-- The span that holds a character. -/
def span? (t : CharTable α) (c : Char) : Option (CharSpan α) := t.search c.toNat 0 t.spans.size

/-- The value of a character. -/
def get? (t : CharTable α) (c : Char) : Option α := (t.span? c).map (·.value)

/-- What is found holds the code point. -/
theorem search_mem {t : CharTable α} {n low high : Nat} {s : CharSpan α}
    (h : t.search n low high = some s) : s.first ≤ n ∧ n ≤ s.last ∧ s ∈ t.spans := by
  fun_induction t.search n low high with
  | case1 => simp at h
  | case2 _ _ _ _ _ _ _ ih => exact ih h
  | case3 _ _ _ _ _ _ _ _ ih => exact ih h
  | case4 low high _ middle s' hs h₁ h₂ =>
    obtain rfl : s' = s := by simpa using h
    exact ⟨by omega, by omega, Array.mem_of_getElem? hs⟩
  | case5 => simp at h

/-- A character has a value only where a span of the table says so. -/
theorem span?_mem {t : CharTable α} {c : Char} {s : CharSpan α} (h : t.span? c = some s) :
    s.first ≤ c.toNat ∧ c.toNat ≤ s.last ∧ s ∈ t.spans :=
  search_mem h

end CharTable

/-- A set of characters. -/
structure CharSet where
  table : CharTable Unit
  deriving DecidableEq, Repr

namespace CharSet

/-- Reads a set. -/
def read (text : String) : CharSet := { table := CharTable.read (fun _ => ()) text }

/-- Whether a character is in the set. -/
def contains (s : CharSet) (c : Char) : Bool := (s.table.span? c).isSome

end CharSet
end Composer
