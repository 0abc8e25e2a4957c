import Composer.Text.Space
import Composer.Text.Search
set_option autoImplicit false

/-!
# Words

A word is a longest run of characters without white space.
-/

namespace Composer.Chars

/-- The words of a text, in order. -/
def words : List Char → List (List Char)
  | [] => []
  | c :: cs =>
    if isSpace c then words cs
    else match cs with
      | [] => [[c]]
      | d :: _ =>
        if isSpace d then [c] :: words cs
        else match words cs with
          | [] => [[c]]
          | word :: rest => (c :: word) :: rest

/-- Cuts a text just before its last word: the part up to and including the last white space, and
the rest, which has none. -/
def cutLastWord (cs : List Char) : List Char × List Char :=
  let word := (cs.reverse.takeWhile fun c => !isSpace c).reverse
  (cs.take (cs.length - word.length), word)

/-- Where the last word is cut off, the text is white space or at its start. -/
theorem cutLastWord_append {before word : List Char} (hword : ∀ c ∈ word, isSpace c = false)
    (hbefore : ∀ c ∈ before.getLast?, isSpace c = true) :
    cutLastWord (before ++ word) = (before, word) := by
  have hall : ∀ c ∈ word.reverse, (!isSpace c) = true := by
    intro c hc
    simp [hword c (List.mem_reverse.mp hc)]
  have hstop : before.reverse.takeWhile (fun c => !isSpace c) = [] := by
    cases h : before.reverse with
    | nil => rfl
    | cons c cs =>
      have hlast : before.getLast? = some c := by
        rw [← List.head?_reverse, h, List.head?_cons]
      simp [hbefore c hlast]
  have hrun : (before ++ word).reverse.takeWhile (fun c => !isSpace c) = word.reverse := by
    rw [List.reverse_append, List.takeWhile_append_of_pos hall, hstop, List.append_nil]
  simp only [cutLastWord, hrun]
  simp

/-- A text is what is before its last word, and that word; the word has no white space, and white
space is all that can end the part before it. -/
theorem cutLastWord_spec (cs : List Char) :
    cs = (cutLastWord cs).1 ++ (cutLastWord cs).2 ∧
      (∀ c ∈ (cutLastWord cs).2, isSpace c = false) ∧
      ∀ c ∈ (cutLastWord cs).1.getLast?, isSpace c = true := by
  have hsplit : cs = (cs.reverse.dropWhile fun c => !isSpace c).reverse
      ++ (cs.reverse.takeWhile fun c => !isSpace c).reverse := by
    rw [← List.reverse_append, List.takeWhile_append_dropWhile, List.reverse_reverse]
  have hword : ∀ c ∈ (cs.reverse.takeWhile fun c => !isSpace c).reverse, isSpace c = false := by
    intro c hc
    have := List.all_takeWhile (p := fun c => !isSpace c) (l := cs.reverse)
    simpa using List.all_eq_true.mp this c (List.mem_reverse.mp hc)
  have hbefore : ∀ c ∈ (cs.reverse.dropWhile fun c => !isSpace c).reverse.getLast?,
      isSpace c = true := by
    intro c hc
    rw [List.getLast?_reverse] at hc
    have := List.head?_dropWhile_not (fun c => !isSpace c) cs.reverse
    rw [hc] at this
    simpa using this
  have hcut := cutLastWord_append hword hbefore
  rw [← hsplit] at hcut
  rw [hcut]
  exact ⟨hsplit, hword, hbefore⟩

theorem cutLastWord_eq_iff {cs before word : List Char} :
    cutLastWord cs = (before, word) ↔
      cs = before ++ word ∧ (∀ c ∈ word, isSpace c = false) ∧
        ∀ c ∈ before.getLast?, isSpace c = true := by
  constructor
  · intro h
    have hspec := cutLastWord_spec cs
    rwa [h] at hspec
  · rintro ⟨rfl, hword, hbefore⟩
    exact cutLastWord_append hword hbefore

end Composer.Chars
