import CodeTags.Text.Blank

/-!
# Trimming

* `trimEnd`, `trim`: a list without the elements of one class at its end, or at both ends.
* `trimEnd_append_self`: what is trimmed is a final part of the list, and all of it is in the class.
* `lineContent`: a line without its line feeds and, before them, its carriage returns.
-/

namespace CodeTags

variable {α : Type}

/-- The list without the longest final part in the class. -/
def trimEnd (p : α → Bool) (xs : List α) : List α := (xs.reverse.dropWhile p).reverse

/-- The list without the longest first part and the longest final part in the class. -/
def trim (p : α → Bool) (xs : List α) : List α := trimEnd p (xs.dropWhile p)

@[simp] theorem trimEnd_nil (p : α → Bool) : trimEnd p [] = [] := rfl

theorem trimEnd_append_self (p : α → Bool) (xs : List α) :
    trimEnd p xs ++ (xs.reverse.takeWhile p).reverse = xs := by
  rw [trimEnd, ← List.reverse_append, List.takeWhile_append_dropWhile, List.reverse_reverse]

theorem trimEnd_concat_of_pos {p : α → Bool} {xs : List α} {a : α} (h : p a = true) :
    trimEnd p (xs ++ [a]) = trimEnd p xs := by
  simp [trimEnd, h]

theorem trimEnd_concat_of_neg {p : α → Bool} {xs : List α} {a : α} (h : p a = false) :
    trimEnd p (xs ++ [a]) = xs ++ [a] := by
  simp [trimEnd, h]

/-- The text of a line: line feeds at the end go first, then carriage returns. -/
def lineContent (line : List Char) : List Char :=
  trimEnd (· == '\r') (trimEnd (· == '\n') line)

/-- The text without blanks at its end. -/
def trimBlankEnd (s : String) : String := String.ofList (trimEnd isBlank s.toList)

end CodeTags
