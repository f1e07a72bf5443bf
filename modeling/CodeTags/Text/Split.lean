/-!
# Splitting

Two ways to cut a list at the places of one element.

* `linesAfter sep`: the pieces keep the `sep` that ends them, and nothing is left of an empty end,
  so the pieces put together give the list again (`flatten_linesAfter`).
* `linesBefore sep`: those of them that can be read, which are all unless reading stops.
* `fieldsOf sep`: the pieces lie between the places of `sep`, so there is one more piece than there
  are places (`length_fieldsOf`).

`dropExact?` takes a known text off the beginning of another.
-/

namespace CodeTags

variable {α : Type} [DecidableEq α]

/-- Cuts after each `sep`. Only the last piece can be without one. -/
def linesAfter (sep : α) : List α → List (List α)
  | [] => []
  | a :: as =>
    if a = sep then [a] :: linesAfter sep as
    else
      match linesAfter sep as with
      | [] => [[a]]
      | l :: ls => (a :: l) :: ls

/-- The pieces that can be read. Where reading stops behind the list and not at the end of it all, a
last piece without its `sep` is lost. -/
def linesBefore (sep : α) (stopped : Bool) (as : List α) : List (List α) :=
  if stopped then (linesAfter sep as).filter (·.getLast? == some sep) else linesAfter sep as

/-- Cuts at each `sep` and leaves it out. -/
def fieldsOf (sep : α) : List α → List (List α)
  | [] => [[]]
  | a :: as =>
    if a = sep then [] :: fieldsOf sep as
    else
      match fieldsOf sep as with
      | [] => [[a]]
      | f :: fs => (a :: f) :: fs

/-- What is behind `head`, if the list begins with it. -/
def dropExact? : (head whole : List α) → Option (List α)
  | [], as => some as
  | _ :: _, [] => none
  | h :: hs, a :: as => if h = a then dropExact? hs as else none

theorem dropExact?_eq_some_iff {head whole rest : List α} :
    dropExact? head whole = some rest ↔ whole = head ++ rest := by
  induction head generalizing whole with
  | nil => simp [dropExact?]
  | cons h hs ih =>
    cases whole with
    | nil => simp [dropExact?]
    | cons a as =>
      by_cases hc : h = a
      · simp [dropExact?, hc, ih]
      · simp [dropExact?, hc, Ne.symm hc]

@[simp] theorem flatten_linesAfter (sep : α) (as : List α) :
    (linesAfter sep as).flatten = as := by
  induction as with
  | nil => rfl
  | cons a as ih =>
    rw [linesAfter]
    split
    · simp [ih]
    · split
      · next h => rw [h] at ih; simp [← ih]
      · next h => rw [h] at ih; simp [← ih]

theorem fieldsOf_ne_nil (sep : α) (as : List α) : fieldsOf sep as ≠ [] := by
  cases as with
  | nil => simp [fieldsOf]
  | cons a as => rw [fieldsOf]; split <;> (try split) <;> simp

theorem length_fieldsOf (sep : α) (as : List α) :
    (fieldsOf sep as).length = as.count sep + 1 := by
  induction as with
  | nil => rfl
  | cons a as ih =>
    rw [fieldsOf]
    split
    · next h => simp [ih, h]
    · next h =>
      split
      · next hf => exact absurd hf (fieldsOf_ne_nil sep as)
      · next hf => rw [hf] at ih; simpa [List.count_cons, h] using ih

end CodeTags
