import CodeTags.Text.Split
import CodeTags.Text.Trim

/-!
# Lines and fields

What the two ways to cut a list give.

* `lines_induction`: a list is empty, or one unfinished line, or a line with its end and a rest.
* `linesAfter_append`, `linesAfter_flatMap_concat_append`: cutting goes on afresh behind the end of
  a line.
* `length_linesAfter`, `count_flatMap_concat`: how many lines there are.
* `mem_linesAfter`: a line holds the separator at its end or not at all.
* `linesAfter_flatten_of_append`: lines put together and cut again are the same lines.
* `linesBefore_append`, `flatten_linesBefore_append`: the lines that can be read, and what is behind
  them.
* `trimEnd_of_getLast?`, `not_of_mem_getLast?_trimEnd`, `getLast?_trimEnd_eq_some_iff`: what a list
  ends with when it is trimmed.
* `fieldsOf_append_sep`: cutting into fields goes on afresh behind a separator.
* `not_mem_of_mem_fieldsOf`: a field does not hold the separator.
* `fieldsOf_flatMap_concat`: what is written line by line is read field by field.
* `getElem?_fieldsOf_append`: the field in which a part of a list ends.
-/

namespace CodeTags

/-! ## Trimmed ends -/

section Trim

variable {α : Type} {p : α → Bool}

theorem trimEnd_cons (a : α) (xs : List α) :
    trimEnd p (a :: xs) = if trimEnd p xs = [] ∧ p a = true then [] else a :: trimEnd p xs := by
  rw [trimEnd, trimEnd, List.reverse_cons, List.dropWhile_append]
  by_cases hx : xs.reverse.dropWhile p = []
  · cases ha : p a <;> simp [hx, ha]
  · simp [hx]

theorem trimEnd_eq_nil {xs : List α} (h : ∀ a ∈ xs, p a = true) : trimEnd p xs = [] := by
  induction xs with
  | nil => rfl
  | cons a xs ih =>
    have hxs := ih fun b hb => h b (List.mem_cons_of_mem _ hb)
    rw [trimEnd_cons, if_pos ⟨hxs, h a List.mem_cons_self⟩]

theorem trimEnd_append_cons {a : α} (ha : p a = false) (xs ys : List α) :
    trimEnd p (xs ++ a :: ys) = xs ++ a :: trimEnd p ys := by
  induction xs with
  | nil => rw [List.nil_append, List.nil_append, trimEnd_cons, if_neg (by simp [ha])]
  | cons b xs ih => rw [List.cons_append, trimEnd_cons, ih, if_neg (by simp), List.cons_append]

/-- A list that does not end with an element of the class stays as it is. -/
theorem trimEnd_of_getLast? {xs : List α} (h : ∀ a ∈ xs.getLast?, p a = false) :
    trimEnd p xs = xs := by
  rcases List.eq_nil_or_concat xs with rfl | ⟨ys, a, rfl⟩
  · rfl
  · rw [List.concat_eq_append] at h ⊢
    exact trimEnd_concat_of_neg (h a (by simp))

theorem trimEnd_eq_self {xs : List α} (h : ∀ a ∈ xs, p a = false) : trimEnd p xs = xs :=
  trimEnd_of_getLast? fun a ha => h a (List.mem_of_getLast? ha)

/-- Trimming the end keeps a first element that is not in the class. -/
theorem head?_trimEnd {xs : List α} (h : ∀ a ∈ xs.head?, p a = false) :
    (trimEnd p xs).head? = xs.head? := by
  cases xs with
  | nil => rfl
  | cons a xs =>
    have ha : p a = false := h a rfl
    rw [trimEnd_cons, if_neg (by simp [ha])]
    rfl

theorem trimEnd_append_of_forall {ys : List α} (h : ∀ a ∈ ys, p a = true) (xs : List α) :
    trimEnd p (xs ++ ys) = trimEnd p xs := by
  rw [trimEnd, List.reverse_append,
    List.dropWhile_append_of_pos fun a ha => h a (List.mem_reverse.mp ha), trimEnd]

theorem mem_of_mem_trimEnd {a : α} {xs : List α} (h : a ∈ trimEnd p xs) : a ∈ xs := by
  rw [← trimEnd_append_self p xs]
  exact List.mem_append_left _ h

theorem mem_of_mem_trim {a : α} {xs : List α} (h : a ∈ trim p xs) : a ∈ xs :=
  (List.dropWhile_sublist p).subset (mem_of_mem_trimEnd h)

theorem not_of_mem_head?_dropWhile {a : α} {xs : List α} (h : a ∈ (xs.dropWhile p).head?) :
    p a = false := by
  have hnot := List.head?_dropWhile_not p xs
  rw [Option.mem_def.mp h] at hnot
  exact hnot

theorem not_of_mem_getLast?_trimEnd {a : α} {xs : List α} (h : a ∈ (trimEnd p xs).getLast?) :
    p a = false := by
  rw [trimEnd, List.getLast?_reverse] at h
  exact not_of_mem_head?_dropWhile h

/-- The last element that is left is the last one that is not in the class. -/
theorem getLast?_trimEnd_eq_some_iff {a : α} {xs : List α} :
    (trimEnd p xs).getLast? = some a ↔
      p a = false ∧ ∃ front back, xs = front ++ a :: back ∧ ∀ b ∈ back, p b = true := by
  constructor
  · intro h
    obtain ⟨front, hfront⟩ := List.getLast?_eq_some_iff.mp h
    have hxs := trimEnd_append_self p xs
    rw [hfront, List.append_assoc, List.singleton_append] at hxs
    exact ⟨not_of_mem_getLast?_trimEnd h, front, _, hxs.symm, fun b hb =>
      List.all_eq_true.mp List.all_takeWhile b (List.mem_reverse.mp hb)⟩
  · rintro ⟨ha, front, back, rfl, hback⟩
    rw [trimEnd_append_cons ha, trimEnd_eq_nil hback, List.getLast?_concat]

end Trim

variable {α : Type} [DecidableEq α] {sep : α}

/-- Induction over the lines of a list. -/
@[elab_as_elim] theorem lines_induction (sep : α) {motive : List α → Prop} (nil : motive [])
    (last : ∀ as, sep ∉ as → as ≠ [] → motive as)
    (line : ∀ body rest, sep ∉ body → motive rest → motive (body ++ sep :: rest)) :
    ∀ as, motive as := by
  intro as
  induction hn : as.length using Nat.strongRecOn generalizing as with
  | ind n ih =>
    by_cases hmem : sep ∈ as
    · obtain ⟨body, rest, rfl, hbody⟩ := List.eq_append_cons_of_mem hmem
      exact line body rest hbody (ih rest.length (by simp at hn; omega) rest rfl)
    · by_cases hne : as = []
      · rw [hne]; exact nil
      · exact last as hmem hne

/-- What is written in the place of a separator changes no text without one. -/
theorem flatMap_of_not_mem {as : List α} (h : sep ∉ as) (bs : List α) :
    (as.flatMap fun a => if a = sep then bs else [a]) = as := by
  induction as with
  | nil => rfl
  | cons a as ih =>
    have ha : a ≠ sep := fun e => h (e ▸ List.mem_cons_self)
    rw [List.flatMap_cons, if_neg ha, ih fun hmem => h (List.mem_cons_of_mem _ hmem),
      List.singleton_append]

/-! ## Lines that keep their end -/

theorem linesAfter_of_not_mem {as : List α} (h : sep ∉ as) (hne : as ≠ []) :
    linesAfter sep as = [as] := by
  induction as with
  | nil => exact absurd rfl hne
  | cons a as ih =>
    have ha : a ≠ sep := fun e => h (e ▸ List.mem_cons_self)
    have has : sep ∉ as := fun m => h (List.mem_cons_of_mem _ m)
    by_cases hnil : as = []
    · simp [linesAfter, ha, hnil]
    · rw [linesAfter, if_neg ha, ih has hnil]

theorem linesAfter_append_cons {body : List α} (h : sep ∉ body) (rest : List α) :
    linesAfter sep (body ++ sep :: rest) = (body ++ [sep]) :: linesAfter sep rest := by
  induction body with
  | nil => simp [linesAfter]
  | cons a body ih =>
    have ha : a ≠ sep := fun e => h (e ▸ List.mem_cons_self)
    have hbody : sep ∉ body := fun m => h (List.mem_cons_of_mem _ m)
    rw [List.cons_append, linesAfter, if_neg ha, ih hbody, List.cons_append]

theorem linesAfter_append {as : List α} (h : as = [] ∨ as.getLast? = some sep) (bs : List α) :
    linesAfter sep (as ++ bs) = linesAfter sep as ++ linesAfter sep bs := by
  induction as using lines_induction sep with
  | nil => rfl
  | last as hmem hne =>
    rcases h with h | h
    · exact absurd h hne
    · exact absurd (List.mem_of_getLast? h) hmem
  | line body rest hbody ih =>
    have hrest : rest = [] ∨ rest.getLast? = some sep := by
      cases rest with
      | nil => exact .inl rfl
      | cons a rest =>
        rcases h with h | h
        · simp at h
        · exact .inr (by simpa [List.getLast?_append] using h)
    rw [List.append_assoc, List.cons_append, linesAfter_append_cons hbody, ih hrest,
      linesAfter_append_cons hbody, List.cons_append]

/-- Texts without the separator, each written with one behind it, are lines, and what follows is cut
afresh. -/
theorem linesAfter_flatMap_concat_append {ls : List (List α)} (h : ∀ l ∈ ls, sep ∉ l)
    (rest : List α) :
    linesAfter sep (ls.flatMap (· ++ [sep]) ++ rest) =
      ls.map (· ++ [sep]) ++ linesAfter sep rest := by
  induction ls with
  | nil => rfl
  | cons l ls ih =>
    have hl : sep ∉ l := h l List.mem_cons_self
    rw [List.flatMap_cons, List.append_assoc, List.append_assoc, List.singleton_append,
      linesAfter_append_cons hl, ih fun l' m => h l' (List.mem_cons_of_mem _ m), List.map_cons,
      List.cons_append]

/-- Texts without the separator, each written with one behind it, have as many as there are
texts. -/
theorem count_flatMap_concat {ls : List (List α)} (h : ∀ l ∈ ls, sep ∉ l) :
    (ls.flatMap (· ++ [sep])).count sep = ls.length := by
  induction ls with
  | nil => rfl
  | cons l ls ih =>
    have hl : sep ∉ l := h l List.mem_cons_self
    rw [List.flatMap_cons, List.count_append, ih fun l' m => h l' (List.mem_cons_of_mem _ m),
      List.count_append, List.count_eq_zero_of_not_mem hl, List.count_singleton_self,
      List.length_cons]
    omega

/-- There is a line for each separator, and one more if something follows the last. -/
theorem length_linesAfter (as : List α) :
    (linesAfter sep as).length =
      as.count sep + (if as = [] ∨ as.getLast? = some sep then 0 else 1) := by
  induction as using lines_induction sep with
  | nil => rfl
  | last as hmem hne =>
    have hlast : as.getLast? ≠ some sep := fun h => hmem (List.mem_of_getLast? h)
    rw [linesAfter_of_not_mem hmem hne, List.count_eq_zero_of_not_mem hmem]
    simp [hne, hlast]
  | line body rest hbody ih =>
    have hiff : (body ++ sep :: rest = [] ∨ (body ++ sep :: rest).getLast? = some sep) ↔
        (rest = [] ∨ rest.getLast? = some sep) := by
      cases rest <;> simp [List.getLast?_append]
    rw [linesAfter_append_cons hbody, List.length_cons, ih, List.count_append,
      List.count_eq_zero_of_not_mem hbody, List.count_cons_self]
    simp only [hiff]
    omega

/-- A line holds the separator at its end or not at all. -/
theorem mem_linesAfter {as l : List α} (h : l ∈ linesAfter sep as) :
    ∃ body, sep ∉ body ∧ (l = body ++ [sep] ∨ l = body) := by
  induction as using lines_induction sep with
  | nil => simp [linesAfter] at h
  | last as hmem hne =>
    rw [linesAfter_of_not_mem hmem hne, List.mem_singleton] at h
    exact ⟨as, hmem, .inr h⟩
  | line body rest hbody ih =>
    rw [linesAfter_append_cons hbody, List.mem_cons] at h
    rcases h with h | h
    · exact ⟨body, hbody, .inl h⟩
    · exact ih h

/-- The last of some lines, cut again, are the same lines. -/
theorem linesAfter_flatten_of_append {as : List α} {xs ys : List (List α)}
    (h : linesAfter sep as = xs ++ ys) : linesAfter sep ys.flatten = ys := by
  cases xs with
  | nil =>
    rw [List.nil_append] at h
    rw [← h, flatten_linesAfter]
  | cons x xs =>
    induction as using lines_induction sep generalizing x xs with
    | nil => simp [linesAfter] at h
    | last as hmem hne =>
      rw [linesAfter_of_not_mem hmem hne] at h
      have : ys = [] := by simp at h; exact h.2.2
      rw [this]; rfl
    | line body rest hbody ih =>
      rw [linesAfter_append_cons hbody, List.cons_append] at h
      have hrest := (List.cons.inj h).2
      cases xs with
      | nil =>
        rw [List.nil_append] at hrest
        rw [← hrest, flatten_linesAfter]
      | cons y xs => exact ih y xs hrest

/-- Lines before another one are all finished. -/
theorem getLast?_flatten_of_append {as : List α} {xs ys : List (List α)}
    (h : linesAfter sep as = xs ++ ys) (hys : ys ≠ []) :
    xs.flatten = [] ∨ xs.flatten.getLast? = some sep := by
  induction as using lines_induction sep generalizing xs with
  | nil =>
    have : ys = [] := by simp [linesAfter] at h; exact h.2
    exact absurd this hys
  | last as hmem hne =>
    rw [linesAfter_of_not_mem hmem hne] at h
    cases xs with
    | nil => exact .inl rfl
    | cons x xs => simp [hys] at h
  | line body rest hbody ih =>
    cases xs with
    | nil => exact .inl rfl
    | cons x xs =>
      rw [linesAfter_append_cons hbody, List.cons_append] at h
      obtain ⟨rfl, hrest⟩ := List.cons.inj h
      right
      rcases ih hrest with hx | hx <;> simp [List.getLast?_append, List.getLast?_cons, hx]

/-- Without the unfinished line the lines are those of a list that is trimmed to its last end. -/
theorem linesAfter_trimEnd (as : List α) :
    linesAfter sep (trimEnd (· != sep) as) =
      (linesAfter sep as).filter (·.getLast? == some sep) := by
  induction as using lines_induction sep with
  | nil => rfl
  | last as hmem hne =>
    have hall : ∀ a ∈ as, (a != sep) = true := fun a ha =>
      bne_iff_ne.mpr fun e => hmem (e ▸ ha)
    have hlast : as.getLast? ≠ some sep := fun h => hmem (List.mem_of_getLast? h)
    rw [linesAfter_of_not_mem hmem hne, trimEnd_eq_nil hall]
    simp [linesAfter, hlast]
  | line body rest hbody ih =>
    rw [trimEnd_append_cons (by simp), linesAfter_append_cons hbody, linesAfter_append_cons hbody,
      ih]
    simp

/-! ## Lines that can be read -/

theorem linesBefore_eq_linesAfter (stopped : Bool) (as : List α) :
    linesBefore sep stopped as =
      linesAfter sep (if stopped then trimEnd (· != sep) as else as) := by
  cases stopped with
  | false => rfl
  | true => exact (linesAfter_trimEnd as).symm

/-- Nothing but an unfinished line is behind the lines that can be read. -/
theorem flatten_linesBefore_append (sep : α) (stopped : Bool) (as : List α) :
    (linesBefore sep stopped as).flatten ++ as.drop (linesBefore sep stopped as).flatten.length =
      as := by
  rw [linesBefore_eq_linesAfter, flatten_linesAfter]
  cases stopped with
  | false => simp
  | true =>
    have hprefix : trimEnd (· != sep) as <+: as := ⟨_, trimEnd_append_self _ as⟩
    exact List.prefix_iff_eq_append.mp hprefix

theorem mem_linesAfter_of_mem_linesBefore {stopped : Bool} {as l : List α}
    (h : l ∈ linesBefore sep stopped as) : l ∈ linesAfter sep as := by
  cases stopped with
  | false => exact h
  | true => exact (List.mem_filter.mp h).1

/-- Finished lines can be read whatever follows. -/
theorem linesBefore_append {as : List α} (h : as = [] ∨ as.getLast? = some sep) (stopped : Bool)
    (bs : List α) :
    linesBefore sep stopped (as ++ bs) = linesAfter sep as ++ linesBefore sep stopped bs := by
  unfold linesBefore
  rw [linesAfter_append h]
  cases stopped with
  | false => rfl
  | true =>
    have hself : trimEnd (· != sep) as = as :=
      trimEnd_of_getLast? fun a ha => by
        rcases h with rfl | h
        · simp at ha
        · obtain rfl : sep = a := by simpa [h] using ha
          simp
    have hfinished : (linesAfter sep as).filter (·.getLast? == some sep) = linesAfter sep as := by
      rw [← linesAfter_trimEnd, hself]
    simp only [↓reduceIte, List.filter_append, hfinished]

/-! ## Fields without the separator -/

theorem fieldsOf_of_not_mem {as : List α} (h : sep ∉ as) : fieldsOf sep as = [as] := by
  induction as with
  | nil => rfl
  | cons a as ih =>
    have ha : a ≠ sep := fun e => h (e ▸ List.mem_cons_self)
    rw [fieldsOf, if_neg ha, ih fun m => h (List.mem_cons_of_mem _ m)]

theorem fieldsOf_append_cons {body : List α} (h : sep ∉ body) (rest : List α) :
    fieldsOf sep (body ++ sep :: rest) = body :: fieldsOf sep rest := by
  induction body with
  | nil => simp [fieldsOf]
  | cons a body ih =>
    have ha : a ≠ sep := fun e => h (e ▸ List.mem_cons_self)
    have hbody : sep ∉ body := fun m => h (List.mem_cons_of_mem _ m)
    rw [List.cons_append, fieldsOf, if_neg ha, ih hbody]

/-- A separator ends the fields in front of it and begins those behind it. -/
theorem fieldsOf_append_sep (as bs : List α) :
    fieldsOf sep (as ++ sep :: bs) = fieldsOf sep as ++ fieldsOf sep bs := by
  induction as using lines_induction sep with
  | nil => exact fieldsOf_append_cons List.not_mem_nil bs
  | last as hmem _ => rw [fieldsOf_append_cons hmem, fieldsOf_of_not_mem hmem, List.singleton_append]
  | line body rest hbody ih =>
    rw [List.append_assoc, List.cons_append, fieldsOf_append_cons hbody, ih,
      fieldsOf_append_cons hbody, List.cons_append]

theorem not_mem_of_mem_fieldsOf {as f : List α} (h : f ∈ fieldsOf sep as) : sep ∉ f := by
  induction as using lines_induction sep with
  | nil =>
    obtain rfl := List.mem_singleton.mp h
    exact List.not_mem_nil
  | last as hmem hne =>
    rw [fieldsOf_of_not_mem hmem, List.mem_singleton] at h
    rwa [h]
  | line body rest hbody ih =>
    rw [fieldsOf_append_cons hbody, List.mem_cons] at h
    rcases h with rfl | h
    · exact hbody
    · exact ih h

/-- Texts without the separator, each written with one behind it, are the fields of the whole, and
nothing follows the last. -/
theorem fieldsOf_flatMap_concat {ls : List (List α)} (h : ∀ l ∈ ls, sep ∉ l) :
    fieldsOf sep (ls.flatMap (· ++ [sep])) = ls ++ [[]] := by
  induction ls with
  | nil => rfl
  | cons l ls ih =>
    have hl : sep ∉ l := h l List.mem_cons_self
    rw [List.flatMap_cons, List.append_assoc, List.singleton_append, fieldsOf_append_cons hl,
      ih fun l' m => h l' (List.mem_cons_of_mem _ m), List.cons_append]

theorem getElem?_zero_fieldsOf (sep : α) (as : List α) :
    (fieldsOf sep as)[0]? = some (as.takeWhile (· ≠ sep)) := by
  induction as with
  | nil => rfl
  | cons a as ih =>
    rw [fieldsOf]
    by_cases ha : a = sep
    · simp [ha]
    · obtain ⟨f, fs, hfields⟩ := List.exists_cons_of_ne_nil (fieldsOf_ne_nil sep as)
      rw [hfields, List.getElem?_cons_zero, Option.some.injEq] at ih
      simp [ha, hfields, ih]

/-- What stands behind a part of a list goes on in the field that the part ends with, up to the next
separator. -/
theorem getElem?_fieldsOf_append (sep : α) (as bs : List α) :
    ∃ front, (fieldsOf sep (as ++ bs))[as.count sep]? =
      some (front ++ bs.takeWhile (· ≠ sep)) := by
  induction as with
  | nil => exact ⟨[], getElem?_zero_fieldsOf sep bs⟩
  | cons a as ih =>
    obtain ⟨front, ih⟩ := ih
    rw [List.cons_append, fieldsOf]
    by_cases ha : a = sep
    · subst ha
      rw [if_pos rfl, List.count_cons_self, List.getElem?_cons_succ]
      exact ⟨front, ih⟩
    · obtain ⟨f, fs, hfields⟩ := List.exists_cons_of_ne_nil (fieldsOf_ne_nil sep (as ++ bs))
      rw [if_neg ha, List.count_cons_of_ne ha, hfields]
      rw [hfields] at ih
      -- Only the first field has the new element in front.
      cases hcount : as.count sep with
      | zero =>
        rw [hcount, List.getElem?_cons_zero, Option.some.injEq] at ih
        exact ⟨a :: front, by simp [ih]⟩
      | succ n =>
        rw [hcount, List.getElem?_cons_succ] at ih
        exact ⟨front, ih⟩

end CodeTags
