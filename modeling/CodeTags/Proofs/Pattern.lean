import CodeTags.Pattern

/-!
# What a pattern matches

* `takeWhile_append_of_stop`, `dropWhile_append_of_stop`: a run ends where the class does, and so
  it is determined by the text (`append_inj_of_stop`).
* `longestRun?_eq_some`, `longestRun?_isSome`: a run is followed by a text from which the rest was
  read, and it is found if there is one.
* `longestRun?_eq`: it is the whole run if the rest cannot begin earlier and fail at its end.
* `longestRun?_map`: only whether the rest succeeds decides where the run ends.
* `matchHere?_run_run`: a run before one of another class goes as far as its class.
-/

namespace CodeTags

section Stop

variable {α : Type} {p : α → Bool} {as bs : List α}

theorem takeWhile_append_of_stop (has : ∀ a ∈ as, p a = true) (hbs : ∀ b ∈ bs.head?, p b = false) :
    (as ++ bs).takeWhile p = as := by
  rw [List.takeWhile_append_of_pos has]
  cases bs with
  | nil => exact List.append_nil as
  | cons b bs => rw [List.takeWhile_cons_of_neg (by simp [hbs b rfl]), List.append_nil]

theorem dropWhile_append_of_stop (has : ∀ a ∈ as, p a = true) (hbs : ∀ b ∈ bs.head?, p b = false) :
    (as ++ bs).dropWhile p = bs := by
  rw [List.dropWhile_append_of_pos has]
  cases bs with
  | nil => rfl
  | cons b bs => exact List.dropWhile_cons_of_neg (by simp [hbs b rfl])

/-- A text is cut in one way only where a class ends. -/
theorem append_inj_of_stop {as' bs' : List α} (has : ∀ a ∈ as, p a = true)
    (hbs : ∀ b ∈ bs.head?, p b = false) (has' : ∀ a ∈ as', p a = true)
    (hbs' : ∀ b ∈ bs'.head?, p b = false) (h : as ++ bs = as' ++ bs') : as = as' ∧ bs = bs' := by
  have hrun := congrArg (List.takeWhile p) h
  have hrest := congrArg (List.dropWhile p) h
  rw [takeWhile_append_of_stop has hbs, takeWhile_append_of_stop has' hbs'] at hrun
  rw [dropWhile_append_of_stop has hbs, dropWhile_append_of_stop has' hbs'] at hrest
  exact ⟨hrun, hrest⟩

theorem exists_head?_append {P : α → Prop} (hne : as ≠ []) (has : ∀ a ∈ as, P a) (bs : List α) :
    ∃ a ∈ (as ++ bs).head?, P a := by
  obtain ⟨a, as, rfl⟩ := List.exists_cons_of_ne_nil hne
  exact ⟨a, rfl, has a List.mem_cons_self⟩

theorem forall_head?_append {P : α → Prop} (hne : as ≠ []) (has : ∀ a ∈ as, P a) (bs : List α) :
    ∀ a ∈ (as ++ bs).head?, P a := by
  obtain ⟨a, ha, hP⟩ := exists_head?_append hne has bs
  intro b hb
  rwa [← Option.some.inj (ha.symm.trans hb)]

end Stop

variable {α β : Type} {isMember : Char → Bool} {rest : List Char → Option α}

/-- A run consists of characters of its class, and the result is read from what is behind it. -/
theorem longestRun?_eq_some {cs run : List Char} {a : α}
    (h : longestRun? isMember rest cs = some (run, a)) :
    run ≠ [] ∧ (∀ c ∈ run, isMember c = true) ∧
      ∃ behind, cs = run ++ behind ∧ rest behind = some a := by
  induction cs generalizing run with
  | nil => exact absurd h (by simp [longestRun?])
  | cons c cs ih =>
    rw [longestRun?] at h
    split at h
    · next hc =>
      split at h
      · next run' a' hlonger =>
        obtain ⟨rfl, rfl⟩ := Prod.mk.inj (Option.some.inj h)
        obtain ⟨-, hrun, behind, rfl, hrest⟩ := ih hlonger
        exact ⟨List.cons_ne_nil _ _, List.forall_mem_cons.mpr ⟨hc, hrun⟩, behind, rfl, hrest⟩
      · obtain ⟨a', hrest, heq⟩ := Option.map_eq_some_iff.mp h
        obtain ⟨rfl, rfl⟩ := Prod.mk.inj heq
        exact ⟨List.cons_ne_nil _ _, by simp [hc], cs, rfl, hrest⟩
    · exact absurd h (by simp)

/-- A run is found if there is one with the rest behind it. -/
theorem longestRun?_isSome {run behind : List Char} (hne : run ≠ [])
    (hrun : ∀ c ∈ run, isMember c = true) (hrest : (rest behind).isSome = true) :
    (longestRun? isMember rest (run ++ behind)).isSome = true := by
  induction run with
  | nil => exact absurd rfl hne
  | cons c run ih =>
    obtain ⟨hc, hrun⟩ := List.forall_mem_cons.mp hrun
    rw [List.cons_append, longestRun?, if_pos hc]
    split
    · rfl
    · next hnone =>
      cases run with
      | nil => simpa using hrest
      | cons d run =>
        have hlonger := ih (List.cons_ne_nil d run) hrun
        rw [hnone] at hlonger
        exact absurd hlonger (by simp)

/-- If the rest fails in front of a member whenever it fails behind it, the run is the whole run. -/
theorem longestRun?_eq
    (h : ∀ c cs, isMember c = true → rest cs = none → rest (c :: cs) = none) (cs : List Char) :
    longestRun? isMember rest cs =
      if cs.takeWhile isMember = [] then none
      else (rest (cs.dropWhile isMember)).map fun a => (cs.takeWhile isMember, a) := by
  have hfails : ∀ cs, rest (cs.dropWhile isMember) = none → rest cs = none := by
    intro cs hend
    induction cs with
    | nil => exact hend
    | cons c cs ih =>
      by_cases hc : isMember c = true
      · rw [List.dropWhile_cons_of_pos hc] at hend
        exact h c cs hc (ih hend)
      · rwa [List.dropWhile_cons_of_neg hc] at hend
  induction cs with
  | nil => rfl
  | cons c cs ih =>
    rw [longestRun?]
    by_cases hc : isMember c = true
    · rw [if_pos hc, ih, List.takeWhile_cons_of_pos hc, List.dropWhile_cons_of_pos hc,
        if_neg (List.cons_ne_nil _ _)]
      by_cases hnil : cs.takeWhile isMember = []
      · have hcs : cs.dropWhile isMember = cs := by
          conv => rhs; rw [← List.takeWhile_append_dropWhile (p := isMember) (l := cs), hnil]
          rfl
        rw [if_pos hnil, hcs, hnil]
      · rw [if_neg hnil]
        cases hend : rest (cs.dropWhile isMember) with
        | some a => rfl
        | none => rw [hfails cs hend]; rfl
    · rw [if_neg hc, List.takeWhile_cons_of_neg hc, if_pos rfl]

theorem longestRun?_map (f : α → β) (cs : List Char) :
    longestRun? isMember (fun cs => (rest cs).map f) cs =
      (longestRun? isMember rest cs).map fun r => (r.1, f r.2) := by
  induction cs with
  | nil => rfl
  | cons c cs ih =>
    rw [longestRun?, longestRun?, ih]
    split
    · cases longestRun? isMember rest cs with
      | some r => rfl
      | none => cases rest cs <;> rfl
    · rfl

/-- Where two runs of classes without a common character follow each other, the first is the whole
run. -/
theorem matchHere?_run_run {isMember isMember' : Char → Bool}
    (hapart : ∀ c, isMember c = true → isMember' c = false) (ps : List PatternPiece)
    (cs : List Char) :
    matchHere? (.run isMember :: .run isMember' :: ps) cs =
      if cs.takeWhile isMember = [] then none
      else (matchHere? (.run isMember' :: ps) (cs.dropWhile isMember)).map
        (cs.takeWhile isMember :: ·) := by
  have hfails : ∀ c cs, isMember c = true → matchHere? (.run isMember' :: ps) cs = none →
      matchHere? (.run isMember' :: ps) (c :: cs) = none := by
    intro c cs hc _
    rw [matchHere?, longestRun?, if_neg (by simp [hapart c hc])]
    rfl
  rw [matchHere?, longestRun?_eq hfails]
  split
  · rfl
  · rw [Option.map_map]
    rfl

/-! ## Places -/

/-- The match that begins first. -/
theorem findFirst?_cons (ps : List PatternPiece) (c : Char) (cs : List Char) :
    findFirst? ps (c :: cs) = (matchHere? ps (c :: cs)).or (findFirst? ps cs) := by
  rw [findFirst?]
  cases matchHere? ps (c :: cs) <;> rfl

end CodeTags
