import CodeTags.Proofs.ReplyLine
import CodeTags.ReplyLine.Pieces

/-!
# Reports on a path

* `IsWord`, `IsGap`: what makes up a report, and what separates it.
* `IsReport`: a text is a report: a word, digits, the path and the image, with blanks between them.
* `image_unique`: its image does not depend on where the path is found, should there be a choice.
* `reportHere?_eq_some_iff`: the report that is read from a text, if it is one.
-/

namespace CodeTags

/-! ## Reports -/

/-- There is something of the text, and nothing of it is blank. -/
def IsWord (text : String) : Prop :=
  text.toList ≠ [] ∧ ∀ c ∈ text.toList, isBlank c = false

instance (text : String) : Decidable (IsWord text) :=
  decidable_of_iff (text.toList ≠ [] ∧ text.toList.all (!isBlank ·) = true) (by simp [IsWord])

/-- One blank or more. -/
def IsGap (cs : List Char) : Prop := cs ≠ [] ∧ ∀ c ∈ cs, isBlank c = true

instance (cs : List Char) : Decidable (IsGap cs) :=
  decidable_of_iff (cs ≠ [] ∧ cs.all isBlank = true) (by simp [IsGap])

/-- The text is a report on the path. The image begins behind all blanks and holds no line feed. -/
structure IsReport (path cs : List Char) (r : Report) : Prop where
  symbol : r.symbol ≠ [] ∧ ∀ c ∈ r.symbol, isBlank c = false
  digits : r.digits ≠ [] ∧ ∀ c ∈ r.digits, isDecimalDigit c = true
  image : (∀ c ∈ r.image.head?, isBlank c = false) ∧ '\n' ∉ r.image
  text : ∃ gap gap' gap'', IsGap gap ∧ IsGap gap' ∧ IsGap gap'' ∧
    cs = r.symbol ++ (gap ++ (r.digits ++ (gap' ++ (path ++ (gap'' ++ r.image)))))

/-- A text that begins with a blank begins with a gap, and what follows the gap does not. -/
theorem exists_gap {cs : List Char} (h : ∃ c ∈ cs.head?, isBlank c = true) :
    ∃ gap, IsGap gap ∧ cs = gap ++ cs.dropWhile isBlank := by
  obtain ⟨c, hc, hblank⟩ := h
  obtain ⟨cs, rfl⟩ : ∃ ds, cs = c :: ds := List.head?_eq_some_iff.mp hc
  refine ⟨(c :: cs).takeWhile isBlank, ⟨?_, List.all_eq_true.mp List.all_takeWhile⟩,
    List.takeWhile_append_dropWhile.symm⟩
  rw [List.takeWhile_cons_of_pos hblank]
  exact List.cons_ne_nil _ _

theorem not_isDecimalDigit_of_isBlank {c : Char} (h : isBlank c = true) :
    isDecimalDigit c = false := by
  refine Bool.eq_false_iff.mpr fun hdigit => ?_
  rw [isBlank_of_isDecimalDigit hdigit] at h
  exact absurd h (by decide)

theorem not_isBlank_head?_dropWhile (cs : List Char) :
    ∀ c ∈ (cs.dropWhile isBlank).head?, isBlank c = false := by
  intro c hc
  have := List.head?_dropWhile_not isBlank cs
  rw [hc] at this
  exact this

theorem imageOf?_eq_some_iff {cs image : List Char} :
    imageOf? cs = some image ↔ ((∀ c ∈ image.head?, isBlank c = false) ∧ '\n' ∉ image) ∧
      ∃ gap, IsGap gap ∧ cs = gap ++ image := by
  constructor
  · intro h
    simp only [imageOf?, Option.any_eq_true] at h
    split at h
    · next hcs =>
      obtain rfl := Option.some.inj h
      exact ⟨⟨not_isBlank_head?_dropWhile cs, hcs.2⟩, exists_gap hcs.1⟩
    · exact absurd h (by simp)
  · rintro ⟨⟨hhead, hnewline⟩, gap, hgap, rfl⟩
    have himage : (gap ++ image).dropWhile isBlank = image :=
      dropWhile_append_of_stop hgap.2 hhead
    rw [imageOf?, himage]
    exact if_pos ⟨(Option.any_eq_true ..).mpr (exists_head?_append hgap.1 hgap.2 image), hnewline⟩

/-- What is left of the end of a report behind all blanks. -/
theorem dropWhile_blank_end (path : List Char) {gap gap' image : List Char} (hgap : IsGap gap)
    (hgap' : IsGap gap') (himage : ∀ c ∈ image.head?, isBlank c = false) :
    (gap ++ (path ++ (gap' ++ image))).dropWhile isBlank =
      if path.dropWhile isBlank = [] then image
      else path.dropWhile isBlank ++ (gap' ++ image) := by
  rw [List.dropWhile_append_of_pos hgap.2, List.dropWhile_append,
    dropWhile_append_of_stop hgap'.2 himage]
  simp only [List.isEmpty_iff]

/-- A text ends as a report in one way only, also if the path begins with blanks or is all blank. -/
theorem image_unique {path gap gap' image gap₂ gap₂' image₂ : List Char} (hgap : IsGap gap)
    (hgap' : IsGap gap') (himage : ∀ c ∈ image.head?, isBlank c = false) (hgap₂ : IsGap gap₂)
    (hgap₂' : IsGap gap₂') (himage₂ : ∀ c ∈ image₂.head?, isBlank c = false)
    (h : gap ++ (path ++ (gap' ++ image)) = gap₂ ++ (path ++ (gap₂' ++ image₂))) :
    image = image₂ := by
  have hleft := dropWhile_blank_end path hgap hgap' himage
  have hright := dropWhile_blank_end path hgap₂ hgap₂' himage₂
  rw [h, hright] at hleft
  split at hleft
  · exact hleft.symm
  · have hend := List.append_cancel_left hleft
    have := congrArg (List.dropWhile isBlank) hend
    rwa [dropWhile_append_of_stop hgap₂'.2 himage₂, dropWhile_append_of_stop hgap'.2 himage,
      eq_comm] at this

/-- What is found behind the digits is the end of a report. -/
theorem end_of_longestRun? {path cs run image : List Char}
    (h : longestRun? isBlank (fun cs => (dropExact? path cs).bind imageOf?) cs =
      some (run, image)) :
    ((∀ c ∈ image.head?, isBlank c = false) ∧ '\n' ∉ image) ∧
      ∃ gap, IsGap run ∧ IsGap gap ∧ cs = run ++ (path ++ (gap ++ image)) := by
  obtain ⟨hne, hrun, behind, rfl, hbehind⟩ := longestRun?_eq_some h
  obtain ⟨more, hpath, hmore⟩ := Option.bind_eq_some_iff.mp hbehind
  obtain rfl := dropExact?_eq_some_iff.mp hpath
  obtain ⟨himage, gap, hgap, rfl⟩ := imageOf?_eq_some_iff.mp hmore
  exact ⟨himage, gap, ⟨hne, hrun⟩, hgap, rfl⟩

theorem reportAfter?_eq_some_iff {path cs digits image : List Char} :
    reportAfter? path cs = some (digits, image) ↔
      (digits ≠ [] ∧ ∀ c ∈ digits, isDecimalDigit c = true) ∧
      ((∀ c ∈ image.head?, isBlank c = false) ∧ '\n' ∉ image) ∧
      ∃ gap gap' gap'', (∀ c ∈ gap, isBlank c = true) ∧ IsGap gap' ∧ IsGap gap'' ∧
        cs = gap ++ (digits ++ (gap' ++ (path ++ (gap'' ++ image)))) := by
  rw [reportAfter?]
  constructor
  · intro h
    split at h
    · exact absurd h (by simp)
    · next hdigits =>
      obtain ⟨⟨run, image'⟩, hlongest, heq⟩ := Option.map_eq_some_iff.mp h
      obtain ⟨rfl, rfl⟩ := Prod.mk.inj heq
      obtain ⟨himage, gap, hrun, hgap, hafter⟩ := end_of_longestRun? hlongest
      refine ⟨⟨hdigits, List.all_eq_true.mp List.all_takeWhile⟩, himage, cs.takeWhile isBlank, run,
        gap, List.all_eq_true.mp List.all_takeWhile, hrun, hgap, ?_⟩
      rw [← hafter, List.takeWhile_append_dropWhile, List.takeWhile_append_dropWhile]
  · rintro ⟨⟨hne, hdigits⟩, himage, gap, gap', gap'', hgap, hgap', hgap'', rfl⟩
    have hword := forall_head?_append hne (fun c hc => isBlank_of_isDecimalDigit (hdigits c hc))
      (gap' ++ (path ++ (gap'' ++ image)))
    have hstop := forall_head?_append hgap'.1
      (fun c hc => not_isDecimalDigit_of_isBlank (hgap'.2 c hc)) (path ++ (gap'' ++ image))
    rw [dropWhile_append_of_stop hgap hword, takeWhile_append_of_stop hdigits hstop,
      dropWhile_append_of_stop hdigits hstop, if_neg hne]
    -- Some end is found, and no other image is possible.
    have hfound : (longestRun? isBlank (fun cs => (dropExact? path cs).bind imageOf?)
        (gap' ++ (path ++ (gap'' ++ image)))).isSome = true := by
      refine longestRun?_isSome hgap'.1 hgap'.2 ?_
      rw [dropExact?_eq_some_iff.mpr rfl, Option.bind_some,
        imageOf?_eq_some_iff.mpr ⟨himage, gap'', hgap'', rfl⟩]
      rfl
    obtain ⟨⟨run, image'⟩, hlongest⟩ := Option.isSome_iff_exists.mp hfound
    obtain ⟨himage', gap₂, hrun, hgap₂, heq⟩ := end_of_longestRun? hlongest
    rw [hlongest, image_unique hgap' hgap'' himage.1 hrun hgap₂ himage'.1 heq]
    rfl

/-! ## A report at the beginning of a text -/

/-- The report with which a text begins. -/
def reportHere? (path cs : List Char) : Option Report :=
  if cs.takeWhile (!isBlank ·) = [] then none
  else
    (reportAfter? path (cs.dropWhile (!isBlank ·))).map fun r =>
      ⟨cs.takeWhile (!isBlank ·), r.1, r.2⟩

theorem reportHere?_eq_some_iff {path cs : List Char} {r : Report} :
    reportHere? path cs = some r ↔ IsReport path cs r := by
  rw [reportHere?]
  constructor
  · intro h
    split at h
    · exact absurd h (by simp)
    · next hword =>
      obtain ⟨⟨digits, image⟩, hafter, rfl⟩ := Option.map_eq_some_iff.mp h
      obtain ⟨hdigits, himage, gap, gap', gap'', hgap, hgap', hgap'', hbehind⟩ :=
        reportAfter?_eq_some_iff.mp hafter
      -- What is behind a word begins with a blank, and digits do not.
      have hnonempty : gap ≠ [] := by
        rintro rfl
        obtain ⟨c, hc, hdigit⟩ := exists_head?_append hdigits.1 hdigits.2
          (gap' ++ (path ++ (gap'' ++ image)))
        have hblank := List.head?_dropWhile_not (!isBlank ·) cs
        rw [hbehind, List.nil_append, hc] at hblank
        simp [isBlank_of_isDecimalDigit hdigit] at hblank
      refine ⟨⟨hword, fun c hc => ?_⟩, hdigits, himage, gap, gap', gap'', ⟨hnonempty, hgap⟩, hgap',
        hgap'', ?_⟩
      · simpa using List.all_eq_true.mp List.all_takeWhile c hc
      · rw [← hbehind, List.takeWhile_append_dropWhile]
  · rintro ⟨⟨hne, hword⟩, hdigits, himage, gap, gap', gap'', hgap, hgap', hgap'', rfl⟩
    have hmember : ∀ c ∈ r.symbol, (!isBlank c) = true := fun c hc => by rw [hword c hc]; rfl
    have hstop : ∀ c ∈ (gap ++ (r.digits ++ (gap' ++ (path ++ (gap'' ++ r.image))))).head?,
        (!isBlank c) = false :=
      forall_head?_append hgap.1 (fun c hc => by rw [hgap.2 c hc]; rfl) _
    rw [takeWhile_append_of_stop hmember hstop, dropWhile_append_of_stop hmember hstop, if_neg hne,
      reportAfter?_eq_some_iff.mpr
        ⟨hdigits, himage, gap, gap', gap'', hgap.2, hgap', hgap'', rfl⟩]
    rfl

end CodeTags
