import CodeTags.Generator
import CodeTags.Proofs.ReplyLine.ReadBack

/-!
# Reports on other paths

A report can begin with any word of a line. So a line that reports a definition in one file may hold
a report on another one as well: its image is a line of a source, where anything can be written.

* `HoldsWord`: a word stands in a text with a blank behind it.
* `findReport?_of_word`: a report begins with the first word of a line or behind it.
* `holdsWord_of_findReport?`: a report on a path holds the path as a word, and not as the first one.
* `Definition.parse?_of_other_path`: the symbol of a report on another path is never recorded, and
  the line says nothing if its image does not hold the path.
-/

namespace CodeTags

/-! ## Words of a text -/

/-- The word stands in the text with a blank behind it, and with a blank or nothing in front. -/
def HoldsWord (word cs : List Char) : Prop :=
  ∃ before gap behind, (∀ c ∈ before.getLast?, isBlank c = true) ∧ IsGap gap ∧
    cs = before ++ (word ++ (gap ++ behind))

/-- The first word of a text is determined by it. -/
theorem word_unique {word word' gap gap' cs cs' : List Char}
    (hword : ∀ c ∈ word, isBlank c = false) (hgap : IsGap gap)
    (hword' : ∀ c ∈ word', isBlank c = false) (hgap' : IsGap gap')
    (h : word ++ (gap ++ cs) = word' ++ (gap' ++ cs')) : word = word' :=
  (append_inj_of_stop (p := (!isBlank ·)) (fun c hc => by rw [hword c hc]; rfl)
    (forall_head?_append hgap.1 (fun c hc => by rw [hgap.2 c hc]; rfl) cs)
    (fun c hc => by rw [hword' c hc]; rfl)
    (forall_head?_append hgap'.1 (fun c hc => by rw [hgap'.2 c hc]; rfl) cs') h).1

section HoldsWord

variable {word w gap cs : List Char}

/-- A blank follows the word, so the text does not end with it. -/
theorem HoldsWord.isInfix_dropLast (h : HoldsWord word cs) : word <:+: cs.dropLast := by
  obtain ⟨before, gap, behind, -, ⟨hne, -⟩, rfl⟩ := h
  have hbehind : gap ++ behind ≠ [] := by simp [hne]
  rw [← List.append_assoc, List.dropLast_append_of_ne_nil hbehind]
  exact ⟨before, (gap ++ behind).dropLast, rfl⟩

theorem forall_getLast?_of_append {P : Char → Prop} {as bs : List Char}
    (h : ∀ c ∈ (as ++ bs).getLast?, P c) : ∀ c ∈ bs.getLast?, P c := by
  intro c hc
  refine h c ?_
  rw [List.getLast?_append, Option.mem_def.mp hc]
  rfl

theorem holdsWord_of_gap {gap' : List Char} (hgap : IsGap gap) (hgap' : IsGap gap')
    (before behind : List Char) : HoldsWord word (before ++ (gap ++ (word ++ (gap' ++ behind)))) := by
  refine ⟨before ++ gap, gap', behind, fun c hc => ?_, hgap', by simp⟩
  obtain ⟨front, d, rfl⟩ := (List.eq_nil_or_concat gap).resolve_left hgap.1
  obtain rfl : d = c := by simpa [List.getLast?_append] using hc
  exact hgap.2 d (by simp)

/-- Blanks in front of a text belong to none of its words. -/
theorem HoldsWord.of_gap_append (h : HoldsWord word (gap ++ cs))
    (hword : word ≠ [] ∧ ∀ c ∈ word, isBlank c = false) (hgap : ∀ c ∈ gap, isBlank c = true) :
    HoldsWord word cs := by
  obtain ⟨before, gap', behind, hlast, hgap', heq⟩ := h
  rcases List.append_eq_append_iff.mp heq with ⟨more, rfl, hcs⟩ | ⟨more, rfl, hcs⟩
  · exact ⟨more, gap', behind, forall_getLast?_of_append hlast, hgap', hcs⟩
  · cases more with
    | nil => exact ⟨[], gap', behind, by simp, hgap', hcs.symm⟩
    | cons d more =>
      obtain ⟨c, word, rfl⟩ := List.exists_cons_of_ne_nil hword.1
      obtain rfl : c = d := (List.cons.inj hcs).1
      have hblank := hword.2 c List.mem_cons_self
      rw [hgap c (by simp)] at hblank
      exact absurd hblank (by decide)

/-- A word of a text is its first one or stands behind it. -/
theorem HoldsWord.of_word_append (h : HoldsWord word (w ++ (gap ++ cs)))
    (hword : ∀ c ∈ word, isBlank c = false) (hw : ∀ c ∈ w, isBlank c = false)
    (hgap : IsGap gap) : word = w ∨ HoldsWord word (gap ++ cs) := by
  obtain ⟨before, gap', behind, hlast, hgap', heq⟩ := h
  rcases List.append_eq_append_iff.mp heq with ⟨more, rfl, hcs⟩ | ⟨more, rfl, hcs⟩
  · exact .inr ⟨more, gap', behind, forall_getLast?_of_append hlast, hgap', hcs⟩
  · rcases List.eq_nil_or_concat before with rfl | ⟨front, d, rfl⟩
    · exact .inl (word_unique hword hgap' hw hgap hcs)
    · -- The blank in front of the word would be in the first one.
      have hblank : isBlank d = true := hlast d (by simp)
      rw [hw d (by simp)] at hblank
      exact absurd hblank (by decide)

end HoldsWord

/-! ## Where a report is found -/

section Report

variable {path w gap cs : List Char}

theorem findReport?_gap_append (hgap : IsGap gap) (inWord : Bool) (cs : List Char) :
    findReport? path inWord (gap ++ cs) = findReport? path false cs := by
  obtain ⟨hne, hblank⟩ := hgap
  induction gap generalizing inWord with
  | nil => exact absurd rfl hne
  | cons c gap ih =>
    obtain ⟨hc, hblank⟩ := List.forall_mem_cons.mp hblank
    rw [List.cons_append, findReport?, if_pos hc]
    by_cases hnil : gap = []
    · rw [hnil, List.nil_append]
    · exact ih false hnil hblank

theorem findReport?_word_append (hw : ∀ c ∈ w, isBlank c = false) (cs : List Char) :
    findReport? path true (w ++ cs) = findReport? path true cs := by
  induction w with
  | nil => rfl
  | cons c w ih =>
    obtain ⟨hc, hw⟩ := List.forall_mem_cons.mp hw
    rw [List.cons_append, findReport?, if_neg (by simp [hc]), if_pos rfl, ih hw]

/-- The first word of a line is the symbol of a report if a number, the path and an image follow it.
If they do not, the report is looked for behind the word. -/
theorem findReport?_of_word (hw : w ≠ [] ∧ ∀ c ∈ w, isBlank c = false) (hgap : IsGap gap)
    (cs : List Char) :
    findReport? path false (w ++ (gap ++ cs)) =
      ((reportAfter? path (gap ++ cs)).map fun r => ⟨w, r.1, r.2⟩).or
        (findReport? path false cs) := by
  obtain ⟨c, w, rfl⟩ := List.exists_cons_of_ne_nil hw.1
  obtain ⟨hc, hw⟩ := List.forall_mem_cons.mp hw.2
  have hmember : ∀ d ∈ w, (!isBlank d) = true := fun d hd => by rw [hw d hd]; rfl
  have hstop : ∀ d ∈ (gap ++ cs).head?, (!isBlank d) = false :=
    forall_head?_append hgap.1 (fun d hd => by rw [hgap.2 d hd]; rfl) cs
  rw [List.cons_append, findReport?, if_neg (by simp [hc]), if_neg (by decide),
    dropWhile_append_of_stop hmember hstop, takeWhile_append_of_stop hmember hstop,
    findReport?_word_append hw, findReport?_gap_append hgap]
  cases reportAfter? path (gap ++ cs) <;> rfl

theorem holdsWord_of_reportAfter? {r : List Char × List Char}
    (h : reportAfter? path cs = some r) : HoldsWord path cs := by
  obtain ⟨-, -, gap, gap', gap'', -, hgap', hgap'', rfl⟩ := reportAfter?_eq_some_iff.mp h
  have hholds : HoldsWord path ((gap ++ r.1) ++ (gap' ++ (path ++ (gap'' ++ r.2)))) :=
    holdsWord_of_gap hgap' hgap'' _ _
  simpa using hholds

theorem holdsWord_of_findReport? {r : Report} (h : findReport? path false cs = some r) :
    HoldsWord path cs := by
  rw [← matchReport?_eq_findReport? path cs false (by simp)] at h
  obtain ⟨before, behind, rfl, hhere, -⟩ := matchReport?_eq_some h
  obtain ⟨-, -, -, gap, gap', gap'', -, hgap', hgap'', rfl⟩ := reportHere?_eq_some_iff.mp hhere
  have hholds : HoldsWord path
      ((before ++ r.symbol ++ gap ++ r.digits) ++ (gap' ++ (path ++ (gap'' ++ r.image)))) :=
    holdsWord_of_gap hgap' hgap'' _ _
  simpa using hholds

/-- The first word of a line is not the path of a report. -/
theorem holdsWord_of_findReport?_of_word {r : Report}
    (hpath : path ≠ [] ∧ ∀ c ∈ path, isBlank c = false)
    (hw : w ≠ [] ∧ ∀ c ∈ w, isBlank c = false) (hgap : IsGap gap)
    (h : findReport? path false (w ++ (gap ++ cs)) = some r) : HoldsWord path cs := by
  rw [findReport?_of_word hw hgap, Option.or_eq_some_iff] at h
  rcases h with hfirst | ⟨-, hlater⟩
  · obtain ⟨r', hafter, -⟩ := Option.map_eq_some_iff.mp hfirst
    exact (holdsWord_of_reportAfter? hafter).of_gap_append hpath hgap.2
  · exact holdsWord_of_findReport? hlater

/-- A number and another path do not make a word in front of them the symbol of a report. -/
theorem reportAfter?_of_other {digits gap' other gap'' : List Char}
    (hgap : IsGap gap) (hdigits : digits ≠ [] ∧ ∀ c ∈ digits, isDecimalDigit c = true)
    (hgap' : IsGap gap') (hother : other ≠ [] ∧ ∀ c ∈ other, isBlank c = false)
    (hgap'' : IsGap gap'') (hpath : path ≠ [] ∧ ∀ c ∈ path, isBlank c = false)
    (hne : path ≠ other) (image : List Char) :
    reportAfter? path (gap ++ (digits ++ (gap' ++ (other ++ (gap'' ++ image))))) = none := by
  refine Option.eq_none_iff_forall_ne_some.mpr fun r h => ?_
  obtain ⟨hdigits₂, -, gap₂, gap₂', gap₂'', hblank₂, hgap₂', hgap₂'', heq⟩ :=
    reportAfter?_eq_some_iff.mp h
  -- Blanks, digits and blanks are the same in both texts, and so are the words behind them.
  obtain ⟨-, hnumber⟩ := append_inj_of_stop hgap.2
    (forall_head?_append hdigits.1 (fun c hc => isBlank_of_isDecimalDigit (hdigits.2 c hc)) _)
    hblank₂ (forall_head?_append hdigits₂.1
      (fun c hc => isBlank_of_isDecimalDigit (hdigits₂.2 c hc)) _) heq
  obtain ⟨-, hrest⟩ := append_inj_of_stop hdigits.2
    (forall_head?_append hgap'.1 (fun c hc => not_isDecimalDigit_of_isBlank (hgap'.2 c hc)) _)
    hdigits₂.2 (forall_head?_append hgap₂'.1
      (fun c hc => not_isDecimalDigit_of_isBlank (hgap₂'.2 c hc)) _) hnumber
  obtain ⟨-, hword⟩ := append_inj_of_stop hgap'.2 (forall_head?_append hother.1 hother.2 _)
    hgap₂'.2 (forall_head?_append hpath.1 hpath.2 _) hrest
  exact hne (word_unique hpath.2 hgap₂'' hother.2 hgap'' hword.symm)

end Report

/-! ## Definitions -/

namespace Definition

/-- The report without its symbol. -/
def reportTail (d : Definition) (path : String) (zeros : Nat) (gap' gap'' : String) : String :=
  String.ofList (lineDigits zeros d.line) ++ gap' ++ path ++ gap'' ++ d.image

/-- **Reports on other paths.** When a line that reports a definition in one file is read for
another file, its symbol counts for nothing: the line says what is left of it behind the symbol
says. Nothing at all is recorded if the image does not hold the path as a word with a blank behind
it. The line number and the image can be any. -/
theorem parse?_of_other_path {d : Definition} {path other : String} (hsymbol : IsWord d.symbol)
    (hpath : IsWord path) (hother : IsWord other) (hne : path ≠ other) (zeros : Nat)
    {gap gap' gap'' : String} (hgap : IsGap gap.toList) (hgap' : IsGap gap'.toList)
    (hgap'' : IsGap gap''.toList) :
    parse? path (d.reportText other zeros gap gap' gap'') =
        parse? path (d.reportTail other zeros gap' gap'') ∧
      (¬HoldsWord path.toList d.image.toList →
        parse? path (d.reportText other zeros gap gap' gap'') = none ∧
        ∀ (tags : TagSet) (line : List UInt8), tags.path = path →
          replyText line = d.reportText other zeros gap gap' gap'' →
          tags.insertReply line = tags) := by
  have hdigits := isDecimalDigit_lineDigits zeros d.line
  have hne' : path.toList ≠ other.toList := mt String.toList_inj.mp hne
  have htext : (d.reportText other zeros gap gap' gap'').toList =
      d.symbol.toList ++ (gap.toList ++ (lineDigits zeros d.line ++ (gap'.toList ++
        (other.toList ++ (gap''.toList ++ d.image.toList))))) := by
    simp [reportText, List.append_assoc]
  have htail : (d.reportTail other zeros gap' gap'').toList =
      lineDigits zeros d.line ++ (gap'.toList ++
        (other.toList ++ (gap''.toList ++ d.image.toList))) := by
    simp [reportTail, List.append_assoc]
  have hskip : parse? path (d.reportText other zeros gap gap' gap'') =
      parse? path (d.reportTail other zeros gap' gap'') := by
    rw [parse?, parse?, htext, htail, findReport?_of_word hsymbol hgap,
      reportAfter?_of_other hgap hdigits hgap' hother hgap'' hpath hne', Option.map_none,
      Option.none_or]
  refine ⟨hskip, fun himage => ?_⟩
  have hnone : parse? path (d.reportText other zeros gap gap' gap'') = none := by
    rw [hskip, parse?, htail]
    cases hfound : findReport? path.toList false (lineDigits zeros d.line ++ (gap'.toList ++
        (other.toList ++ (gap''.toList ++ d.image.toList)))) with
    | none => rfl
    | some r =>
      have hnumber := And.intro hdigits.1 fun c hc => isBlank_of_isDecimalDigit (hdigits.2 c hc)
      have hholds := holdsWord_of_findReport?_of_word hpath hnumber hgap' hfound
      rcases hholds.of_word_append hpath.2 hother.2 hgap'' with heq | hlater
      · exact absurd heq hne'
      · exact absurd (hlater.of_gap_append hpath hgap''.2) himage
  refine ⟨hnone, fun tags line htags hline => ?_⟩
  rw [TagSet.insertReply, htags, hline, hnone]

/-- The image ends with the path, so no blank is behind it. -/
theorem parse?_of_other_path_of_last_word :
    let d : Definition := ⟨"x", 1, "int x; // src/x.c"⟩
    IsWord d.symbol ∧ IsWord "src/x.c" ∧ IsWord "src/y.c" ∧ "src/x.c" ≠ "src/y.c" ∧
      IsGap " ".toList ∧ ¬HoldsWord "src/x.c".toList d.image.toList ∧
      d.reportText "src/y.c" 0 " " " " " " = "x 1 src/y.c int x; // src/x.c" ∧
      parse? "src/x.c" "x 1 src/y.c int x; // src/x.c" = none := by
  intro d
  have hsymbol : IsWord d.symbol := by decide +kernel
  have hpath : IsWord "src/x.c" := by decide +kernel
  have hother : IsWord "src/y.c" := by decide +kernel
  have hgap : IsGap " ".toList := by decide +kernel
  have himage : ¬HoldsWord "src/x.c".toList d.image.toList := fun h =>
    absurd h.isInfix_dropLast (by decide +kernel)
  have htext : d.reportText "src/y.c" 0 " " " " " " = "x 1 src/y.c int x; // src/x.c" := by
    decide +kernel
  refine ⟨hsymbol, hpath, hother, by decide, hgap, himage, htext, ?_⟩
  exact htext ▸
    ((parse?_of_other_path hsymbol hpath hother (by decide) 0 hgap hgap hgap).2 himage).1

/-- A line reports a definition in one file, and its image holds a report on another. -/
theorem parse?_of_other_path_in_image :
    let d : Definition := ⟨"x", 1, "int x; // see main 12 src/x.c too"⟩
    d.IsReportable ∧ IsWord "src/x.c" ∧ IsWord "src/y.c" ∧ "src/x.c" ≠ "src/y.c" ∧
      IsGap " ".toList ∧ HoldsWord "src/x.c".toList d.image.toList ∧
      d.reportText "src/y.c" 0 " " " " " " =
        "x 1 src/y.c int x; // see main 12 src/x.c too" ∧
      parse? "src/x.c" "x 1 src/y.c int x; // see main 12 src/x.c too" =
        some ⟨"main", 12, "too"⟩ := by
  intro d
  have hd : d.IsReportable := ⟨by decide +kernel, by decide, by decide +kernel, by simp [d]; decide⟩
  have himage : HoldsWord "src/x.c".toList d.image.toList :=
    ⟨"int x; // see main 12 ".toList, " ".toList, "too".toList, by simp; decide,
      by decide +kernel, by decide +kernel⟩
  exact ⟨hd, by decide +kernel, by decide +kernel, by decide, by decide +kernel, himage,
    by decide +kernel, by decide +kernel⟩

end Definition

end CodeTags
