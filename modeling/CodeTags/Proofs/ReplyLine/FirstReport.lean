import CodeTags.Proofs.ReplyLine.Report

/-!
# The first report of a line

* `matchHere?_replyPieces`: the pattern matches at a place if a report begins there, and its runs
  are the parts of the report.
* `matchReport?_eq_findReport?`: looking at one word after the other finds the first match of the
  pattern, which could begin anywhere.
* `IsFirstReport`: the first word of a line that a report begins with, and that report.
* `Definition.parse?_first_report`: the definition that a line reports.
-/

namespace CodeTags

/-! ## The pattern at one place -/

/-- The last gap and the image behind the path. -/
def endOf? (path cs : List Char) : Option (List Char × List Char) :=
  (dropExact? path cs).bind fun cs => (imageOf? cs).map fun image => (cs.takeWhile isBlank, image)

theorem matchHere?_lineRest (cs : List Char) :
    matchHere? [.lineRest] cs = if '\n' ∈ cs then none else some [cs] := rfl

theorem matchHere?_blanks_lineRest (cs : List Char) :
    matchHere? [.run isBlank, .lineRest] cs =
      (imageOf? cs).map fun image => [cs.takeWhile isBlank, image] := by
  -- A line feed behind a blank is there also with the blank in front.
  have hfails : ∀ c cs, isBlank c = true → matchHere? [.lineRest] cs = none →
      matchHere? [.lineRest] (c :: cs) = none := by
    intro c cs _ h
    rw [matchHere?_lineRest] at h ⊢
    split at h
    · next hmem => exact if_pos (List.mem_cons_of_mem c hmem)
    · exact absurd h (by simp)
  rw [matchHere?, longestRun?_eq hfails, imageOf?, matchHere?_lineRest]
  cases cs with
  | nil => rfl
  | cons c cs =>
    by_cases hc : isBlank c = true
    · rw [List.takeWhile_cons_of_pos hc, if_neg (List.cons_ne_nil _ _)]
      have hhead : (c :: cs).head?.any isBlank = true := hc
      by_cases hmem : '\n' ∈ (c :: cs).dropWhile isBlank
      · rw [if_pos hmem, if_neg fun h => h.2 hmem]
        rfl
      · rw [if_neg hmem, if_pos ⟨hhead, hmem⟩]
        rfl
    · rw [List.takeWhile_cons_of_neg hc, if_pos rfl]
      simp [hc]

theorem matchHere?_path (path cs : List Char) :
    matchHere? [.exactly path, .run isBlank, .lineRest] cs =
      (endOf? path cs).map fun r => [path, r.1, r.2] := by
  rw [matchHere?, endOf?]
  cases dropExact? path cs with
  | none => rfl
  | some more =>
    rw [Option.bind_some, Option.bind_some, matchHere?_blanks_lineRest]
    cases imageOf? more <;> rfl

/-- Behind the digits the pattern and the search for an image take the same gap. -/
theorem matchHere?_end (path cs : List Char) :
    matchHere? [.run isBlank, .exactly path, .run isBlank, .lineRest] cs =
        (longestRun? isBlank (endOf? path) cs).map (fun r => [r.1, path, r.2.1, r.2.2]) ∧
      longestRun? isBlank (fun cs => (dropExact? path cs).bind imageOf?) cs =
        (longestRun? isBlank (endOf? path) cs).map fun r => (r.1, r.2.2) := by
  have hpieces : matchHere? [.exactly path, .run isBlank, .lineRest] =
      fun cs => (endOf? path cs).map fun r => [path, r.1, r.2] := funext (matchHere?_path path)
  have himage : (fun cs => (dropExact? path cs).bind imageOf?) =
      fun cs => (endOf? path cs).map (·.2) := by
    funext cs
    rw [endOf?]
    cases dropExact? path cs with
    | none => rfl
    | some more => cases h : imageOf? more <;> simp [h]
  rw [matchHere?, hpieces, himage, longestRun?_map, longestRun?_map, Option.map_map]
  exact ⟨rfl, rfl⟩

/-- Where a report begins the pattern matches, and nowhere else. -/
theorem matchHere?_replyPieces (path cs : List Char) :
    (matchHere? (replyPieces path) cs = none ∧ reportHere? path cs = none) ∨
      ∃ r gap gap' gap'', matchHere? (replyPieces path) cs =
          some [r.symbol, gap, r.digits, gap', path, gap'', r.image] ∧
        reportHere? path cs = some r := by
  have hword : ∀ c, (!isBlank c) = true → isBlank c = false := by simp
  rw [replyPieces, matchHere?_run_run hword, reportHere?]
  by_cases hsymbol : cs.takeWhile (!isBlank ·) = []
  · exact .inl ⟨if_pos hsymbol, if_pos hsymbol⟩
  rw [if_neg hsymbol, if_neg hsymbol]
  have hhead := List.head?_dropWhile_not (!isBlank ·) cs
  generalize cs.takeWhile (!isBlank ·) = symbol at *
  generalize cs.dropWhile (!isBlank ·) = cs at *
  rw [matchHere?_run_run fun c hc => not_isDecimalDigit_of_isBlank hc, reportAfter?]
  by_cases hgap : cs.takeWhile isBlank = []
  · have hnil : cs = [] := by
      cases cs with
      | nil => rfl
      | cons c cs =>
        have hc : isBlank c = true := by simpa using hhead
        rw [List.takeWhile_cons_of_pos hc] at hgap
        exact absurd hgap (List.cons_ne_nil _ _)
    rw [if_pos hgap, hnil]
    exact .inl ⟨rfl, rfl⟩
  rw [if_neg hgap]
  generalize cs.takeWhile isBlank = gap at *
  generalize cs.dropWhile isBlank = cs at *
  rw [matchHere?_run_run fun c hc => isBlank_of_isDecimalDigit hc]
  by_cases hdigits : cs.takeWhile isDecimalDigit = []
  · rw [if_pos hdigits, if_pos hdigits]
    exact .inl ⟨rfl, rfl⟩
  rw [if_neg hdigits, if_neg hdigits]
  obtain ⟨hpieces, himage⟩ := matchHere?_end path (cs.dropWhile isDecimalDigit)
  rw [hpieces, himage]
  cases longestRun? isBlank (endOf? path) (cs.dropWhile isDecimalDigit) with
  | none => exact .inl ⟨rfl, rfl⟩
  | some r =>
    exact .inr ⟨⟨symbol, cs.takeWhile isDecimalDigit, r.2.2⟩, gap, r.1, r.2.1, rfl, rfl⟩

/-! ## The first place -/

/-- The first match is at the first place at which a report begins. -/
theorem matchReport?_cons (path : List Char) (c : Char) (cs : List Char) :
    matchReport? path (c :: cs) = (reportHere? path (c :: cs)).or (matchReport? path cs) := by
  rw [matchReport?, findFirst?_cons]
  rcases matchHere?_replyPieces path (c :: cs) with ⟨hmatch, hreport⟩ |
      ⟨r, gap, gap', gap'', hmatch, hreport⟩
  · rw [hmatch, hreport]
    rfl
  · rw [hmatch, hreport]
    rfl

/-- Looking at one word after the other finds the first match. Inside a word none begins if none has
begun in front of it. -/
theorem matchReport?_eq_findReport? (path cs : List Char) (inWord : Bool)
    (h : inWord = true → reportAfter? path (cs.dropWhile (!isBlank ·)) = none) :
    matchReport? path cs = findReport? path inWord cs := by
  induction cs generalizing inWord with
  | nil => rfl
  | cons c cs ih =>
    rw [matchReport?_cons, findReport?, reportHere?]
    by_cases hc : isBlank c = true
    · rw [if_pos hc, List.takeWhile_cons_of_neg (by simp [hc]), if_pos rfl, Option.none_or]
      exact ih false (by simp)
    · have hword : (!isBlank c) = true := by simpa using hc
      have hdrop : (c :: cs).dropWhile (!isBlank ·) = cs.dropWhile (!isBlank ·) :=
        List.dropWhile_cons_of_pos hword
      rw [hdrop] at h ⊢
      rw [if_neg hc, List.takeWhile_cons_of_pos (p := (!isBlank ·)) hword,
        if_neg (List.cons_ne_nil _ _)]
      cases inWord with
      | true =>
        rw [h rfl, if_pos rfl, Option.map_none, Option.none_or]
        exact ih true h
      | false =>
        rw [if_neg (by decide)]
        cases hafter : reportAfter? path (cs.dropWhile (!isBlank ·)) with
        | some r => rfl
        | none => exact ih true fun _ => hafter

theorem matchReport?_eq_some {path cs : List Char} {r : Report}
    (h : matchReport? path cs = some r) :
    ∃ before behind, cs = before ++ behind ∧ reportHere? path behind = some r ∧
      ∀ before' behind', cs = before' ++ behind' → before'.length < before.length →
        reportHere? path behind' = none := by
  induction cs with
  | nil => exact absurd h (by simp [matchReport?, findFirst?, replyPieces, matchHere?, longestRun?])
  | cons c cs ih =>
    rw [matchReport?_cons, Option.or_eq_some_iff] at h
    rcases h with hhere | ⟨hnone, hlater⟩
    · exact ⟨[], c :: cs, rfl, hhere, fun _ _ _ hlt => absurd hlt (Nat.not_lt_zero _)⟩
    · obtain ⟨before, behind, rfl, hhere, hfirst⟩ := ih hlater
      refine ⟨c :: before, behind, rfl, hhere, fun before' behind' heq hlt => ?_⟩
      cases before' with
      | nil => rwa [← List.nil_append behind', ← heq]
      | cons d before' =>
        exact hfirst before' behind' (List.cons.inj heq).2 (Nat.lt_of_succ_lt_succ hlt)

theorem reportHere?_of_matchReport?_eq_none {path cs : List Char}
    (h : matchReport? path cs = none) {before behind : List Char} (hcs : cs = before ++ behind) :
    reportHere? path behind = none := by
  induction cs generalizing before with
  | nil =>
    obtain ⟨-, rfl⟩ := List.append_eq_nil_iff.mp hcs.symm
    rfl
  | cons c cs ih =>
    rw [matchReport?_cons, Option.or_eq_none_iff] at h
    cases before with
    | nil => rw [← List.nil_append behind, ← hcs, h.1]
    | cons d before => exact ih h.2 (List.cons.inj hcs).2

/-- Behind this part of the line a word begins, and with it a report. -/
def IsReportAt (path line before : List Char) (r : Report) : Prop :=
  (∀ c ∈ before.getLast?, isBlank c = true) ∧
    ∃ behind, line = before ++ behind ∧ IsReport path behind r

/-- No word before this one begins a report. -/
def IsFirstReport (path line before : List Char) (r : Report) : Prop :=
  IsReportAt path line before r ∧
    ∀ before' r', IsReportAt path line before' r' → before.length ≤ before'.length

/-- A report stays one if its word goes on in front of it. -/
theorem IsReport.cons {path cs : List Char} {r : Report} (h : IsReport path cs r) {c : Char}
    (hc : isBlank c = false) : IsReport path (c :: cs) { r with symbol := c :: r.symbol } := by
  obtain ⟨hsymbol, hdigits, himage, gap, gap', gap'', hgap, hgap', hgap'', rfl⟩ := h
  exact ⟨⟨List.cons_ne_nil _ _, List.forall_mem_cons.mpr ⟨hc, hsymbol.2⟩⟩, hdigits, himage, gap,
    gap', gap'', hgap, hgap', hgap'', rfl⟩

/-- The first match is the first report, so it begins with a whole word. -/
theorem exists_isFirstReport {path line : List Char} {r : Report}
    (h : matchReport? path line = some r) : ∃ before, IsFirstReport path line before r := by
  obtain ⟨before, behind, rfl, hhere, hfirst⟩ := matchReport?_eq_some h
  have hreport := reportHere?_eq_some_iff.mp hhere
  refine ⟨before, ⟨fun c hc => ?_, behind, rfl, hreport⟩, ?_⟩
  · obtain ⟨front, rfl⟩ := List.getLast?_eq_some_iff.mp hc
    cases hblank : isBlank c with
    | true => rfl
    | false =>
      have hnone := hfirst front (c :: behind) (by simp) (by simp)
      rw [reportHere?_eq_some_iff.mpr (hreport.cons hblank)] at hnone
      exact absurd hnone (by simp)
  · rintro before' r' ⟨-, behind', hline, hreport'⟩
    refine Nat.not_lt.mp fun hlt => ?_
    have hnone := hfirst before' behind' hline hlt
    rw [reportHere?_eq_some_iff.mpr hreport'] at hnone
    exact absurd hnone (by simp)

/-- There is only one first report, and it is the first match. -/
theorem matchReport?_eq_some_iff {path line : List Char} {r : Report} :
    matchReport? path line = some r ↔ ∃ before, IsFirstReport path line before r := by
  refine ⟨exists_isFirstReport, ?_⟩
  rintro ⟨before, hat, hfirst⟩
  obtain ⟨-, behind, hline, hreport⟩ := id hat
  cases hmatch : matchReport? path line with
  | none =>
    have hnone := reportHere?_of_matchReport?_eq_none hmatch hline
    rw [reportHere?_eq_some_iff.mpr hreport] at hnone
    exact absurd hnone (by simp)
  | some r' =>
    obtain ⟨before', hat', hfirst'⟩ := exists_isFirstReport hmatch
    have hlength := Nat.le_antisymm (hfirst before' r' hat') (hfirst' before r hat)
    obtain ⟨-, behind', hline', hreport'⟩ := hat'
    obtain ⟨-, rfl⟩ := List.append_inj (hline.symm.trans hline') hlength
    exact (reportHere?_eq_some_iff.mpr hreport').symm.trans (reportHere?_eq_some_iff.mpr hreport)

/-! ## Definitions -/

/-- The digits 0 to 9 that write a line number, which is at least 1 and has 64 bits. -/
def IsLineNumber (digits : List Char) (n : Nat) : Prop :=
  (∀ c ∈ digits, c.isDigit = true) ∧ Nat.ofDigitChars 10 digits 0 = n ∧ 1 ≤ n ∧ n < UInt64.size

theorem lineNumber?_eq_some_iff {digits : List Char} (hne : digits ≠ []) {n : Nat} :
    lineNumber? digits = some n ↔ IsLineNumber digits n := by
  rw [lineNumber?, Option.filter_eq_some_iff, decimalValue?, IsLineNumber, ← lineBound,
    ← List.all_eq_true, Bool.and_eq_true, decide_eq_true_eq, decide_eq_true_eq]
  split
  · next h => rw [Option.some.injEq, and_iff_right h.2, Nat.succ_le_iff]
  · next h => exact iff_of_false (by simp) fun hn => h ⟨hne, hn.1⟩

theorem definition?_eq_some_iff {r : Report} (hne : r.digits ≠ []) {d : Definition} :
    r.definition? = some d ↔
      r.symbol = d.symbol.toList ∧ r.image = d.image.toList ∧ IsLineNumber r.digits d.line := by
  rw [Report.definition?, Option.map_eq_some_iff]
  constructor
  · rintro ⟨n, hn, rfl⟩
    exact ⟨String.toList_ofList.symm, String.toList_ofList.symm,
      (lineNumber?_eq_some_iff hne).mp hn⟩
  · rintro ⟨hsymbol, himage, hn⟩
    refine ⟨d.line, (lineNumber?_eq_some_iff hne).mpr hn, ?_⟩
    rw [hsymbol, himage, String.ofList_toList, String.ofList_toList]

/-- The definition of a line is that of the first match. -/
theorem Definition.parse?_eq_bind_matchReport? (path line : String) :
    parse? path line = (matchReport? path.toList line.toList).bind (·.definition?) := by
  rw [parse?, matchReport?_eq_findReport? path.toList line.toList false (by simp)]

/-- **What a line reports.** The first match of the pattern is taken, which is the first report of
the line. The line reports its definition if its digits write a line number, and nothing otherwise;
no later report is looked at. -/
theorem Definition.parse?_first_report (path line : String) :
    parse? path line = (matchReport? path.toList line.toList).bind (·.definition?) ∧
    (∀ d, parse? path line = some d ↔ ∃ before digits,
      IsFirstReport path.toList line.toList before ⟨d.symbol.toList, digits, d.image.toList⟩ ∧
        IsLineNumber digits d.line) ∧
    (parse? path line = none ↔ ∀ before r, IsFirstReport path.toList line.toList before r →
      ∀ n, ¬IsLineNumber r.digits n) := by
  have hparse : parse? path line = (matchReport? path.toList line.toList).bind (·.definition?) := by
    rw [parse?, matchReport?_eq_findReport? path.toList line.toList false (by simp)]
  have hdigits : ∀ {before r}, IsFirstReport path.toList line.toList before r → r.digits ≠ [] := by
    rintro before r ⟨⟨-, behind, -, hreport⟩, -⟩
    exact hreport.digits.1
  have hsome : ∀ d, parse? path line = some d ↔ ∃ before digits,
      IsFirstReport path.toList line.toList before ⟨d.symbol.toList, digits, d.image.toList⟩ ∧
        IsLineNumber digits d.line := by
    intro d
    rw [hparse, Option.bind_eq_some_iff]
    constructor
    · rintro ⟨⟨symbol, digits, image⟩, hmatch, hd⟩
      obtain ⟨before, hfirst⟩ := matchReport?_eq_some_iff.mp hmatch
      obtain ⟨rfl, rfl, hnumber⟩ := (definition?_eq_some_iff (hdigits hfirst)).mp hd
      exact ⟨before, digits, hfirst, hnumber⟩
    · rintro ⟨before, digits, hfirst, hnumber⟩
      exact ⟨_, matchReport?_eq_some_iff.mpr ⟨before, hfirst⟩,
        (definition?_eq_some_iff (hdigits hfirst)).mpr ⟨rfl, rfl, hnumber⟩⟩
  refine ⟨hparse, hsome, ?_⟩
  rw [Option.eq_none_iff_forall_ne_some]
  constructor
  · intro hnone before r hfirst n hnumber
    refine hnone ⟨String.ofList r.symbol, n, String.ofList r.image⟩ ((hsome _).mpr ?_)
    rw [String.toList_ofList, String.toList_ofList]
    exact ⟨before, r.digits, hfirst, hnumber⟩
  · intro hnone d hd
    obtain ⟨before, digits, hfirst, hnumber⟩ := (hsome d).mp hd
    exact hnone before _ hfirst d.line hnumber

/-- The second report would have a number. -/
example : Definition.parse? "a" "x 0 a y 1 a z" = none := by decide +kernel

end CodeTags
