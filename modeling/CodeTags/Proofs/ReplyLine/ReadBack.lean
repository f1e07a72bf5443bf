import CodeTags.Proofs.ReplyLine.FirstReport

/-!
# Reading back what a generator reports

A generator writes a definition as its symbol, its line number, the path and the image, with blanks
between them. The path is anything, also blank or empty, and the image may look like another report.

* `Definition.IsReportable`, `Definition.reportText`: the definitions that a line can report, and
  the line for one of them.
* `Definition.parse?_of_isReport`: a line that is a report as a whole is read as that report.
* `Definition.parse?_reportText`: the line for a definition is read as the definition.
-/

namespace CodeTags

namespace Definition

/-- The symbol is one word, the line number has 64 bits and is not zero, and the image is on one
line with no blanks in front. -/
structure IsReportable (d : Definition) : Prop where
  symbol : IsWord d.symbol
  line : 1 ≤ d.line ∧ d.line < UInt64.size
  image : '\n' ∉ d.image.toList
  unindented : ∀ c ∈ d.image.toList.head?, isBlank c = false

/-- A line number in decimal, with some zeros in front. -/
def lineDigits (zeros line : Nat) : List Char := List.replicate zeros '0' ++ Nat.toDigits 10 line

/-- The line that reports a definition in the file at a path. -/
def reportText (d : Definition) (path : String) (zeros : Nat) (gap gap' gap'' : String) : String :=
  d.symbol ++ gap ++ String.ofList (lineDigits zeros d.line) ++ gap' ++ path ++ gap'' ++ d.image

theorem isDigit_of_mem_lineDigits {zeros line : Nat} {c : Char} (h : c ∈ lineDigits zeros line) :
    c.isDigit = true := by
  rcases List.mem_append.mp h with h | h
  · rw [List.eq_of_mem_replicate h]
    rfl
  · exact Nat.isDigit_of_mem_toDigits (by decide) (by decide) h

theorem isDecimalDigit_lineDigits (zeros line : Nat) :
    lineDigits zeros line ≠ [] ∧ ∀ c ∈ lineDigits zeros line, isDecimalDigit c = true :=
  ⟨by simp [lineDigits, Nat.toDigits_ne_nil],
    fun _ hc => isDecimalDigit_of_isDigit (isDigit_of_mem_lineDigits hc)⟩

/-- Zeros in front do not change a number. -/
theorem ofDigitChars_lineDigits (zeros line : Nat) :
    Nat.ofDigitChars 10 (lineDigits zeros line) 0 = line := by
  rw [lineDigits, Nat.ofDigitChars_append, Nat.ofDigitChars_replicate_zero, Nat.mul_zero,
    Nat.ofDigitChars_ten_toDigits]

variable {d : Definition} {path line : String}

theorem IsReportable.isLineNumber (h : d.IsReportable) (zeros : Nat) :
    IsLineNumber (lineDigits zeros d.line) d.line :=
  ⟨fun _ => isDigit_of_mem_lineDigits, ofDigitChars_lineDigits zeros d.line, h.line⟩

theorem IsReportable.isReport (h : d.IsReportable) (path : String) (zeros : Nat)
    {gap gap' gap'' : String} (hgap : IsGap gap.toList) (hgap' : IsGap gap'.toList)
    (hgap'' : IsGap gap''.toList) :
    IsReport path.toList (d.reportText path zeros gap gap' gap'').toList
      ⟨d.symbol.toList, lineDigits zeros d.line, d.image.toList⟩ where
  symbol := h.symbol
  digits := isDecimalDigit_lineDigits zeros d.line
  image := ⟨h.unindented, h.image⟩
  text := ⟨gap.toList, gap'.toList, gap''.toList, hgap, hgap', hgap'', by
    simp [reportText, List.append_assoc]⟩

/-- No report begins before one that begins the line, so the line is read as that one. -/
theorem parse?_of_isReport {r : Report} (h : IsReport path.toList line.toList r) :
    parse? path line = r.definition? := by
  have hfirst : IsFirstReport path.toList line.toList [] r :=
    ⟨⟨by simp, line.toList, rfl, h⟩, fun _ _ _ => Nat.zero_le _⟩
  rw [parse?_eq_bind_matchReport?, matchReport?_eq_some_iff.mpr ⟨[], hfirst⟩, Option.bind_some]

/-- **Reports are read back.** A definition that a line can report is read from the line that
reports it: for every path, even one that is blank, empty or looks like a part of the line, with any
zeros in front of the number, and whatever blanks separate the parts. -/
theorem parse?_reportText (h : d.IsReportable) (path : String) (zeros : Nat)
    {gap gap' gap'' : String} (hgap : IsGap gap.toList) (hgap' : IsGap gap'.toList)
    (hgap'' : IsGap gap''.toList) :
    parse? path (d.reportText path zeros gap gap' gap'') = some d := by
  have hreport := h.isReport path zeros hgap hgap' hgap''
  rw [parse?_of_isReport hreport]
  exact (definition?_eq_some_iff hreport.digits.1).mpr ⟨rfl, rfl, h.isLineNumber zeros⟩

/-- The path begins with a blank and looks like a number, the image like another report. -/
theorem parse?_reportText_of_likeness :
    let d : Definition := ⟨"x", 7, "8 8 y 9  8 z"⟩
    d.IsReportable ∧ IsGap " ".toList ∧ IsGap "\t ".toList ∧ IsGap "\n".toList ∧
      d.reportText " 8" 2 " " "\t " "\n" = "x 007\t  8\n8 8 y 9  8 z" ∧
      parse? " 8" "x 007\t  8\n8 8 y 9  8 z" = some d := by
  intro d
  have hx : isBlank 'x' = false := by decide
  have h8 : isBlank '8' = false := by decide
  have hspace : isBlank ' ' = true := by decide
  have htab : isBlank '\t' = true := by decide
  have hd : d.IsReportable := by
    refine ⟨?_, by decide, ?_, ?_⟩
    · simp [IsWord, d, hx]
    · simp [d]
    · simp [d, h8]
  have hgap : IsGap " ".toList := by simp [IsGap, hspace]
  have hgap' : IsGap "\t ".toList := by simp [IsGap, hspace, htab]
  have hgap'' : IsGap "\n".toList := by simp [IsGap, isBlank_newline]
  have htext : d.reportText " 8" 2 " " "\t " "\n" = "x 007\t  8\n8 8 y 9  8 z" := by decide +kernel
  exact ⟨hd, hgap, hgap', hgap'', htext, htext ▸ parse?_reportText hd " 8" 2 hgap hgap' hgap''⟩

end Definition

end CodeTags
