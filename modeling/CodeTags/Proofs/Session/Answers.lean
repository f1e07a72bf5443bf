import CodeTags.Proofs.Exchange

/-!
# Answers in the output of the tag generator

The output is cut into answers behind each terminator line. An answer is read as far as its
terminator, whatever is behind it.

* `cutAnswers`, `answersIn`: the answers in some lines or bytes.
* `cutAnswers_spec`: cutting loses nothing. `answersIn_cases`: one answer, and those behind it.
* `definitionsIn`, `answerTags`: the tags that the lines of an answer report about a path.
* `linesBefore_of_isPrefix`: a part of the output that holds an answer begins with its lines.
* `readAnswer_append_cons`, `readAnswer_of_none`: reading takes the first answer, or finds none.
-/

namespace CodeTags

/-! ## Cutting -/

/-- Cuts lines behind each one that ends an answer: the answers, and the lines behind the last. -/
def cutAnswers : List (List UInt8) → List (List (List UInt8)) × List (List UInt8)
  | [] => ([], [])
  | line :: lines =>
    if isTerminator line then ([line] :: (cutAnswers lines).1, (cutAnswers lines).2)
    else
      match (cutAnswers lines).1 with
      | [] => ([], line :: (cutAnswers lines).2)
      | answer :: answers => ((line :: answer) :: answers, (cutAnswers lines).2)

/-- The answers in some bytes, each as its lines with the terminator line at the end. -/
def answersIn (bytes : List UInt8) : List (List (List UInt8)) :=
  (cutAnswers (linesAfter lineFeed bytes)).1

/-- The definitions that lines report about a path. Lines that report none are passed over, and so
are terminator lines. -/
def definitionsIn (path : String) (lines : List (List UInt8)) : List Definition :=
  (lines.filter (!isTerminator ·)).filterMap fun line => Definition.parse? path (replyText line)

/-- The definitions of an answer recorded in order. -/
def answerTags (path : String) (answer : List (List UInt8)) : TagSet :=
  (definitionsIn path answer).foldl TagSet.insertDefinition (.empty path)

theorem cutAnswers_append_cons {body : List (List UInt8)} {last : List UInt8}
    (hbody : ∀ line ∈ body, isTerminator line = false) (hlast : isTerminator last = true)
    (rest : List (List UInt8)) :
    cutAnswers (body ++ last :: rest) =
      ((body ++ [last]) :: (cutAnswers rest).1, (cutAnswers rest).2) := by
  induction body with
  | nil => simp [cutAnswers, hlast]
  | cons line body ih =>
    have hline := hbody line List.mem_cons_self
    rw [List.cons_append, cutAnswers, ih fun l hl => hbody l (List.mem_cons_of_mem _ hl)]
    simp [hline]

theorem cutAnswers_of_none {lines : List (List UInt8)}
    (h : ∀ line ∈ lines, isTerminator line = false) : cutAnswers lines = ([], lines) := by
  induction lines with
  | nil => rfl
  | cons line lines ih =>
    rw [cutAnswers, ih fun l hl => h l (List.mem_cons_of_mem _ hl)]
    simp [h line List.mem_cons_self]

/-- Lines hold no complete answer, or begin with one. -/
theorem exists_answer (lines : List (List UInt8)) :
    (∀ line ∈ lines, isTerminator line = false) ∨
      ∃ body last rest, lines = body ++ last :: rest ∧
        (∀ line ∈ body, isTerminator line = false) ∧ isTerminator last = true := by
  induction lines with
  | nil => exact .inl fun _ h => absurd h List.not_mem_nil
  | cons line lines ih =>
    cases hline : isTerminator line with
    | true => exact .inr ⟨[], line, lines, rfl, fun _ h => absurd h List.not_mem_nil, hline⟩
    | false =>
      rcases ih with ih | ⟨body, last, rest, rfl, hbody, hlast⟩
      · exact .inl fun l hl => (List.mem_cons.mp hl).elim (· ▸ hline) (ih l)
      · exact .inr ⟨line :: body, last, rest, rfl,
          fun l hl => (List.mem_cons.mp hl).elim (· ▸ hline) (hbody l), hlast⟩

/-- Bytes hold no complete answer, or begin with one and go on with the others. -/
theorem answersIn_cases (stream : List UInt8) :
    answersIn stream = [] ∧ (∀ line ∈ linesAfter lineFeed stream, isTerminator line = false) ∨
      ∃ body last later, stream = (body ++ [last]).flatten ++ later ∧
        linesAfter lineFeed stream = (body ++ [last]) ++ linesAfter lineFeed later ∧
        (∀ line ∈ body, isTerminator line = false) ∧ isTerminator last = true ∧
        answersIn stream = (body ++ [last]) :: answersIn later := by
  rcases exists_answer (linesAfter lineFeed stream) with
    h | ⟨body, last, rest, hlines, hbody, hlast⟩
  · exact .inl ⟨by rw [answersIn, cutAnswers_of_none h], h⟩
  · have happ : linesAfter lineFeed stream = (body ++ [last]) ++ rest := by simp [hlines]
    have hrest : linesAfter lineFeed rest.flatten = rest := linesAfter_flatten_of_append happ
    refine .inr ⟨body, last, rest.flatten, ?_, by rw [happ, hrest], hbody, hlast, ?_⟩
    · rw [← List.flatten_append, ← happ, flatten_linesAfter]
    · rw [answersIn, hlines, cutAnswers_append_cons hbody hlast, answersIn, hrest]

/-- Cutting loses no line; an answer has one terminator line, at its end, and none is left over. -/
theorem cutAnswers_spec (stream : List UInt8) :
    ∃ rest, linesAfter lineFeed stream = (answersIn stream).flatten ++ rest ∧
      (∀ line ∈ rest, isTerminator line = false) ∧
      ∀ answer ∈ answersIn stream, ∃ body last, answer = body ++ [last] ∧
        (∀ line ∈ body, isTerminator line = false) ∧ isTerminator last = true := by
  induction hn : (answersIn stream).length generalizing stream with
  | zero =>
    rcases answersIn_cases stream with ⟨hnone, hlines⟩ | ⟨body, last, later, -, -, -, -, hcut⟩
    · exact ⟨linesAfter lineFeed stream, by rw [hnone]; rfl, hlines, by simp [hnone]⟩
    · simp [hcut] at hn
  | succ n ih =>
    rcases answersIn_cases stream with
      ⟨hnone, -⟩ | ⟨body, last, later, -, hlines, hbody, hlast, hcut⟩
    · simp [hnone] at hn
    · obtain ⟨rest, hlater, hrest, hanswers⟩ := ih later (by simpa [hcut] using hn)
      refine ⟨rest, by simp only [hlines, hlater, hcut, List.flatten_cons, List.append_assoc],
        hrest, ?_⟩
      intro answer ha
      rw [hcut] at ha
      rcases List.mem_cons.mp ha with rfl | ha
      · exact ⟨body, last, rfl, hbody, hlast⟩
      · exact hanswers answer ha

/-- A part of the bytes that reaches to the end of some lines begins with the same lines. -/
theorem linesAfter_of_isPrefix {xs : List (List UInt8)} {later rest : List UInt8}
    (hlines : linesAfter lineFeed (xs.flatten ++ later) = xs ++ linesAfter lineFeed later)
    (h : xs.flatten ++ rest <+: xs.flatten ++ later) :
    linesAfter lineFeed (xs.flatten ++ rest) = xs ++ linesAfter lineFeed rest := by
  rw [List.prefix_append_right_inj] at h
  by_cases hlater : later = []
  · subst hlater
    rw [List.prefix_nil.mp h]
    exact hlines
  · have hne : linesAfter lineFeed later ≠ [] := fun e => hlater (by
      rw [← flatten_linesAfter lineFeed later, e]; rfl)
    have hend := getLast?_flatten_of_append hlines hne
    rw [linesAfter_append hend] at hlines ⊢
    rw [List.append_cancel_right hlines]

/-- Such lines can be read, if the last of them has its end or nothing stops reading. -/
theorem linesBefore_of_isPrefix {xs : List (List UInt8)} {later rest : List UInt8}
    (hlines : linesAfter lineFeed (xs.flatten ++ later) = xs ++ linesAfter lineFeed later)
    (h : xs.flatten ++ rest <+: xs.flatten ++ later) {stopped : Bool}
    (hend : stopped = true → xs.flatten.getLast? = some lineFeed) :
    linesBefore lineFeed stopped (xs.flatten ++ rest) =
      xs ++ linesBefore lineFeed stopped rest := by
  cases stopped with
  | false => exact linesAfter_of_isPrefix hlines h
  | true =>
    have hfinished : xs.flatten = [] ∨ xs.flatten.getLast? = some lineFeed := .inr (hend rfl)
    rw [linesAfter_append hfinished] at hlines
    rw [linesBefore_append hfinished, List.append_cancel_right hlines]

/-! ## Reading one answer -/

theorem readAnswer_append_cons {path : String} {s : TagSet} (hs : s.path = path)
    {body : List (List UInt8)} {last : List UInt8}
    (hbody : ∀ line ∈ body, isTerminator line = false) (hlast : isTerminator last = true)
    (rest : List (List UInt8)) :
    readAnswer s (body ++ last :: rest) =
      some ((definitionsIn path (body ++ [last])).foldl TagSet.insertDefinition s, rest) := by
  induction body generalizing s with
  | nil => simp [readAnswer, hlast, definitionsIn]
  | cons line body ih =>
    have hline := hbody line List.mem_cons_self
    have hpath : (s.insertReply line).path = path := by
      rw [insertReply_of_parse?, TagSet.path_foldl_insertDefinition, hs]
    rw [List.cons_append, readAnswer, if_neg (by simp [hline]),
      ih hpath fun l hl => hbody l (List.mem_cons_of_mem _ hl), insertReply_of_parse?, hs,
      ← List.foldl_append]
    cases hp : Definition.parse? path (replyText line) <;>
      simp [definitionsIn, hline, hp]

theorem readAnswer_of_none {lines : List (List UInt8)}
    (h : ∀ line ∈ lines, isTerminator line = false) (s : TagSet) : readAnswer s lines = none := by
  induction lines generalizing s with
  | nil => rfl
  | cons line lines ih =>
    rw [readAnswer, if_neg (by simp [h line List.mem_cons_self])]
    exact ih (fun l hl => h l (List.mem_cons_of_mem _ hl)) _

end CodeTags
