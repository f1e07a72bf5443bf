import CodeTags.Proofs.ScriptedGenerator
import CodeTags.Proofs.Session.Answers
import Mathlib.Data.List.TakeWhile

/-!
# Sessions with the tag generator

The output of the generator is cut into answers behind each terminator line, and every query takes
the next answer, however the output is spread over time. Only a path for which no pattern can be
built gets none: the query for it ends the session and leaves its answer unread.

* `Delivers`: which bytes come out of a generator, and that a query waits until its answer is
  complete or the output ends.
* `patterned`: the paths in front of the first one without a pattern.
* `query_of_answer`, `query_of_no_answer`, `query_of_patternError`: one query, by what can be read.
* `query_of_delivers`: one query takes the first answer, or finds that there is none.
* `queries_of_delivers`: so do all queries of a session.
* `results_of_isPrefix`: what is behind an answer does not matter up to it.
* `queries_of_long_path`: a path that is too long, in spite of a complete answer.
-/

namespace CodeTags

namespace GeneratorSession

variable {σ : Type} {g : Generator σ} {s : GeneratorSession σ} {path : String}

/-! ## One query -/

section Query

variable {next : σ} {output : List UInt8}

/-- Where lines up to a terminator can be read, a query gives what they report, and all that is
behind them stays unread. -/
theorem query_of_answer (hready : s.ready = true)
    (hsend : g.send s.state (requestBytes path) = ⟨next, output, none⟩)
    (hpattern : g.patternError? path = none) {body later : List (List UInt8)}
    {last rest : List UInt8}
    (hlines : linesBefore lineFeed (g.behind next).isSome (s.unread ++ output) =
      (body ++ [last]) ++ later)
    (hbody : ∀ line ∈ body, isTerminator line = false) (hlast : isTerminator last = true)
    (hrest : s.unread ++ output = (body ++ [last]).flatten ++ rest) :
    s.query g path = (.ok (answerTags path (body ++ [last])), ⟨next, rest, true⟩) := by
  have hunread := flatten_linesBefore_append lineFeed (g.behind next).isSome (s.unread ++ output)
  rw [hlines, List.flatten_append, List.append_assoc, hrest] at hunread
  have hread : readAnswer (.empty path) ((body ++ [last]) ++ later) =
      some (answerTags path (body ++ [last]), later) := by
    rw [List.append_assoc, List.singleton_append, readAnswer_append_cons rfl hbody hlast]
    rfl
  refine query_of_exchange_ok hready ?_
  simp only [exchange, hsend, hpattern, receive, afterSend, hlines, hread, hready]
  rw [List.flatten_append, hrest, List.append_cancel_left hunread]

/-- Where the output ends without a terminator, the query fails and names its path. -/
theorem query_of_no_answer (hready : s.ready = true)
    (hsend : g.send s.state (requestBytes path) = ⟨next, output, none⟩)
    (hpattern : g.patternError? path = none) (hend : g.behind next = none)
    (hlines : ∀ line ∈ linesAfter lineFeed (s.unread ++ output), isTerminator line = false) :
    s.query g path = (.error (.exited path), ⟨next, [], false⟩) := by
  have hread : readAnswer (.empty path)
      (linesBefore lineFeed (g.behind next).isSome (s.unread ++ output)) = none := by
    rw [hend]
    exact readAnswer_of_none hlines _
  rw [query_of_exchange_error (t := ⟨next, [], s.ready⟩) hready]
  simp only [exchange, hsend, hpattern, receive, afterSend, hread]
  rw [hend]
  rfl

/-- Where there is no pattern for the path, the request is sent and nothing is read. -/
theorem query_of_patternError (hready : s.ready = true)
    (hsend : g.send s.state (requestBytes path) = ⟨next, output, none⟩) {reason : String}
    (hpattern : g.patternError? path = some reason) :
    s.query g path = (.error (.badPattern reason), ⟨next, s.unread ++ output, false⟩) := by
  rw [query_of_exchange_error (t := ⟨next, s.unread ++ output, s.ready⟩) hready]
  simp only [exchange, hsend, hpattern, afterSend]

end Query

/-! ## Delivery -/

variable {paths : List String} {outputs : List (List UInt8)} {stream : List UInt8}

/-- A generator takes the requests for some paths in turn, and gives these outputs. -/
inductive Takes (g : Generator σ) : σ → List String → List (List UInt8) → Prop where
  | nil (state : σ) : Takes g state [] []
  | cons {state next : σ} {path : String} {paths : List String} {output : List UInt8}
      {outputs : List (List UInt8)}
      (send : g.send state (requestBytes path) = ⟨next, output, none⟩)
      (later : Takes g next paths outputs) : Takes g state (path :: paths) (output :: outputs)

/-- The state of a generator that was sent the requests for some paths. -/
def stateAfter (g : Generator σ) (state : σ) (paths : List String) : σ :=
  paths.foldl (fun state path => (g.send state (requestBytes path)).state) state

/-- The paths in front of the first one without a pattern. -/
def patterned (g : Generator σ) (paths : List String) : List String :=
  paths.takeWhile fun path => (g.patternError? path).isNone

/-- The number of queries that read, which are those with a pattern. -/
def readCount (g : Generator σ) (paths : List String) (outputs : List (List UInt8)) : Nat :=
  min outputs.length (patterned g paths).length

/-- What has come out when request number `k` is taken. -/
def delivered (s : GeneratorSession σ) (outputs : List (List UInt8)) (k : Nat) : List UInt8 :=
  s.unread ++ (outputs.take (k + 1)).flatten

/-- The bytes of the first `k` answers. -/
def answersUpTo (stream : List UInt8) (k : Nat) : List UInt8 :=
  ((answersIn stream).take k).flatten.flatten

/-- `stream` is what comes out of the generator before its output ends. The requests are taken as
long as there are answers and patterns, and once more. A query that reads waits for its answer: by
then all of the answer has come out, or all of `stream` if the answer is missing; and the output has
ended unless the answer is there with the end of its last line. -/
structure Delivers (g : Generator σ) (s : GeneratorSession σ) (paths : List String)
    (outputs : List (List UInt8)) (stream : List UInt8) : Prop where
  ready : s.ready = true
  takes : Takes g s.state
    (paths.take (min (answersIn stream).length (patterned g paths).length + 1)) outputs
  in_stream : ∀ k < readCount g paths outputs, s.delivered outputs k <+: stream
  in_time : ∀ k < readCount g paths outputs, answersUpTo stream (k + 1) <+: s.delivered outputs k
  at_end : ∀ k < readCount g paths outputs,
    (answersIn stream).length ≤ k → s.delivered outputs k = stream
  ended : ∀ k < readCount g paths outputs,
    (∀ answer ∈ (answersIn stream)[k]?, answer.flatten.getLast? ≠ some lineFeed) →
      g.behind (stateAfter g s.state (paths.take (k + 1))) = none

theorem answersUpTo_succ {stream later : List UInt8} {answer : List (List UInt8)}
    (h : answersIn stream = answer :: answersIn later) (k : Nat) :
    answersUpTo stream (k + 1) = answer.flatten ++ answersUpTo later k := by
  simp [answersUpTo, h]

theorem delivered_cons {t : GeneratorSession σ} {output head : List UInt8}
    (h : s.unread ++ output = head ++ t.unread) (outputs : List (List UInt8)) (k : Nat) :
    s.delivered (output :: outputs) (k + 1) = head ++ t.delivered outputs k := by
  rw [delivered, List.take_succ_cons, List.flatten_cons, ← List.append_assoc, h,
    List.append_assoc]
  rfl

theorem stateAfter_cons {state next : σ} {output : List UInt8}
    (h : g.send state (requestBytes path) = ⟨next, output, none⟩) (paths : List String) :
    stateAfter g state (path :: paths) = stateAfter g next paths := by
  rw [stateAfter, List.foldl_cons, h]
  rfl

theorem patterned_cons (h : g.patternError? path = none) (paths : List String) :
    patterned g (path :: paths) = path :: patterned g paths := by
  rw [patterned, List.takeWhile_cons_of_pos (by simp [h])]
  rfl

theorem readCount_cons (h : g.patternError? path = none) (paths : List String) (output : List UInt8)
    (outputs : List (List UInt8)) :
    readCount g (path :: paths) (output :: outputs) = readCount g paths outputs + 1 := by
  rw [readCount, patterned_cons h, List.length_cons, List.length_cons, Nat.add_min_add_right]
  rfl

theorem readCount_cons_pos (h : g.patternError? path = none) (paths : List String)
    (output : List UInt8) (outputs : List (List UInt8)) :
    0 < readCount g (path :: paths) (output :: outputs) := by
  rw [readCount_cons h]
  exact Nat.succ_pos _

theorem patternError?_of_lt {k : Nat} (h : k < (patterned g (path :: paths)).length) :
    g.patternError? path = none := by
  cases hpattern : g.patternError? path with
  | none => rfl
  | some reason =>
    rw [patterned, List.takeWhile_cons_of_neg (by simp [hpattern])] at h
    exact absurd h (Nat.not_lt_zero k)

/-- The paths in front of the first one without a pattern have one. -/
theorem patternError?_of_getElem? {k : Nat} (h : k < (patterned g paths).length)
    (hpath : paths[k]? = some path) : g.patternError? path = none := by
  have hprefix : patterned g paths <+: paths := List.takeWhile_prefix _
  have hget : (patterned g paths)[k]? = some path := by
    rw [List.getElem?_eq_getElem h, hprefix.getElem h, ← List.getElem?_eq_getElem, hpath]
  have hmem := List.mem_of_getElem? hget
  exact Option.isNone_iff_eq_none.mp (List.all_eq_true.mp List.all_takeWhile path hmem)

theorem exists_patternError (h : paths[(patterned g paths).length]? = some path) :
    ∃ reason, g.patternError? path = some reason := by
  induction paths with
  | nil => simp at h
  | cons p ps ih =>
    cases hpattern : g.patternError? p with
    | none =>
      rw [patterned_cons hpattern, List.length_cons, List.getElem?_cons_succ] at h
      exact ih h
    | some reason =>
      have hnil : patterned g (p :: ps) = [] :=
        List.takeWhile_cons_of_neg (by simp [hpattern])
      rw [hnil] at h
      obtain rfl : p = path := by simpa using h
      exact ⟨reason, hpattern⟩

/-- Without an answer a query finds the end of the output. -/
theorem query_of_delivers_none (h : Delivers g s (path :: paths) outputs stream)
    (hpattern : g.patternError? path = none) (hnone : answersIn stream = []) :
    ∃ t, s.query g path = (.error (.exited path), t) ∧ t.ready = false := by
  have htakes := h.takes
  rw [hnone, List.length_nil, Nat.zero_min, Nat.zero_add, List.take_succ_cons] at htakes
  cases htakes with
  | @cons _ next _ _ output outputs send later =>
    have hfirst := readCount_cons_pos hpattern paths output outputs
    have hstream : s.unread ++ output = stream := by
      have := h.at_end 0 hfirst (by simp [hnone])
      simpa [delivered] using this
    have hlines : ∀ line ∈ linesAfter lineFeed (s.unread ++ output), isTerminator line = false := by
      rw [hstream]
      rcases answersIn_cases stream with h | ⟨body, last, later, -, -, -, -, h⟩
      · exact h.2
      · rw [hnone] at h
        cases h
    have hend : g.behind next = none := by
      have hended := h.ended 0 hfirst (by simp [hnone])
      rwa [List.take_succ_cons, stateAfter_cons send] at hended
    exact ⟨_, query_of_no_answer h.ready send hpattern hend hlines, rfl⟩

/-- Without a pattern the request is sent, and its answer is left. -/
theorem query_of_delivers_patternError (h : Delivers g s (path :: paths) outputs stream)
    {reason : String} (hpattern : g.patternError? path = some reason) :
    ∃ output outputs' t, outputs = output :: outputs' ∧
      s.query g path = (.error (.badPattern reason), t) ∧ t.ready = false ∧
      t.state = stateAfter g s.state [path] ∧ t.unread = s.unread ++ output := by
  have htakes := h.takes
  rw [List.take_succ_cons] at htakes
  cases htakes with
  | @cons _ next _ _ output outputs send later =>
    exact ⟨output, outputs, _, rfl, query_of_patternError h.ready send hpattern, rfl,
      (stateAfter_cons send []).symm, rfl⟩

section Answered

variable {answer : List (List UInt8)} {output rest later : List UInt8} {next : σ}

/-- What is behind the first answer is delivered to the later queries. -/
theorem Delivers.tail (h : Delivers g s (path :: paths) (output :: outputs) stream)
    (hpattern : g.patternError? path = none)
    (hsend : g.send s.state (requestBytes path) = ⟨next, output, none⟩)
    (hcut : answersIn stream = answer :: answersIn later)
    (hstream : stream = answer.flatten ++ later)
    (hrest : answer.flatten ++ rest = s.unread ++ output) :
    Delivers g ⟨next, rest, true⟩ paths outputs later := by
  have hcount : ∀ k < readCount g paths outputs,
      k + 1 < readCount g (path :: paths) (output :: outputs) := fun k hk => by
    rw [readCount_cons hpattern]
    exact Nat.succ_lt_succ hk
  have hcons : ∀ k, s.delivered (output :: outputs) (k + 1) =
      answer.flatten ++ delivered ⟨next, rest, true⟩ outputs k :=
    delivered_cons hrest.symm outputs
  refine ⟨rfl, ?_, fun k hk => ?_, fun k hk => ?_, fun k hk hle => ?_, fun k hk hmissing => ?_⟩
  · have htakes := h.takes
    rw [hcut, patterned_cons hpattern, List.length_cons, List.length_cons,
      Nat.add_min_add_right, List.take_succ_cons] at htakes
    cases htakes with
    | cons send later =>
      rw [hsend] at send
      obtain ⟨rfl, -⟩ := Sent.mk.inj send
      exact later
  · have := h.in_stream (k + 1) (hcount k hk)
    rwa [hcons, hstream, List.prefix_append_right_inj] at this
  · have := h.in_time (k + 1) (hcount k hk)
    rwa [hcons, answersUpTo_succ hcut, List.prefix_append_right_inj] at this
  · have := h.at_end (k + 1) (hcount k hk) (by rw [hcut, List.length_cons]; omega)
    rw [hcons, hstream] at this
    exact List.append_cancel_left this
  · have := h.ended (k + 1) (hcount k hk) (by simpa [hcut] using hmissing)
    rwa [List.take_succ_cons, stateAfter_cons hsend] at this

/-- If something stops reading, the output has not ended, so the first answer has its end. -/
theorem Delivers.getLast?_of_isSome (h : Delivers g s (path :: paths) (output :: outputs) stream)
    (hpattern : g.patternError? path = none)
    (hsend : g.send s.state (requestBytes path) = ⟨next, output, none⟩)
    (hcut : answersIn stream = answer :: answersIn later) (hsome : (g.behind next).isSome = true) :
    answer.flatten.getLast? = some lineFeed := by
  refine Classical.byContradiction fun hlast => ?_
  have hended := h.ended 0 (readCount_cons_pos hpattern _ _ _) (by simpa [hcut] using hlast)
  rw [List.take_succ_cons, stateAfter_cons hsend] at hended
  rw [show g.behind next = none from hended] at hsome
  cases hsome

end Answered

/-- A query takes the first answer, and what is behind it is delivered to the later ones. -/
theorem query_of_delivers {answer : List (List UInt8)} {answers : List (List (List UInt8))}
    (h : Delivers g s (path :: paths) outputs stream) (hpattern : g.patternError? path = none)
    (hanswers : answersIn stream = answer :: answers) :
    ∃ t output outputs' later, outputs = output :: outputs' ∧
      s.query g path = (.ok (answerTags path answer), t) ∧
      s.unread ++ output = answer.flatten ++ t.unread ∧ answersIn later = answers ∧
      stream = answer.flatten ++ later ∧
      (∀ paths, stateAfter g s.state (path :: paths) = stateAfter g t.state paths) ∧
      Delivers g t paths outputs' later := by
  rcases answersIn_cases stream with
    hnone | ⟨body, last, later, hstream, hlines, hbody, hlast, hcut⟩
  · rw [hnone.1] at hanswers
    cases hanswers
  rw [hcut] at hanswers
  obtain ⟨rfl, rfl⟩ := List.cons.inj hanswers
  have htakes := h.takes
  rw [List.take_succ_cons] at htakes
  cases htakes with
  | @cons _ next _ _ output outputs' send =>
    have hfirst := readCount_cons_pos hpattern paths output outputs'
    have hdelivered : s.delivered (output :: outputs') 0 = s.unread ++ output := by
      simp [delivered]
    have hintime := h.in_time 0 hfirst
    have hinstream := h.in_stream 0 hfirst
    rw [answersUpTo_succ hcut, hdelivered] at hintime
    obtain ⟨rest, hrest⟩ : (body ++ [last]).flatten <+: s.unread ++ output :=
      (List.prefix_append _ _).trans hintime
    rw [hdelivered, ← hrest, hstream] at hinstream
    rw [hstream] at hlines
    have hread : linesBefore lineFeed (g.behind next).isSome (s.unread ++ output) =
        (body ++ [last]) ++ linesBefore lineFeed (g.behind next).isSome rest := by
      rw [← hrest, linesBefore_of_isPrefix hlines hinstream
        (h.getLast?_of_isSome hpattern send hcut)]
    exact ⟨⟨next, rest, true⟩, output, outputs', later, rfl,
      query_of_answer h.ready send hpattern hread hbody hlast hrest.symm, hrest.symm, rfl, hstream,
      fun paths => stateAfter_cons send paths, h.tail hpattern send hcut hstream hrest⟩

/-! ## Sessions -/

/-- A query that is answered hands what is behind its answer to the queries behind it. -/
theorem queries_of_delivers_cons {k : Nat} {answer : List (List UInt8)}
    {answers : List (List (List UInt8))} (h : Delivers g s (path :: paths) outputs stream)
    (hk : k < (patterned g (path :: paths)).length)
    (hanswers : answersIn stream = answer :: answers) :
    ∃ t output outputs' later, outputs = output :: outputs' ∧
      s.unread ++ output = answer.flatten ++ t.unread ∧ answersIn later = answers ∧
      stream = answer.flatten ++ later ∧
      (∀ paths, stateAfter g s.state (path :: paths) = stateAfter g t.state paths) ∧
      Delivers g t paths outputs' later ∧
      queries g s (path :: paths) = (.ok (answerTags path answer), t) :: queries g t paths := by
  obtain ⟨t, output, outputs', later, houtputs, hquery, hread, hlater, hstream, hstate, hrest⟩ :=
    query_of_delivers h (patternError?_of_lt hk) hanswers
  refine ⟨t, output, outputs', later, houtputs, hread, hlater, hstream, hstate, hrest, ?_⟩
  rw [queries_cons_of_ok (by rw [hquery]), hquery]

/-- As long as there are answers and patterns, query number `k` gives answer number `k`, and has
read up to its end. -/
theorem queries_of_lt {k : Nat} {answer : List (List UInt8)}
    (h : Delivers g s paths outputs stream) (hk : k < (patterned g paths).length)
    (hpath : paths[k]? = some path) (hanswer : (answersIn stream)[k]? = some answer) :
    ∃ t, (queries g s paths)[k]? = some (.ok (answerTags path answer), t) ∧
      s.delivered outputs k = answersUpTo stream (k + 1) ++ t.unread := by
  induction k generalizing s paths outputs stream with
  | zero =>
    cases paths with
    | nil => simp at hpath
    | cons p ps =>
      cases hcut : answersIn stream with
      | nil => simp [hcut] at hanswer
      | cons a as =>
        obtain rfl : p = path := by simpa using hpath
        obtain rfl : a = answer := by simpa [hcut] using hanswer
        obtain ⟨t, output, outputs', later, rfl, hread, -, -, -, -, hqueries⟩ :=
          queries_of_delivers_cons h hk hcut
        refine ⟨t, by rw [hqueries, List.getElem?_cons_zero], ?_⟩
        simp [delivered, answersUpTo, hcut, hread]
  | succ k ih =>
    cases paths with
    | nil => simp at hpath
    | cons p ps =>
      cases hcut : answersIn stream with
      | nil => simp [hcut] at hanswer
      | cons a as =>
        obtain ⟨t, output, outputs', later, rfl, hread, rfl, -, -, hlater, hqueries⟩ :=
          queries_of_delivers_cons h hk hcut
        rw [patterned_cons (patternError?_of_lt hk)] at hk
        obtain ⟨u, hu, hdelivered⟩ := ih hlater (Nat.lt_of_succ_lt_succ hk) (by simpa using hpath)
          (by simpa [hcut] using hanswer)
        refine ⟨u, by rw [hqueries, List.getElem?_cons_succ, hu], ?_⟩
        rw [delivered_cons hread, hdelivered, answersUpTo_succ hcut, List.append_assoc]

/-- The first query behind the last answer finds the end of the output. -/
theorem queries_of_eq (h : Delivers g s paths outputs stream)
    (hk : (answersIn stream).length < (patterned g paths).length)
    (hpath : paths[(answersIn stream).length]? = some path) :
    ∃ t, (queries g s paths)[(answersIn stream).length]? = some (.error (.exited path), t) ∧
      t.ready = false := by
  induction hn : (answersIn stream).length generalizing s paths outputs stream with
  | zero =>
    cases paths with
    | nil => simp at hpath
    | cons p ps =>
      have hnone := List.length_eq_zero_iff.mp hn
      obtain rfl : p = path := by simpa [hnone] using hpath
      obtain ⟨t, hquery, hdead⟩ := query_of_delivers_none h (patternError?_of_lt hk) hnone
      exact ⟨t, by rw [getElem?_zero_queries, hquery], hdead⟩
  | succ n ih =>
    cases paths with
    | nil => simp at hpath
    | cons p ps =>
      cases hcut : answersIn stream with
      | nil => simp [hcut] at hn
      | cons a as =>
        obtain ⟨t, output, outputs', later, rfl, -, rfl, -, -, hlater, hqueries⟩ :=
          queries_of_delivers_cons h hk hcut
        have hlen : (answersIn later).length = n := by simpa [hcut] using hn
        rw [patterned_cons (patternError?_of_lt hk), hcut] at hk
        rw [hqueries, List.getElem?_cons_succ]
        exact ih hlater (Nat.lt_of_succ_lt_succ hk) (by simpa [hcut] using hpath) hlen

/-- The first query without a pattern sends its request and reads nothing. -/
theorem queries_of_patternError (h : Delivers g s paths outputs stream)
    (hk : (patterned g paths).length ≤ (answersIn stream).length)
    (hpath : paths[(patterned g paths).length]? = some path) :
    ∃ reason t, g.patternError? path = some reason ∧
      (queries g s paths)[(patterned g paths).length]? = some (.error (.badPattern reason), t) ∧
      t.ready = false ∧
      t.state = stateAfter g s.state (paths.take ((patterned g paths).length + 1)) ∧
      s.delivered outputs (patterned g paths).length =
        answersUpTo stream (patterned g paths).length ++ t.unread := by
  obtain ⟨reason, hreason⟩ := exists_patternError hpath
  refine ⟨reason, ?_⟩
  induction paths generalizing s outputs stream with
  | nil => simp at hpath
  | cons p ps ih =>
    cases hpattern : g.patternError? p with
    | some reason' =>
      have hnil : patterned g (p :: ps) = [] := List.takeWhile_cons_of_neg (by simp [hpattern])
      rw [hnil] at hpath ⊢
      obtain rfl : p = path := by simpa using hpath
      obtain rfl : reason' = reason := Option.some.inj (hpattern.symm.trans hreason)
      obtain ⟨output, outputs', t, rfl, hquery, hdead, hstate, hunread⟩ :=
        query_of_delivers_patternError h hpattern
      refine ⟨t, hpattern, ?_, hdead, hstate, ?_⟩
      · rw [List.length_nil, getElem?_zero_queries, hquery]
      · simp [delivered, answersUpTo, hunread]
    | none =>
      rw [patterned_cons hpattern] at hk hpath ⊢
      cases hcut : answersIn stream with
      | nil => simp [hcut] at hk
      | cons a as =>
        have hpos : 0 < (patterned g (p :: ps)).length := by simp [patterned_cons hpattern]
        obtain ⟨t, output, outputs', later, rfl, hread, rfl, -, hstates, hlater, hqueries⟩ :=
          queries_of_delivers_cons h hpos hcut
        obtain ⟨u, -, hu, hdead, hstate, hdelivered⟩ :=
          ih hlater (by simpa [hcut] using hk) (by simpa using hpath)
        rw [List.length_cons]
        refine ⟨u, hreason, by rw [hqueries, List.getElem?_cons_succ, hu], hdead, ?_, ?_⟩
        · rw [hstate, List.take_succ_cons, hstates]
        · rw [delivered_cons hread, hdelivered, answersUpTo_succ hcut, List.append_assoc]

/-- Bytes that begin alike up to the end of an answer have the same answers up to there. -/
theorem take_answersIn_of_isPrefix {stream stream' : List UInt8} {k : Nat}
    (hk : k ≤ (answersIn stream).length) (hbegin : answersUpTo stream k <+: stream')
    (hend : answersUpTo stream k = [] ∨ (answersUpTo stream k).getLast? = some lineFeed) :
    (answersIn stream').take k = (answersIn stream).take k := by
  induction k generalizing stream stream' with
  | zero => rfl
  | succ k ih =>
    rcases answersIn_cases stream with
      ⟨hnone, -⟩ | ⟨body, last, later, rfl, hlines, hbody, hlast, hcut⟩
    · simp [hnone] at hk
    rw [answersUpTo_succ hcut] at hbegin hend
    obtain ⟨later', rfl⟩ : ∃ later', stream' = (body ++ [last]).flatten ++ later' := by
      obtain ⟨later', h⟩ := hbegin
      exact ⟨_, by rw [← h, List.append_assoc]⟩
    rw [List.prefix_append_right_inj] at hbegin
    -- The first answer is finished: another line follows it, or it ends where the bytes agree.
    have hfinished : (body ++ [last]).flatten = [] ∨
        (body ++ [last]).flatten.getLast? = some lineFeed := by
      by_cases hlater : linesAfter lineFeed later = []
      · have hnil : answersUpTo later k = [] := by simp [answersUpTo, answersIn, hlater, cutAnswers]
        rwa [hnil, List.append_nil] at hend
      · exact getLast?_flatten_of_append hlines hlater
    have hsame : linesAfter lineFeed (body ++ [last]).flatten = body ++ [last] := by
      rw [linesAfter_append hfinished] at hlines
      exact List.append_cancel_right hlines
    have hcut' : answersIn ((body ++ [last]).flatten ++ later') =
        (body ++ [last]) :: answersIn later' := by
      rw [answersIn, linesAfter_append hfinished, hsame, List.append_assoc, List.singleton_append,
        cutAnswers_append_cons hbody hlast]
      rfl
    have hend' : answersUpTo later k = [] ∨ (answersUpTo later k).getLast? = some lineFeed := by
      rcases hend with hend | hend
      · exact .inl (List.append_eq_nil_iff.mp hend).2
      · rw [List.getLast?_append] at hend
        cases hlast? : (answersUpTo later k).getLast? with
        | none => exact .inl (List.getLast?_eq_none_iff.mp hlast?)
        | some b => rw [hlast?] at hend; exact .inr hend
    have hk' : k ≤ (answersIn later).length := by
      rw [hcut] at hk
      simpa using hk
    rw [hcut, hcut', List.take_succ_cons, List.take_succ_cons, ih hk' hbegin hend']

theorem length_queries_le (g : Generator σ) (s : GeneratorSession σ) (paths : List String) :
    (queries g s paths).length ≤ paths.length := by
  induction paths generalizing s with
  | nil => exact Nat.le_refl 0
  | cons path paths ih =>
    by_cases hstalled : (s.query g path).1 = .error .stalled
    · rw [queries_cons_of_stalled hstalled, List.length_cons]
      exact Nat.succ_le_succ (Nat.zero_le _)
    · rw [queries_cons hstalled]
      exact Nat.succ_le_succ (ih _)

/-- Behind the first path without a pattern all queries are refused. -/
theorem queries_of_gt {i : Nat} (h : Delivers g s paths outputs stream)
    (hk : (patterned g paths).length ≤ (answersIn stream).length)
    (hi : (patterned g paths).length < i) (hpath : paths[i]? = some path) :
    ((queries g s paths)[i]?).map (·.1) = some (.error .dead) := by
  have hlen := (List.getElem?_eq_some_iff.mp hpath).1
  obtain ⟨reason, t, -, ht, hdead, -⟩ :=
    queries_of_patternError h hk (List.getElem?_eq_getElem (Nat.lt_trans hi hlen))
  have hdrop := drop_queries ht (by simp)
  obtain ⟨j, rfl⟩ : ∃ j, i = (patterned g paths).length + 1 + j := Nat.exists_eq_add_of_le hi
  rw [← List.getElem?_drop, hdrop, queries_of_dead hdead, List.getElem?_map, List.getElem?_drop,
    hpath]
  rfl

/-- Queries have the same results up to an answer if the output is the same up to its end. -/
theorem results_of_isPrefix {τ : Type} {g' : Generator τ} {s' : GeneratorSession τ}
    {outputs' : List (List UInt8)} {stream' : List UInt8} (h : Delivers g s paths outputs stream)
    (hpatterns : g'.patternError? = g.patternError?) (h' : Delivers g' s' paths outputs' stream')
    {k i : Nat} (hk : k ≤ (answersIn stream).length) (hbegin : answersUpTo stream k <+: stream')
    (hend : answersUpTo stream k = [] ∨ (answersUpTo stream k).getLast? = some lineFeed)
    (hi : i < k) :
    ((queries g s paths)[i]?).map (·.1) = ((queries g' s' paths)[i]?).map (·.1) := by
  have hpatterned : patterned g' paths = patterned g paths := by
    rw [patterned, patterned, hpatterns]
  have htake := take_answersIn_of_isPrefix hk hbegin hend
  have hlen : k ≤ (answersIn stream').length := by
    have := congrArg List.length htake
    rw [List.length_take, List.length_take, Nat.min_eq_left hk] at this
    omega
  cases hpath : paths[i]? with
  | none =>
    have hover : paths.length ≤ i := List.getElem?_eq_none_iff.mp hpath
    rw [List.getElem?_eq_none (Nat.le_trans (length_queries_le g s paths) hover),
      List.getElem?_eq_none (Nat.le_trans (length_queries_le g' s' paths) hover)]
    rfl
  | some path =>
    rcases Nat.lt_trichotomy i (patterned g paths).length with hlt | heq | hgt
    · have hanswer : (answersIn stream)[i]? = some (answersIn stream)[i] :=
        List.getElem?_eq_getElem (Nat.lt_of_lt_of_le hi hk)
      have hanswer' : (answersIn stream')[i]? = some (answersIn stream)[i] := by
        have := congrArg (·[i]?) htake
        simpa [List.getElem?_take, hi, hanswer] using this
      obtain ⟨t, ht, -⟩ := queries_of_lt h hlt hpath hanswer
      obtain ⟨t', ht', -⟩ := queries_of_lt h' (by rwa [hpatterned]) hpath hanswer'
      rw [ht, ht']
      rfl
    · subst heq
      obtain ⟨reason, t, hreason, ht, -⟩ :=
        queries_of_patternError h (Nat.le_of_lt (Nat.lt_of_lt_of_le hi hk)) hpath
      obtain ⟨reason', t', hreason', ht', -⟩ :=
        queries_of_patternError h' (by rw [hpatterned]; omega) (by rwa [hpatterned])
      rw [hpatterns, hreason] at hreason'
      rw [hpatterned] at ht'
      rw [ht, ht', Option.some.inj hreason']
      rfl
    · rw [queries_of_gt h (by omega) hgt hpath,
        queries_of_gt h' (by rw [hpatterned]; omega) (by rwa [hpatterned]) hpath]

/-- **The law of a session.** The output is cut behind each terminator line. While there is an
answer number `k`, and a pattern for each path up to number `k`, query number `k` gives the
definitions on the other lines of the answer, recorded in order under the path of the query, and it
has then read the output exactly up to the end of the answer. The first query behind the last answer
fails and names its own path. The first query for a path without a pattern fails too: its request is
sent, and nothing is read for it. Of several definitions with one symbol and line the last one
counts. What is behind the end of an answer changes none of the results up to it. -/
theorem queries_of_delivers (h : Delivers g s paths outputs stream) :
    (∃ rest, linesAfter lineFeed stream = (answersIn stream).flatten ++ rest ∧
      (∀ line ∈ rest, isTerminator line = false) ∧
      ∀ answer ∈ answersIn stream, ∃ body last, answer = body ++ [last] ∧
        (∀ line ∈ body, isTerminator line = false) ∧ isTerminator last = true) ∧
    (∀ k path answer, k < (patterned g paths).length → paths[k]? = some path →
      (answersIn stream)[k]? = some answer →
      ∃ t, (queries g s paths)[k]? = some (.ok (answerTags path answer), t) ∧
        s.delivered outputs k = answersUpTo stream (k + 1) ++ t.unread) ∧
    (∀ path, (answersIn stream).length < (patterned g paths).length →
      paths[(answersIn stream).length]? = some path →
      ((queries g s paths)[(answersIn stream).length]?).map (·.1) =
        some (.error (.exited path))) ∧
    (∀ path, (patterned g paths).length ≤ (answersIn stream).length →
      paths[(patterned g paths).length]? = some path →
      ∃ reason t, g.patternError? path = some reason ∧
        (queries g s paths)[(patterned g paths).length]? = some (.error (.badPattern reason), t) ∧
        t.ready = false ∧
        t.state = stateAfter g s.state (paths.take ((patterned g paths).length + 1)) ∧
        s.delivered outputs (patterned g paths).length =
          answersUpTo stream (patterned g paths).length ++ t.unread) ∧
    (∀ path answer, (answerTags path answer).path = path ∧ ∀ key,
      (answerTags path answer).get? key =
        ((definitionsIn path answer).reverse.find? (·.key == key)).map (·.image)) ∧
    ∀ {τ : Type} (g' : Generator τ) (s' : GeneratorSession τ) (outputs' : List (List UInt8))
      (stream' : List UInt8), g'.patternError? = g.patternError? →
      Delivers g' s' paths outputs' stream' →
      ∀ k ≤ (answersIn stream).length, answersUpTo stream k <+: stream' →
        (answersUpTo stream k = [] ∨ (answersUpTo stream k).getLast? = some lineFeed) →
        ∀ i < k, ((queries g s paths)[i]?).map (·.1) = ((queries g' s' paths)[i]?).map (·.1) := by
  refine ⟨cutAnswers_spec stream, fun k path answer => queries_of_lt h, fun path hk hpath => ?_,
    fun path => queries_of_patternError h, fun path answer => ⟨?_, fun key => ?_⟩, ?_⟩
  · obtain ⟨t, ht, -⟩ := queries_of_eq h hk hpath
    rw [ht]
    rfl
  · exact TagSet.path_foldl_insertDefinition _ _
  · rw [answerTags, TagSet.get?_foldl_insertDefinition]
    simp [TagSet.get?, TagSet.empty]
  · exact fun g' s' outputs' stream' hpatterns h' k hk hbegin hend i hi =>
      results_of_isPrefix h hpatterns h' hk hbegin hend hi

/-- Three outputs. The first goes on behind its answer, and the last holds no answer. -/
def threeOutputs : List (List UInt8) :=
  [Utf8.encode "x 1 a.c int x;\nx 1 a.c int x = 2;\n###terminator###\ny".toList,
    Utf8.encode " 2 b.c ".toList ++ [0xFF, 0x0A] ++ Utf8.encode "###terminator###\r\r\n\n".toList,
    Utf8.encode "z 3 c.c int z;\n###term".toList]

/-- A program that writes them and ends. -/
def threeOutputsReplies : List ScriptedReply :=
  threeOutputs.map fun output => ⟨output, some output == threeOutputs.getLast?⟩

theorem queries_of_three_outputs :
    Delivers (ScriptedGenerator.generator fun _ => none)
      (start (.start [] threeOutputsReplies)) ["a.c", "b.c", "c.c"] threeOutputs
      threeOutputs.flatten ∧
    ((queries (ScriptedGenerator.generator fun _ => none)
      (start (.start [] threeOutputsReplies)) ["a.c", "b.c", "c.c"])[2]?).map (·.1) =
      some (.error (.exited "c.c")) := by
  have htwo : (answersIn threeOutputs.flatten).length = 2 := by decide +kernel
  have h : Delivers (ScriptedGenerator.generator fun _ => none)
      (start (.start [] threeOutputsReplies)) ["a.c", "b.c", "c.c"] threeOutputs
      threeOutputs.flatten := by
    refine ⟨rfl, ?_, by decide +kernel, by decide +kernel, by decide +kernel, by decide +kernel⟩
    rw [htwo]
    exact .cons rfl (.cons rfl (.cons rfl (.nil _)))
  have := (queries_of_delivers h).2.2.1 "c.c" (by rw [htwo]; decide) (by rw [htwo]; rfl)
  rw [htwo] at this
  exact ⟨h, this⟩

/-! ## Without a pattern -/

/-- An answer with no definitions. -/
def emptyAnswer : List UInt8 := Utf8.encode "###terminator###\n".toList

/-- A program that gives this answer to one request. -/
def answeringOnce : GeneratorSession ScriptedGenerator := start (.start [] [⟨emptyAnswer, false⟩])

/-- What the program does with a request for a path on one line. -/
theorem send_answeringOnce {path : String} (hpath : '\n' ∉ path.toList)
    (patternError? : String → Option String) :
    (ScriptedGenerator.generator patternError?).send answeringOnce.state (requestBytes path) =
      ⟨⟨[], [], [Utf8.encode path.toList], true⟩, emptyAnswer, none⟩ :=
  ScriptedGenerator.send_requestBytes (p := answeringOnce.state) rfl rfl hpath patternError?

theorem query_answeringOnce {path : String} (hpath : '\n' ∉ path.toList)
    {patternError? : String → Option String} {reason : String}
    (h : patternError? path = some reason) :
    (answeringOnce.query (ScriptedGenerator.generator patternError?) path).1 =
      .error (.badPattern reason) := by
  have hquery := query_of_patternError (g := ScriptedGenerator.generator patternError?) rfl
    (send_answeringOnce hpath patternError?) h
  rw [hquery]

/-- An answer is not enough. Where patterns have room for 327000 bytes of a path, the request for a
path of 450000 letters is taken and answered, and yet its query gives no tags. -/
theorem queries_of_long_path :
    (ScriptedGenerator.generator (patternErrorAbove 327000)).send answeringOnce.state
        (requestBytes (longPath 450000)) =
      ⟨⟨[], [], [Utf8.encode (longPath 450000).toList], true⟩, emptyAnswer, none⟩ ∧
    answersIn emptyAnswer = [[emptyAnswer]] ∧
    ¬ ∃ t, (queries (ScriptedGenerator.generator (patternErrorAbove 327000)) answeringOnce
        [longPath 450000])[0]? = some (.ok (answerTags (longPath 450000) [emptyAnswer]), t) := by
  have hsend := send_answeringOnce (newline_not_mem_longPath 450000) (patternErrorAbove 327000)
  refine ⟨hsend, by decide +kernel, ?_⟩
  have herror := query_answeringOnce (newline_not_mem_longPath 450000)
    (patternErrorAbove_longPath (show 327000 < 450000 by omega))
  rintro ⟨t, ht⟩
  rw [getElem?_zero_queries, Option.some.injEq] at ht
  rw [ht] at herror
  cases herror

end GeneratorSession

end CodeTags
