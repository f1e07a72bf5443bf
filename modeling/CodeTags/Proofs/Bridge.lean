import CodeTags.Proofs.Session
import CodeTags.Proofs.Text.Utf8
import CodeTags.Proofs.Trace

/-!
# The service and the tag generator in lock step

A service that takes its definitions from a generator sends one line for each request, and reads one
reply for each line that it sends.

* `Service.ofGenerator`, `Setting.ofGenerator`: the service over a running generator.
* `IsSingleAnswer`: bytes that are exactly one answer.
* `InStep`: where both sides are when some requests are answered; `InStep.succ` is one request.
* `batchesFor`: the batches for some input, each from the reply to its own line.
* `run_in_lock_step`: all requests up to there, with their batches in order.
* `run_of_long_line`: a request for a path that is too long, in spite of its reply.
-/

namespace CodeTags

/-- The service whose definitions come from a generator, and its references from a scanner if there
is one. -/
def Service.ofGenerator {σ : Type} (g : Generator σ) (scanner : Option Scanner) :
    Service (GeneratorSession σ) where
  definitions session path := session.query g path
  references := scanner.map (·.scanPath)

/-- A run of such a service, with an output that takes everything. -/
def Setting.ofGenerator {σ : Type} (g : Generator σ) (scanner : Option Scanner)
    (session : GeneratorSession σ) (input : RequestInput) : Setting (GeneratorSession σ) :=
  ⟨.ofGenerator g scanner, session, input, none, none⟩

/-! ## One reply for a line -/

/-- The bytes are lines of which the last, and only the last, is a terminator line; it is finished
by a line feed. -/
def IsSingleAnswer (bytes : List UInt8) : Prop :=
  ∃ body last, linesAfter lineFeed bytes = body ++ [last] ∧
    (∀ line ∈ body, isTerminator line = false) ∧ isTerminator last = true ∧
    last.getLast? = some lineFeed

/-- All lines of such bytes can be read, whatever stops reading behind them. -/
theorem linesBefore_of_isFinished {bytes : List UInt8} {body : List (List UInt8)}
    {last : List UInt8} (hlines : linesAfter lineFeed bytes = body ++ [last])
    (hend : last.getLast? = some lineFeed) (stopped : Bool) :
    linesBefore lineFeed stopped bytes = body ++ [last] := by
  have hbytes : bytes.getLast? = some lineFeed := by
    rw [← flatten_linesAfter lineFeed bytes, hlines, List.flatten_append, List.getLast?_append]
    simp [hend]
  have hread := linesBefore_append (.inr hbytes) stopped []
  rw [List.append_nil, hlines] at hread
  rw [hread]
  cases stopped <;> simp [linesBefore, linesAfter]

/-! ## Lock step -/

/-- Where the session is when `k` requests are answered: nothing is left unread, each line that the
program has read is the path of a request, and it goes on to read if more requests follow. -/
structure InStep (replies : List ScriptedReply) (paths : List String) (k : Nat)
    (session : GeneratorSession ScriptedGenerator) : Prop where
  ready : session.ready = true
  unread : session.unread = []
  replies : session.state.replies = replies.drop k
  requests : session.state.requests = (paths.take k).map fun path => Utf8.encode path.toList
  listening : k < paths.length → session.state.listening = true

section Step

variable {patternError? : String → Option String} {replies : List ScriptedReply}
  {paths : List String} {k : Nat} {session : GeneratorSession ScriptedGenerator}
  {reply : ScriptedReply}

/-- The program when it has replied to request `k`. -/
def InStep.replied (session : GeneratorSession ScriptedGenerator) (replies : List ScriptedReply)
    (reply : ScriptedReply) (path : String) (k : Nat) : ScriptedGenerator :=
  { session.state with
    replies := replies.drop (k + 1)
    requests := session.state.requests ++ [Utf8.encode path.toList]
    listening := !reply.isLast }

theorem InStep.send (h : InStep replies paths k session) (hk : k < paths.length)
    (hpath : '\n' ∉ paths[k].toList) (hreply : replies[k]? = some reply) :
    (ScriptedGenerator.generator patternError?).send session.state
        (GeneratorSession.requestBytes paths[k]) =
      ⟨InStep.replied session replies reply paths[k] k, reply.output, none⟩ := by
  obtain ⟨hlen, hget⟩ := List.getElem?_eq_some_iff.mp hreply
  have hreplies : session.state.replies = reply :: replies.drop (k + 1) := by
    rw [h.replies, List.drop_eq_getElem_cons hlen, hget]
  exact ScriptedGenerator.send_requestBytes (h.listening hk) hreplies hpath patternError?

theorem InStep.requests_replied (h : InStep replies paths k session) (hk : k < paths.length)
    (reply : ScriptedReply) :
    (InStep.replied session replies reply paths[k] k).requests =
      (paths.take (k + 1)).map fun path => Utf8.encode path.toList := by
  rw [List.take_succ_eq_append_getElem hk, List.map_append, ← h.requests]
  rfl

/-- One request is sent and answered, and both sides are in step again. -/
theorem InStep.succ (h : InStep replies paths k session) (hk : k < paths.length)
    (hpath : '\n' ∉ paths[k].toList) (hreply : replies[k]? = some reply)
    (hpattern : patternError? paths[k] = none) (hanswer : IsSingleAnswer reply.output)
    (hlast : k + 1 < paths.length → reply.isLast = false) :
    ∃ t, session.query (ScriptedGenerator.generator patternError?) paths[k] =
        (.ok (answerTags paths[k] (linesAfter lineFeed reply.output)), t) ∧
      InStep replies paths (k + 1) t := by
  obtain ⟨body, last, hlines, hbody, hlast', hend⟩ := hanswer
  have hread : ∀ stopped, linesBefore lineFeed stopped (session.unread ++ reply.output) =
      (body ++ [last]) ++ [] := fun stopped => by
    rw [h.unread, List.nil_append, List.append_nil, linesBefore_of_isFinished hlines hend]
  have hrest : session.unread ++ reply.output = (body ++ [last]).flatten ++ [] := by
    rw [h.unread, List.nil_append, List.append_nil, ← hlines, flatten_linesAfter]
  have hquery := GeneratorSession.query_of_answer h.ready (h.send hk hpath hreply) hpattern
    (hread _) hbody hlast' hrest
  rw [hlines]
  exact ⟨_, hquery, rfl, rfl, rfl, h.requests_replied hk reply, fun hlt => by
    simp [InStep.replied, hlast hlt]⟩

/-- Without a pattern the request is sent and its reply stays unread. -/
theorem InStep.refused (h : InStep replies paths k session) (hk : k < paths.length)
    (hpath : '\n' ∉ paths[k].toList) (hreply : replies[k]? = some reply) {reason : String}
    (hpattern : patternError? paths[k] = some reason) :
    ∃ t, session.query (ScriptedGenerator.generator patternError?) paths[k] =
        (.error (.badPattern reason), t) ∧ t.unread = reply.output ∧
      t.state.requests = (paths.take (k + 1)).map fun path => Utf8.encode path.toList := by
  refine ⟨_, GeneratorSession.query_of_patternError h.ready (h.send hk hpath hreply) hpattern, ?_,
    h.requests_replied hk reply⟩
  rw [h.unread, List.nil_append]

end Step

/-- A run over a scripted generator, without references and with an input that can be read. -/
def scriptedSetting (patternError? : String → Option String) (arguments : List String)
    (replies : List ScriptedReply) (input : List UInt8) :
    Setting (GeneratorSession ScriptedGenerator) :=
  .ofGenerator (ScriptedGenerator.generator patternError?) none (.start (.start arguments replies))
    ⟨input, none⟩

section Run

variable (patternError? : String → Option String) (arguments : List String)
  {replies : List ScriptedReply} {input : List UInt8}

/-- There is a single answer for each line of input, and the program reads on up to the last. -/
def AnswersEach (replies : List ScriptedReply) (input : List UInt8) : Prop :=
  ∀ k < (linesAfter lineFeed input).length, ∃ reply, replies[k]? = some reply ∧
    IsSingleAnswer reply.output ∧
    (k + 1 < (linesAfter lineFeed input).length → reply.isLast = false)

/-- The paths that the lines of input ask for. -/
def requestedPaths (input : List UInt8) : List String := (linesAfter lineFeed input).map requestOf

/-- The number of requests in front of the first one whose path has no pattern. -/
def answerable (patternError? : String → Option String) (input : List UInt8) : Nat :=
  (GeneratorSession.patterned (ScriptedGenerator.generator patternError?)
    (requestedPaths input)).length

theorem length_requestedPaths :
    (requestedPaths input).length = (linesAfter lineFeed input).length := List.length_map _

theorem answerable_le (input : List UInt8) :
    answerable patternError? input ≤ (linesAfter lineFeed input).length := by
  rw [← length_requestedPaths]
  exact (List.takeWhile_prefix _).length_le

theorem getElem?_requestedPaths {k : Nat} (hk : k < (linesAfter lineFeed input).length) :
    (requestedPaths input)[k]? = some (requestOf (linesAfter lineFeed input)[k]) := by
  rw [requestedPaths, List.getElem?_map, List.getElem?_eq_getElem hk]
  rfl

/-- If every path has a pattern, all requests can be answered. -/
theorem answerable_eq
    (h : ∀ line ∈ linesAfter lineFeed input, patternError? (requestOf line) = none) :
    answerable patternError? input = (linesAfter lineFeed input).length := by
  rw [← length_requestedPaths, answerable, GeneratorSession.patterned,
    List.takeWhile_eq_self_iff.mpr]
  intro path hpath
  obtain ⟨line, hline, rfl⟩ := List.mem_map.mp hpath
  exact Option.isNone_iff_eq_none.mpr (h line hline)

theorem pathAt_scriptedSetting {k : Nat} (hk : k < (linesAfter lineFeed input).length) :
    (scriptedSetting patternError? arguments replies input).pathAt k =
      requestOf (linesAfter lineFeed input)[k] := by
  rw [Setting.pathAt, List.getD_eq_getElem?_getD]
  show ((requestedPaths input)[k]?).getD "" = _
  rw [getElem?_requestedPaths hk]
  rfl

/-- What one query of the session is for the run over it. -/
theorem definitionsAt_scriptedSetting {k : Nat} (hk : k < (linesAfter lineFeed input).length)
    {result : Except GeneratorError TagSet} {t : GeneratorSession ScriptedGenerator}
    (hquery : ((scriptedSetting patternError? arguments replies input).sourceAt k).query
      (ScriptedGenerator.generator patternError?) (requestOf (linesAfter lineFeed input)[k]) =
      (result, t)) :
    (scriptedSetting patternError? arguments replies input).definitionsAt k = result ∧
      (scriptedSetting patternError? arguments replies input).sourceAt (k + 1) = t := by
  have hdefinitions : (scriptedSetting patternError? arguments replies input).service.definitions
      ((scriptedSetting patternError? arguments replies input).sourceAt k)
      ((scriptedSetting patternError? arguments replies input).pathAt k) = (result, t) := by
    rw [pathAt_scriptedSetting patternError? arguments hk]
    exact hquery
  have hk' : k < (scriptedSetting patternError? arguments replies input).paths.length := by
    rwa [← length_requestedPaths] at hk
  rw [Setting.definitionsAt, Setting.sourceAt_succ _ hk', hdefinitions]
  exact ⟨rfl, rfl⟩

/-- A request with a pattern finds both sides in step, and leaves them so. -/
theorem definitionsAt_of_inStep (h : AnswersEach replies input) {k : Nat}
    (hk : k < answerable patternError? input)
    (hstep : InStep replies (requestedPaths input) k
      ((scriptedSetting patternError? arguments replies input).sourceAt k)) :
    (∃ reply, replies[k]? = some reply ∧
      (scriptedSetting patternError? arguments replies input).definitionsAt k =
        .ok (answerTags ((scriptedSetting patternError? arguments replies input).pathAt k)
          (linesAfter lineFeed reply.output))) ∧
      InStep replies (requestedPaths input) (k + 1)
        ((scriptedSetting patternError? arguments replies input).sourceAt (k + 1)) := by
  have hlen := Nat.lt_of_lt_of_le hk (answerable_le patternError? input)
  obtain ⟨reply, hreply, hanswer, hlast⟩ := h k hlen
  have hk' : k < (requestedPaths input).length := by rwa [length_requestedPaths]
  have hget : (requestedPaths input)[k] = requestOf (linesAfter lineFeed input)[k] :=
    List.getElem_map ..
  have hpath : '\n' ∉ (requestOf (linesAfter lineFeed input)[k]).toList :=
    newline_not_mem_requestOf (List.getElem_mem hlen)
  have hpattern : patternError? (requestedPaths input)[k] = none :=
    GeneratorSession.patternError?_of_getElem? hk (List.getElem?_eq_getElem hk')
  obtain ⟨t, hquery, ht⟩ := hstep.succ hk' (by rwa [hget]) hreply hpattern hanswer
    (by rwa [length_requestedPaths])
  rw [hget] at hquery
  obtain ⟨hdefinitions, hsource⟩ :=
    definitionsAt_scriptedSetting patternError? arguments hlen hquery
  refine ⟨⟨reply, hreply, ?_⟩, by rwa [hsource]⟩
  rw [hdefinitions, pathAt_scriptedSetting patternError? arguments hlen]

theorem inStep_sourceAt (h : AnswersEach replies input) {k : Nat}
    (hk : k ≤ answerable patternError? input) :
    InStep replies (requestedPaths input) k
      ((scriptedSetting patternError? arguments replies input).sourceAt k) := by
  induction k with
  | zero => exact ⟨rfl, rfl, rfl, rfl, fun _ => rfl⟩
  | succ k ih =>
    exact (definitionsAt_of_inStep patternError? arguments h hk (ih (Nat.le_of_lt hk))).2

theorem answerAt_scriptedSetting (h : AnswersEach replies input) {k : Nat}
    (hk : k < answerable patternError? input) :
    ∃ reply, replies[k]? = some reply ∧
      (scriptedSetting patternError? arguments replies input).answerAt k =
        .ok (answerTags ((scriptedSetting patternError? arguments replies input).pathAt k)
          (linesAfter lineFeed reply.output)) := by
  have hstep := inStep_sourceAt patternError? arguments h (Nat.le_of_lt hk)
  obtain ⟨⟨reply, hreply, hdefinitions⟩, -⟩ :=
    definitionsAt_of_inStep patternError? arguments h hk hstep
  refine ⟨reply, hreply, ?_⟩
  rw [Setting.answerAt, hdefinitions]
  rfl

/-- The first request without a pattern ends the lock step: its reply is not read. -/
theorem answerAt_of_eq_answerable (h : AnswersEach replies input) {k : Nat}
    (hk : k = answerable patternError? input) (hlen : k < (linesAfter lineFeed input).length) :
    ∃ reason reply, patternError? (requestOf (linesAfter lineFeed input)[k]) = some reason ∧
      replies[k]? = some reply ∧
      (scriptedSetting patternError? arguments replies input).answerAt k =
        .error (.generator (.badPattern reason)) ∧
      ((scriptedSetting patternError? arguments replies input).sourceAt (k + 1)).unread =
        reply.output ∧
      ((scriptedSetting patternError? arguments replies input).sourceAt (k + 1)).state.requests =
        ((requestedPaths input).take (k + 1)).map fun path => Utf8.encode path.toList := by
  have hstep := inStep_sourceAt patternError? arguments h (Nat.le_of_eq hk)
  obtain ⟨reply, hreply, -⟩ := h k hlen
  obtain ⟨reason, hreason⟩ : ∃ reason,
      patternError? (requestOf (linesAfter lineFeed input)[k]) = some reason := by
    have hget : (requestedPaths input)[answerable patternError? input]? =
        some (requestOf (linesAfter lineFeed input)[k]) := by
      rw [← hk, getElem?_requestedPaths hlen]
    exact GeneratorSession.exists_patternError hget
  have hk' : k < (requestedPaths input).length := by rwa [length_requestedPaths]
  have hget : (requestedPaths input)[k] = requestOf (linesAfter lineFeed input)[k] :=
    List.getElem_map ..
  have hpath : '\n' ∉ (requestOf (linesAfter lineFeed input)[k]).toList :=
    newline_not_mem_requestOf (List.getElem_mem hlen)
  have hpattern : patternError? (requestedPaths input)[k] = some reason := by rwa [hget]
  obtain ⟨t, hquery, hunread, hrequests⟩ := hstep.refused hk' (by rwa [hget]) hreply hpattern
  rw [hget] at hquery
  obtain ⟨hdefinitions, hsource⟩ :=
    definitionsAt_scriptedSetting patternError? arguments hlen hquery
  refine ⟨reason, reply, hreason, hreply, ?_, by rw [hsource, hunread], by rw [hsource, hrequests]⟩
  rw [Setting.answerAt, hdefinitions]

/-- The batch for a line of input from the reply to it. -/
def batchFor (line : List UInt8) (reply : ScriptedReply) : List UInt8 :=
  Utf8.encode (answerTags (requestOf line) (linesAfter lineFeed reply.output)).batch.toList

/-- The batches for the lines of input, each from its own reply. -/
def batchesFor (input : List UInt8) (replies : List ScriptedReply) : List (List UInt8) :=
  List.zipWith batchFor (linesAfter lineFeed input) replies

theorem length_batchesFor (h : AnswersEach replies input) :
    (batchesFor input replies).length = (linesAfter lineFeed input).length := by
  have hlen : (linesAfter lineFeed input).length ≤ replies.length := by
    by_cases h0 : (linesAfter lineFeed input).length = 0
    · omega
    · obtain ⟨reply, hreply, -⟩ := h ((linesAfter lineFeed input).length - 1) (by omega)
      have := (List.getElem?_eq_some_iff.mp hreply).1
      omega
  rw [batchesFor, List.length_zipWith, Nat.min_eq_left hlen]

theorem batches_scriptedSetting (h : AnswersEach replies input) :
    (List.range (answerable patternError? input)).map
        (scriptedSetting patternError? arguments replies input).batchAt =
      (batchesFor input replies).take (answerable patternError? input) := by
  have hle := answerable_le patternError? input
  refine List.ext_getElem ?_ fun k hk hk' => ?_
  · rw [List.length_map, List.length_range, List.length_take, length_batchesFor h,
      Nat.min_eq_left hle]
  · have hk : k < answerable patternError? input := by simpa using hk
    have hlen := Nat.lt_of_lt_of_le hk hle
    obtain ⟨reply, hreply, hanswer⟩ := answerAt_scriptedSetting patternError? arguments h hk
    have hget := (List.getElem?_eq_some_iff.mp hreply).2
    simp [Setting.batchAt, hanswer, batchesFor, batchFor, hget,
      pathAt_scriptedSetting patternError? arguments hlen]

theorem batchesUpTo_scriptedSetting (h : AnswersEach replies input) {k : Nat}
    (hk : k ≤ answerable patternError? input) :
    (scriptedSetting patternError? arguments replies input).batchesUpTo k =
      ((batchesFor input replies).take k).flatten := by
  have htake := congrArg (·.take k) (batches_scriptedSetting patternError? arguments h)
  rw [← List.map_take, List.take_range, List.take_take, Nat.min_eq_left hk] at htake
  rw [← htake, Setting.batchesUpTo, List.flatMap_def]

theorem flushesUpTo_scriptedSetting (h : AnswersEach replies input) {k : Nat}
    (hk : k ≤ answerable patternError? input) :
    (scriptedSetting patternError? arguments replies input).flushesUpTo k =
      (List.range k).map fun i =>
        ((batchesFor input replies).take (i + 1)).flatten.length := by
  refine List.map_congr_left fun i hi => ?_
  have hi : i + 1 ≤ answerable patternError? input :=
    Nat.le_trans (Nat.succ_le_of_lt (List.mem_range.mp hi)) hk
  rw [batchesUpTo_scriptedSetting patternError? arguments h hi]

/-- If every path has a pattern, all requests are answered. -/
theorem run_of_answerable_eq (h : AnswersEach replies input)
    (hall : answerable patternError? input = (linesAfter lineFeed input).length) :
    (scriptedSetting patternError? arguments replies input).run =
      (scriptedSetting patternError? arguments replies input).runAt
        (answerable patternError? input) := by
  have hn : (scriptedSetting patternError? arguments replies input).paths.length =
      answerable patternError? input := length_requestedPaths.trans hall.symm
  rw [← hn]
  refine Setting.run_of_answered _ rfl rfl rfl fun k hk => ?_
  obtain ⟨reply, -, hanswer⟩ :=
    answerAt_scriptedSetting patternError? arguments h (by rwa [hn] at hk)
  exact ⟨_, hanswer⟩

/-- If not, the first request without a pattern ends the run. -/
theorem run_of_answerable_lt (h : AnswersEach replies input)
    (hlt : answerable patternError? input < (linesAfter lineFeed input).length) {e : Failure}
    (herror : (scriptedSetting patternError? arguments replies input).answerAt
      (answerable patternError? input) = .error e) :
    let x := scriptedSetting patternError? arguments replies input
    let n := answerable patternError? input
    x.run = ⟨some e, n, x.outputOf (x.batchesUpTo n) n, x.sourceAt (n + 1)⟩ := by
  have hn : answerable patternError? input <
      (scriptedSetting patternError? arguments replies input).paths.length := by
    rwa [← length_requestedPaths] at hlt
  refine Setting.run_of_answerAt_error _ rfl rfl hn (fun k hk => ?_) herror
  obtain ⟨reply, -, hanswer⟩ := answerAt_scriptedSetting patternError? arguments h hk
  exact ⟨_, hanswer⟩

end Run

/-- **Lock step.** Let each line of input have a single answer. The run answers the lines in order,
up to the first one that asks for a path without a pattern; if there is none, it answers them all,
and nothing is left unread. The program has read one line for each of these lines, and for the one
without a pattern: the path that the line asks for. Batch number `k` holds what reply number `k`,
and no other, reports about path number `k`. A path without a pattern ends the run with an error,
and nothing is read of the reply to it. Input lines are finished by a line feed; what is left behind
the last one is a line too. -/
theorem run_in_lock_step (patternError? : String → Option String) (arguments : List String)
    (replies : List ScriptedReply) (input : List UInt8) (h : AnswersEach replies input) :
    let lines := linesAfter lineFeed input
    let batches := batchesFor input replies
    let n := answerable patternError? input
    let run := (Service.ofGenerator (ScriptedGenerator.generator patternError?) none).run
      (.start (.start arguments replies)) ⟨input, none⟩ .unlimited
    n ≤ lines.length ∧
    ((∀ line ∈ lines, patternError? (requestOf line) = none) → n = lines.length) ∧
    lines.length = input.count lineFeed +
      (if input = [] ∨ input.getLast? = some lineFeed then 0 else 1) ∧
    run.served = n ∧
    run.source.state.requests =
      (lines.take (n + 1)).map (fun line => Utf8.encode (requestOf line).toList) ∧
    batches.length = lines.length ∧
    run.output.written = (batches.take n).flatten ∧
    run.output.flushedAt = (List.range n).map (fun k => (batches.take (k + 1)).flatten.length) ∧
    (n = lines.length → run.failure = none ∧ run.source.unread = []) ∧
    ∀ hn : n < lines.length, ∃ reason reply, patternError? (requestOf lines[n]) = some reason ∧
      run.failure = some (.generator (.badPattern reason)) ∧
      replies[n]? = some reply ∧ run.source.unread = reply.output := by
  have hwritten := batchesUpTo_scriptedSetting patternError? arguments h (Nat.le_refl _)
  have hflushed := flushesUpTo_scriptedSetting patternError? arguments h (Nat.le_refl _)
  intro lines batches n run
  refine ⟨answerable_le patternError? input, answerable_eq patternError?,
    length_linesAfter input, ?_⟩
  rcases Nat.lt_or_eq_of_le (answerable_le patternError? input) with hlt | heq
  · obtain ⟨reason, reply, hreason, hreply, herror, hunread, hrequests⟩ :=
      answerAt_of_eq_answerable patternError? arguments h rfl hlt
    have hrun : run = _ := run_of_answerable_lt patternError? arguments h hlt herror
    rw [requestedPaths, ← List.map_take, List.map_map, Function.comp_def] at hrequests
    clear_value run
    subst hrun
    exact ⟨rfl, hrequests, length_batchesFor h, hwritten, hflushed,
      fun heq => absurd heq (Nat.ne_of_lt hlt),
      fun _ => ⟨reason, reply, hreason, rfl, hreply, hunread⟩⟩
  · have hend := inStep_sourceAt patternError? arguments h (Nat.le_refl _)
    have hrequests := hend.requests
    have hrun : run = _ := run_of_answerable_eq patternError? arguments h heq
    rw [requestedPaths, ← List.map_take, List.map_map, Function.comp_def,
      List.take_of_length_le (Nat.le_of_eq heq.symm)] at hrequests
    clear_value run
    subst hrun
    refine ⟨rfl, ?_, length_batchesFor h, hwritten, hflushed, fun _ => ⟨rfl, hend.unread⟩,
      fun hlt => absurd heq (Nat.ne_of_lt hlt)⟩
    rw [List.take_of_length_le (Nat.le_succ_of_le (Nat.le_of_eq heq.symm))]
    exact hrequests

/-- Three lines of input: one with blanks behind the path, a blank one, and one without an end. -/
def threeRequests : List UInt8 := Utf8.encode "a.c \n\nb".toList

/-- Replies with a definition and bytes that are no text, with nothing, and with a line that only
looks like the last one. -/
def threeReplies : List ScriptedReply :=
  [⟨Utf8.encode "x 1 a.c int x;\n".toList ++ [0xFF, 0x0A] ++
      Utf8.encode "###terminator###\r\r\n".toList, false⟩,
    ⟨Utf8.encode "###terminator###\n".toList, false⟩,
    ⟨Utf8.encode "###terminator### \n###terminator###\n".toList, true⟩]

theorem run_in_lock_step_of_three_requests :
    AnswersEach threeReplies threeRequests ∧
    ((Service.ofGenerator (ScriptedGenerator.generator fun _ => none) none).run
      (.start (.start [] threeReplies)) ⟨threeRequests, none⟩ .unlimited).source.state.requests =
        ["a.c", "", "b"].map fun path => Utf8.encode path.toList := by
  have hanswers : ∀ reply ∈ threeReplies, IsSingleAnswer reply.output := by
    intro reply hreply
    rcases List.mem_cons.mp hreply with rfl | hreply
    · exact ⟨[Utf8.encode "x 1 a.c int x;\n".toList, [0xFF, 0x0A]],
        Utf8.encode "###terminator###\r\r\n".toList, by decide +kernel⟩
    · rcases List.mem_cons.mp hreply with rfl | hreply
      · exact ⟨[], Utf8.encode "###terminator###\n".toList, by decide +kernel⟩
      · obtain rfl := List.mem_singleton.mp hreply
        exact ⟨[Utf8.encode "###terminator### \n".toList],
          Utf8.encode "###terminator###\n".toList, by decide +kernel⟩
  have hlen : (linesAfter lineFeed threeRequests).length = threeReplies.length := by
    decide +kernel
  have h : AnswersEach threeReplies threeRequests := by
    intro k hk
    rw [hlen] at hk
    refine ⟨threeReplies[k], List.getElem?_eq_getElem hk, hanswers _ (List.getElem_mem hk), ?_⟩
    rw [hlen]
    revert k
    decide +kernel
  refine ⟨h, ?_⟩
  rw [(run_in_lock_step (fun _ => none) [] threeReplies threeRequests h).2.2.2.2.1]
  decide +kernel

/-! ## Without a pattern -/

section Alone

variable {path : String}

/-- A path is asked for by the bytes of its request, if it has no blank at its end. -/
theorem requestOf_requestBytes (h : ∀ c ∈ path.toList, isBlank c = false) :
    requestOf (GeneratorSession.requestBytes path) = path := by
  have hbytes : GeneratorSession.requestBytes path = Utf8.encode (path.toList ++ ['\n']) := by
    rw [Utf8.encode_append]
    rfl
  rw [requestOf, hbytes, Utf8.decode_encode, requestPath, trimBlankEnd, String.toList_ofList,
    trimEnd_concat_of_pos (by decide), trimEnd_eq_self h, String.ofList_toList]

/-- One request with one reply. -/
theorem answersEach_requestBytes (hpath : '\n' ∉ path.toList) {reply : ScriptedReply}
    (hreply : IsSingleAnswer reply.output) :
    AnswersEach [reply] (GeneratorSession.requestBytes path) := by
  intro k hk
  rw [ScriptedGenerator.linesAfter_requestBytes hpath, List.length_singleton] at hk ⊢
  obtain rfl : k = 0 := Nat.lt_one_iff.mp hk
  exact ⟨reply, rfl, hreply, fun h => absurd h (by decide)⟩

/-- It fails where there is no pattern for its path. -/
theorem failure_of_requestBytes {patternError? : String → Option String} {reason : String}
    (hpattern : patternError? path = some reason) (hpath : '\n' ∉ path.toList)
    (hblank : ∀ c ∈ path.toList, isBlank c = false) {reply : ScriptedReply}
    (hreply : IsSingleAnswer reply.output) :
    (scriptedSetting patternError? [] [reply] (GeneratorSession.requestBytes path)).run.failure =
      some (.generator (.badPattern reason)) := by
  have hlines := ScriptedGenerator.linesAfter_requestBytes hpath
  have hpaths : requestedPaths (GeneratorSession.requestBytes path) = [path] := by
    rw [requestedPaths, hlines, List.map_singleton, requestOf_requestBytes hblank]
  have hzero : answerable patternError? (GeneratorSession.requestBytes path) = 0 := by
    rw [answerable, hpaths, GeneratorSession.patterned, List.takeWhile_cons_of_neg]
    · rfl
    · simp [ScriptedGenerator.generator, hpattern]
  have hlt : 0 < (linesAfter lineFeed (GeneratorSession.requestBytes path)).length := by
    rw [hlines]
    exact Nat.one_pos
  have hanswers := answersEach_requestBytes hpath hreply
  obtain ⟨reason', -, hreason, -, herror, -⟩ :=
    answerAt_of_eq_answerable patternError? [] hanswers hzero.symm hlt
  have hget : requestOf (linesAfter lineFeed (GeneratorSession.requestBytes path))[0] = path := by
    simp only [hlines, List.getElem_cons_zero, requestOf_requestBytes hblank]
  rw [hget, hpattern] at hreason
  rw [← hzero] at herror hlt
  rw [run_of_answerable_lt patternError? [] hanswers hlt herror, Option.some.inj hreason]

end Alone

/-- An answer to each line is not enough. Where patterns have room for 327000 bytes of a path, one
line that asks for a path of 450000 letters makes the run fail, although it has its answer. -/
theorem run_of_long_line :
    AnswersEach [⟨GeneratorSession.emptyAnswer, false⟩]
      (GeneratorSession.requestBytes (longPath 450000)) ∧
    ((Service.ofGenerator (ScriptedGenerator.generator (patternErrorAbove 327000)) none).run
      (.start (.start [] [⟨GeneratorSession.emptyAnswer, false⟩]))
      ⟨GeneratorSession.requestBytes (longPath 450000), none⟩ .unlimited).failure ≠ none := by
  have hanswer : IsSingleAnswer GeneratorSession.emptyAnswer :=
    ⟨[], GeneratorSession.emptyAnswer, by decide +kernel⟩
  have hblank : ∀ c ∈ (longPath 450000).toList, isBlank c = false := by
    intro c hc
    rw [longPath, String.toList_ofList] at hc
    rw [List.eq_of_mem_replicate hc]
    decide
  have hpattern := patternErrorAbove_longPath (show 327000 < 450000 by omega)
  have hpath := newline_not_mem_longPath 450000
  refine ⟨answersEach_requestBytes hpath hanswer, ?_⟩
  have hfailure := failure_of_requestBytes hpattern hpath hblank
    (show IsSingleAnswer (ScriptedReply.mk GeneratorSession.emptyAnswer false).output from hanswer)
  intro hnone
  rw [scriptedSetting, Setting.run, Setting.ofGenerator] at hfailure
  rw [BatchOutput.unlimited, hfailure] at hnone
  cases hnone

end CodeTags
