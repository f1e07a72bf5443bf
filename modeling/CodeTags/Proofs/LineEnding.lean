import CodeTags.Proofs.Bridge
import CodeTags.Proofs.Continuation
import CodeTags.Proofs.Session.Failure

/-!
# Both ends of lines

Some programs end lines with a carriage return and a line feed. It makes no difference which way the
requests end, nor which way the tag generator ends the lines of its output.

* `LineEnding.write`: bytes with other ends of lines. They have the same lines
  (`LineEnding.linesAfter_write`), which ask for the same paths (`requestOf_write`) and hold the
  same replies (`replyText_write`).
* `Generator.withEnding`, `GeneratorSession.withEnding`, `RequestInput.withEnding`: both sides with
  other ends of lines.
* `GeneratorSession.query_withEnding`: one query gives the same.
* `Service.transcribed`: what the definition source was asked and what it answered.
* `run_withEnding`: all requests of an input.
-/

namespace CodeTags

/-- The byte that stands in front of the line feed in an end of two bytes. -/
def carriageReturn : UInt8 := 13

/-- The ways to end a line. -/
inductive LineEnding where
  | lf
  | crlf
deriving DecidableEq, Repr

namespace LineEnding

/-- What stands in front of the line feed. -/
def front : LineEnding → List UInt8
  | lf => []
  | crlf => [carriageReturn]

/-- The bytes with this end in the place of every line feed. -/
def write (ending : LineEnding) (bytes : List UInt8) : List UInt8 :=
  bytes.flatMap fun b => if b = lineFeed then ending.front ++ [lineFeed] else [b]

variable (ending : LineEnding)

/-! ## Lines -/

theorem eq_of_mem_front {b : UInt8} (h : b ∈ ending.front) : b = carriageReturn := by
  cases ending with
  | lf => exact absurd h List.not_mem_nil
  | crlf => exact List.mem_singleton.mp h

@[simp] theorem write_append (bytes bytes' : List UInt8) :
    ending.write (bytes ++ bytes') = ending.write bytes ++ ending.write bytes' :=
  List.flatMap_append

theorem write_flatten (lines : List (List UInt8)) :
    ending.write lines.flatten = (lines.map ending.write).flatten := by
  induction lines with
  | nil => rfl
  | cons line lines ih => rw [List.flatten_cons, write_append, ih, List.map_cons, List.flatten_cons]

theorem write_of_not_mem {bytes : List UInt8} (h : lineFeed ∉ bytes) :
    ending.write bytes = bytes := flatMap_of_not_mem h _

theorem write_lineFeed : ending.write [lineFeed] = ending.front ++ [lineFeed] := by
  simp [write]

/-- Only the end of a line is written anew. -/
theorem write_line {body : List UInt8} (h : lineFeed ∉ body) :
    ending.write (body ++ [lineFeed]) = body ++ ending.front ++ [lineFeed] := by
  rw [write_append, write_of_not_mem ending h, write_lineFeed, List.append_assoc]

theorem getLast?_write (bytes : List UInt8) : (ending.write bytes).getLast? = bytes.getLast? := by
  rcases List.eq_nil_or_concat bytes with rfl | ⟨bytes, b, rfl⟩
  · rfl
  · rw [List.concat_eq_append, write_append]
    by_cases hb : b = lineFeed
    · rw [hb, write_lineFeed, ← List.append_assoc]
      simp
    · have hwrite : ending.write [b] = [b] :=
        ending.write_of_not_mem fun hmem => hb (List.mem_singleton.mp hmem).symm
      rw [hwrite]
      simp

/-- The lines are the same but for their ends. -/
theorem linesAfter_write (bytes : List UInt8) :
    linesAfter lineFeed (ending.write bytes) = (linesAfter lineFeed bytes).map ending.write := by
  induction bytes using lines_induction lineFeed with
  | nil => rfl
  | last bytes hmem hne =>
    rw [write_of_not_mem ending hmem, linesAfter_of_not_mem hmem hne, List.map_singleton,
      write_of_not_mem ending hmem]
  | line body rest hbody ih =>
    have hfront : lineFeed ∉ body ++ ending.front := fun hmem =>
      (List.mem_append.mp hmem).elim hbody fun hmem =>
        absurd (ending.eq_of_mem_front hmem) (by decide)
    have hsplit : body ++ lineFeed :: rest = body ++ [lineFeed] ++ rest := by simp
    rw [linesAfter_append_cons hbody, List.map_cons, ← ih, hsplit, write_append,
      write_line ending hbody, List.append_assoc, List.singleton_append,
      linesAfter_append_cons hfront]

/-- So are those that can be read. -/
theorem linesBefore_write (stopped : Bool) (bytes : List UInt8) :
    linesBefore lineFeed stopped (ending.write bytes) =
      (linesBefore lineFeed stopped bytes).map ending.write := by
  unfold linesBefore
  rw [linesAfter_write]
  cases stopped with
  | false => rfl
  | true =>
    rw [if_pos rfl, if_pos rfl, List.filter_map]
    simp only [Function.comp_def, getLast?_write]

/-- What is behind them is written anew by itself. -/
theorem drop_write {lines : List (List UInt8)} {bytes rest : List UInt8}
    (h : lines.flatten ++ rest = bytes) :
    (ending.write bytes).drop (lines.map ending.write).flatten.length = ending.write rest := by
  rw [← h, write_append, write_flatten, List.drop_left]

/-- The text of a line has carriage returns in front of its end, and is the same otherwise. -/
theorem exists_decode_write (body : List UInt8) (h : lineFeed ∉ body) :
    ∃ returns, (∀ c ∈ returns, c = '\r') ∧
      Utf8.decode (ending.write (body ++ [lineFeed])) = Utf8.decode body ++ returns ++ ['\n'] := by
  rw [write_line ending h, Utf8.decode_concat_lineFeed]
  cases ending with
  | lf => exact ⟨[], by simp, by simp [front]⟩
  | crlf =>
    refine ⟨['\r'], by simp, ?_⟩
    rw [front, Utf8.decode_append_cons_of_lt (by decide)]
    rfl

end LineEnding

/-! ## Requests and replies -/

section Lines

variable (ending : LineEnding) {bytes line : List UInt8}

/-- A line asks for the same path whichever way it ends. -/
theorem requestOf_write (h : line ∈ linesAfter lineFeed bytes) :
    requestOf (ending.write line) = requestOf line := by
  obtain ⟨body, hbody, rfl | rfl⟩ := mem_linesAfter h
  · obtain ⟨returns, hreturns, hdecode⟩ := ending.exists_decode_write body hbody
    have hblank : ∀ c ∈ returns, isBlank c = true := fun c hc => hreturns c hc ▸ isBlank_return
    unfold requestOf requestPath trimBlankEnd
    rw [hdecode, Utf8.decode_concat_lineFeed, String.toList_ofList, String.toList_ofList,
      trimEnd_concat_of_pos isBlank_newline, trimEnd_concat_of_pos isBlank_newline,
      trimEnd_append_of_forall hblank]
  · rw [ending.write_of_not_mem hbody]

/-- A line of output has the same text whichever way it ends. -/
theorem replyText_write (h : line ∈ linesAfter lineFeed bytes) :
    replyText (ending.write line) = replyText line := by
  obtain ⟨body, hbody, rfl | rfl⟩ := mem_linesAfter h
  · obtain ⟨returns, hreturns, hdecode⟩ := ending.exists_decode_write body hbody
    have hnewline : '\n' ∉ Utf8.decode body := mt Utf8.newline_mem_decode.mp hbody
    have hfront : '\n' ∉ Utf8.decode body ++ returns := fun hmem =>
      (List.mem_append.mp hmem).elim hnewline fun hmem => absurd (hreturns _ hmem) (by decide)
    unfold replyText
    rw [hdecode, Utf8.decode_concat_lineFeed, lineContent_concat hfront,
      lineContent_concat hnewline,
      -- Carriage returns that the line had before go with the new one.
      trimEnd_append_of_forall fun c hc => beq_iff_eq.mpr (hreturns c hc)]
  · rw [ending.write_of_not_mem hbody]

end Lines

/-- An answer depends on the texts of its lines alone. -/
theorem readAnswer_map {f : List UInt8 → List UInt8} {lines : List (List UInt8)}
    (h : ∀ line ∈ lines, replyText (f line) = replyText line) (s : TagSet) :
    readAnswer s (lines.map f) = (readAnswer s lines).map fun r => (r.1, r.2.map f) := by
  induction lines generalizing s with
  | nil => rfl
  | cons line lines ih =>
    have hline : replyText (f line) = replyText line := h line List.mem_cons_self
    have hend : isTerminator (f line) = isTerminator line := by
      rw [isTerminator, isTerminator, hline]
    have htags : s.insertReply (f line) = s.insertReply line := by
      rw [TagSet.insertReply, TagSet.insertReply, hline]
    rw [List.map_cons, readAnswer, readAnswer, hend, htags,
      ih fun l hl => h l (List.mem_cons_of_mem _ hl)]
    split <;> rfl

/-! ## Sessions -/

variable {σ : Type}

/-- A generator that ends the lines of its output in this way. -/
def Generator.withEnding (ending : LineEnding) (g : Generator σ) : Generator σ :=
  { g with
    send s bytes :=
      let sent := g.send s bytes
      { sent with output := ending.write sent.output } }

/-- It takes the same bytes. -/
theorem Generator.recorded_withEnding (ending : LineEnding) (g : Generator σ) :
    (g.withEnding ending).recorded = g.recorded.withEnding ending := rfl

namespace GeneratorSession

/-- The session with these ends in the output that is not yet read. -/
def withEnding (ending : LineEnding) (s : GeneratorSession σ) : GeneratorSession σ :=
  { s with unread := ending.write s.unread }

/-- The session with a record of the bytes that its generator has taken, which are none. -/
def withRecord (s : GeneratorSession σ) : GeneratorSession (σ × List UInt8) :=
  ⟨(s.state, []), s.unread, s.ready⟩

theorem afterSend_withEnding (ending : LineEnding) (s : GeneratorSession σ) (sent : Sent σ) :
    (s.withEnding ending).afterSend { sent with output := ending.write sent.output } =
      (s.afterSend sent).withEnding ending := by
  simp [afterSend, withEnding]

theorem receive_withEnding (ending : LineEnding) (behind : Option PipeStop)
    (s : GeneratorSession σ) (path : String) :
    (s.withEnding ending).receive behind path =
      ((s.receive behind path).1, (s.receive behind path).2.withEnding ending) := by
  have hread : readAnswer (.empty path)
      ((linesBefore lineFeed behind.isSome s.unread).map ending.write) =
        (readAnswer (.empty path) (linesBefore lineFeed behind.isSome s.unread)).map
          fun r => (r.1, r.2.map ending.write) :=
    readAnswer_map (fun line hline =>
      replyText_write ending (mem_linesAfter_of_mem_linesBefore hline)) _
  have hrest := ending.drop_write (flatten_linesBefore_append lineFeed behind.isSome s.unread)
  unfold receive withEnding
  dsimp only
  rw [ending.linesBefore_write, hread, hrest]
  cases readAnswer (.empty path) (linesBefore lineFeed behind.isSome s.unread) with
  | none => rfl
  | some r => simp [ending.write_flatten]

theorem exchange_withEnding (ending : LineEnding) (g : Generator σ) (s : GeneratorSession σ)
    (path : String) :
    (s.withEnding ending).exchange (g.withEnding ending) path =
      ((s.exchange g path).1, (s.exchange g path).2.withEnding ending) := by
  have hsent := afterSend_withEnding ending s (g.send s.state (requestBytes path))
  unfold exchange
  dsimp only [Generator.withEnding]
  rw [show (s.withEnding ending).state = s.state from rfl, hsent]
  cases (g.send s.state (requestBytes path)).stop with
  | some stop => rfl
  | none =>
    cases g.patternError? path with
    | some reason => rfl
    | none => exact receive_withEnding ending _ _ path

/-- A query gives the same whichever way the lines of the generator end. -/
theorem query_withEnding (ending : LineEnding) (g : Generator σ) (s : GeneratorSession σ)
    (path : String) :
    (s.withEnding ending).query (g.withEnding ending) path =
      ((s.query g path).1, (s.query g path).2.withEnding ending) := by
  unfold query
  rw [exchange_withEnding]
  show (if s.ready = true then _ else _) = _
  split
  · cases s.exchange g path with
    | mk result t => cases result <;> rfl
  · rfl

end GeneratorSession

/-! ## Runs -/

/-- The input with these ends. -/
def RequestInput.withEnding (ending : LineEnding) (input : RequestInput) : RequestInput :=
  { input with bytes := ending.write input.bytes }

/-- The lines that can be read ask for the same paths. -/
theorem RequestInput.requests_withEnding (ending : LineEnding) (input : RequestInput) :
    (input.withEnding ending).lines.map requestOf = input.lines.map requestOf := by
  have hlines : (input.withEnding ending).lines = input.lines.map ending.write :=
    ending.linesBefore_write _ _
  rw [hlines, List.map_map]
  exact List.map_congr_left fun line hline =>
    requestOf_write ending (mem_linesAfter_of_mem_linesBefore hline)

namespace Service

/-- The same service with a source that also writes down what it is asked and what it answers. -/
def transcribed (service : Service σ) :
    Service (σ × List (String × Except GeneratorError TagSet)) where
  definitions s path :=
    let r := service.definitions s.1 path
    (r.1, r.2, s.2 ++ [(path, r.1)])
  references := service.references

/-- A run depends on the paths that are asked for and on how the input ends. -/
theorem run_congr {input input' : RequestInput}
    (hrequests : input'.lines.map requestOf = input.lines.map requestOf)
    (hfailure : input'.failure = input.failure) (service : Service σ) (source : σ)
    (output : BatchOutput) :
    service.run source input' output = service.run source input output := by
  unfold run
  rw [hrequests, hfailure]

/-- The run is the same but for the output of the generator that is not yet read. -/
theorem run_ofGenerator_withEnding (ending ending' : LineEnding) (g : Generator σ)
    (scanner : Option Scanner) (session : GeneratorSession σ) (input : RequestInput)
    (output : BatchOutput) :
    (ofGenerator (g.withEnding ending') scanner).run (session.withEnding ending')
        (input.withEnding ending) output =
      ((ofGenerator g scanner).run session input output).mapSource (·.withEnding ending') := by
  rw [run_congr (input.requests_withEnding ending) rfl]
  exact run_mapSource (ofGenerator g scanner) (ofGenerator (g.withEnding ending') scanner)
    (·.withEnding ending') rfl (fun s path => s.query_withEnding ending' g path) session input
    output

/-- The source is asked the same and answers the same. -/
theorem transcript_withEnding (ending ending' : LineEnding) (g : Generator σ)
    (scanner : Option Scanner) (session : GeneratorSession σ) (input : RequestInput)
    (output : BatchOutput) :
    ((ofGenerator (g.withEnding ending') scanner).transcribed.run (session.withEnding ending', [])
        (input.withEnding ending) output).source.2 =
      ((ofGenerator g scanner).transcribed.run (session, []) input output).source.2 := by
  rw [run_congr (input.requests_withEnding ending) rfl]
  have hmap := run_mapSource (ofGenerator g scanner).transcribed
    (ofGenerator (g.withEnding ending') scanner).transcribed
    (fun s => (s.1.withEnding ending', s.2)) rfl (fun s path => ?_) (session, []) input output
  · exact congrArg (·.source.2) hmap
  · simp only [transcribed, ofGenerator, GeneratorSession.query_withEnding]

end Service

/-- **Ends of lines.** Whichever way the lines of the input end, and whichever way those of the tag
generator, a run comes to the same: the failure, the number of requests, the output and its flushes.
The generator is asked for the same paths and gives the same answers or errors, takes the same
bytes, and is left in the same state. Bytes may be no text, lines may end with carriage returns
already, and the last ones may have no end. -/
theorem run_withEnding (ending ending' : LineEnding) (g : Generator σ) (scanner : Option Scanner)
    (session : GeneratorSession σ) (input : RequestInput) (output : BatchOutput) :
    let service := Service.ofGenerator g scanner
    let service' := Service.ofGenerator (g.withEnding ending') scanner
    let run := service.run session input output
    let run' := service'.run (session.withEnding ending') (input.withEnding ending) output
    run'.failure = run.failure ∧ run'.served = run.served ∧ run'.output = run.output ∧
    run'.source = run.source.withEnding ending' ∧
    (service'.transcribed.run (session.withEnding ending', []) (input.withEnding ending)
        output).source.2 =
      (service.transcribed.run (session, []) input output).source.2 ∧
    ((Service.ofGenerator (g.withEnding ending').recorded scanner).run
        (session.withEnding ending').withRecord (input.withEnding ending) output).source.state.2 =
      ((Service.ofGenerator g.recorded scanner).run session.withRecord input
        output).source.state.2 := by
  intro service service' run run'
  have hrun : run' = run.mapSource (·.withEnding ending') :=
    Service.run_ofGenerator_withEnding ending ending' g scanner session input output
  have hrecorded := Service.run_ofGenerator_withEnding ending ending' g.recorded scanner
    session.withRecord input output
  refine ⟨congrArg (·.failure) hrun, congrArg (·.served) hrun, congrArg (·.output) hrun,
    congrArg (·.source) hrun,
    Service.transcript_withEnding ending ending' g scanner session input output, ?_⟩
  rw [Generator.recorded_withEnding]
  exact congrArg (·.source.state.2) hrecorded

end CodeTags
