import CodeTags.Proofs.Exchange
import CodeTags.Proofs.Text.Malformed
import CodeTags.Proofs.Trace

/-!
# Decoding line by line

Requests and replies are cut into lines as bytes, and each line is decoded by itself. The text is
the one that all bytes together give, because a line feed ends whatever was begun before it.

* `Utf8.map_decode_linesAfter`, `Utf8.map_decode_linesBefore`: the decoded lines are the lines of
  the decoded text.
* `Utf8.count_newline_decode`: the text has as many line feeds as the bytes.
* `requestsIn`, `TagSet.readText`: the requests on the lines of a text, and the answer on them.
* `Setting.paths_eq_requestsIn`, `readAnswer_eq_readText`: those of the decoded text.
* `Setting.asked_eq_take`: a run asks for the requests up to the one at which it ends.
* `decode_lineByLine`: all of this for any bytes.
-/

namespace CodeTags

namespace Utf8

/-! ## The decoded lines -/

/-- No bytes are passed over: the text is empty only if there are none. -/
theorem decode_ne_nil {bs : List UInt8} (h : bs ≠ []) : decode bs ≠ [] := by
  intro hnil
  have hreads := reads_decode bs
  rw [hnil] at hreads
  cases hreads
  exact h rfl

/-- The lines are decoded one by one. -/
theorem map_decode_linesAfter (bytes : List UInt8) :
    (linesAfter lineFeed bytes).map decode = linesAfter '\n' (decode bytes) := by
  induction bytes using lines_induction lineFeed with
  | nil => rfl
  | last as hmem hne =>
    rw [linesAfter_of_not_mem hmem hne, List.map_singleton,
      linesAfter_of_not_mem (mt newline_mem_decode.mp hmem) (decode_ne_nil hne)]
  | line body rest hbody ih =>
    rw [linesAfter_append_cons hbody, List.map_cons, decode_concat_lineFeed, ih,
      decode_append_lineFeed, linesAfter_append_cons (mt newline_mem_decode.mp hbody)]

theorem count_newline_decode (bytes : List UInt8) :
    (decode bytes).count '\n' = bytes.count lineFeed := by
  have hzero : ∀ {bs : List UInt8}, lineFeed ∉ bs → (decode bs).count '\n' = bs.count lineFeed := by
    intro bs h
    rw [List.count_eq_zero_of_not_mem h, List.count_eq_zero_of_not_mem (mt newline_mem_decode.mp h)]
  induction bytes using lines_induction lineFeed with
  | nil => rfl
  | last as hmem _ => exact hzero hmem
  | line body rest hbody ih =>
    rw [decode_append_lineFeed, List.count_append, List.count_append, List.count_cons_self,
      List.count_cons_self, hzero hbody, ih]

/-- A line ends with a line feed as bytes and as text. -/
theorem getLast?_decode_of_mem {bytes line : List UInt8} (h : line ∈ linesAfter lineFeed bytes) :
    (decode line).getLast? = some '\n' ↔ line.getLast? = some lineFeed := by
  obtain ⟨body, hbody, rfl | rfl⟩ := mem_linesAfter h
  · rw [decode_concat_lineFeed, List.getLast?_concat, List.getLast?_concat]
    exact iff_of_true rfl rfl
  · exact iff_of_false (fun e => hbody (newline_mem_decode.mp (List.mem_of_getLast? e)))
      (fun e => hbody (List.mem_of_getLast? e))

/-- So it is with the lines that can be read. -/
theorem map_decode_linesBefore (stopped : Bool) (bytes : List UInt8) :
    (linesBefore lineFeed stopped bytes).map decode = linesBefore '\n' stopped (decode bytes) := by
  cases stopped with
  | false => exact map_decode_linesAfter bytes
  | true =>
    unfold linesBefore
    rw [if_pos rfl, if_pos rfl, ← map_decode_linesAfter, List.filter_map]
    refine congrArg _ (List.filter_congr fun line hline => ?_)
    rw [Bool.eq_iff_iff, beq_iff_eq, Function.comp_apply, beq_iff_eq]
    exact (getLast?_decode_of_mem hline).symm

end Utf8

/-! ## Requests on the lines of a text -/

/-- The paths that the lines of a text ask for. A last line without its end is lost if reading then
fails. -/
def requestsIn (text : List Char) (failure : Option String) : List String :=
  (linesBefore '\n' failure.isSome text).map fun line => requestPath (String.ofList line)

/-- The requests behind the end of a line do not depend on those in front of it. -/
theorem requestsIn_append_newline (front back : List Char) (failure : Option String) :
    requestsIn (front ++ '\n' :: back) failure =
      requestsIn (front ++ ['\n']) none ++ requestsIn back failure := by
  rw [List.append_cons, requestsIn, linesBefore_append (.inr List.getLast?_concat),
    List.map_append]
  rfl

namespace Setting

variable {σ : Type} (x : Setting σ)

theorem paths_eq_requestsIn :
    x.paths = requestsIn (Utf8.decode x.input.bytes) x.input.failure := by
  rw [← lines_eq, requestsIn, ← Utf8.map_decode_linesBefore, List.map_map]
  rfl

/-- Whatever ends a run, by then the source was asked for the paths up to the first request that was
not answered. -/
theorem asked_eq_take : x.logged.run.source.2 = x.paths.take (x.run.served + 1) := by
  have hall : x.paths.take x.paths.length = x.paths.take (x.paths.length + 1) := by
    rw [List.take_length, List.take_of_length_le (Nat.le_succ _)]
  rw [x.logged.run_eq, x.run_eq, firstFailure?_logged]
  cases x.firstFailure? with
  | none =>
    show (x.logged.sourceAt x.paths.length).2 = x.paths.take (x.paths.length + 1)
    rw [sourceAt_logged, hall]
  | some e =>
    show (x.logged.sourceAt (x.logged.askedBy e)).2 = x.paths.take (x.answeredBefore e + 1)
    rw [sourceAt_logged]
    cases e with
    | read => exact hall
    | _ => rfl

/-- A run without a failure has answered all requests. -/
theorem served_eq_of_failure (h : x.run.failure = none) : x.run.served = x.paths.length := by
  rw [run_eq] at h ⊢
  cases hfirst : x.firstFailure? with
  | none => rfl
  | some e =>
    have hsome := x.isSome_failure_endAt (List.find?_some hfirst)
    rw [hfirst] at h
    rw [show (x.endAt e).failure = none from h] at hsome
    cases hsome

end Setting

/-! ## Answers on the lines of a text -/

/-- Reads lines of a text up to the terminator: the definitions that they report. -/
def TagSet.readText (s : TagSet) : List (List Char) → Option TagSet
  | [] => none
  | line :: lines =>
    let reply := String.ofList (lineContent line)
    if reply = terminator then some s
    else
      readText ((Definition.parse? s.path reply).toList.foldl TagSet.insertDefinition s) lines

theorem readAnswer_eq_readText (s : TagSet) (lines : List (List UInt8)) :
    (readAnswer s lines).map Prod.fst = s.readText (lines.map Utf8.decode) := by
  induction lines generalizing s with
  | nil => rfl
  | cons line lines ih =>
    rw [readAnswer, List.map_cons, TagSet.readText]
    by_cases hend : replyText line = terminator
    · rw [isTerminator, if_pos (beq_iff_eq.mpr hend)]
      exact (if_pos hend).symm
    · rw [isTerminator, if_neg (mt beq_iff_eq.mp hend), ih, insertReply_of_parse?]
      exact (if_neg hend).symm

theorem receive_eq_readText {τ : Type} (behind : Option PipeStop) (session : GeneratorSession τ)
    (path : String) :
    (session.receive behind path).1 =
      match TagSet.readText (.empty path)
        (linesBefore '\n' behind.isSome (Utf8.decode session.unread)) with
      | some tags => .ok tags
      | none => .error (.atEnd path behind) := by
  rw [← Utf8.map_decode_linesBefore, ← readAnswer_eq_readText, GeneratorSession.receive]
  cases readAnswer (.empty path) (linesBefore lineFeed behind.isSome session.unread) <;> rfl

/-- **Decoding line by line.** Any bytes are read as the one text in which each longest piece that
begins a character and cannot go on is replaced, and each byte that begins none. The lines of this
text are the lines of the bytes, decoded one by one, so put together they are the text of all bytes
at once; it has the line feeds of the bytes, and is the text that was encoded if one was. What a
line holds changes neither the text of the others nor their requests. As input, the bytes ask for
the trimmed lines of this text: a run asks for them in order, up to the first request that is not
answered, and for all of them if nothing fails. As output of the generator, they answer with what
the lines of this text report, up to the terminator; if the output does not end behind them but
reading stops, without a last line that has no end. -/
theorem decode_lineByLine {σ τ : Type} (bytes : List UInt8) (service : Service σ) (source : σ)
    (failure : Option String) (room flushes : Option Nat) (state : τ) (path : String) :
    let text := Utf8.decode bytes
    let x : Setting σ := ⟨service, source, ⟨bytes, failure⟩, room, flushes⟩
    let session : GeneratorSession τ := ⟨state, bytes, true⟩
    (∀ cs, Utf8.Reads bytes cs ↔ text = cs) ∧
    (linesAfter lineFeed bytes).map Utf8.decode = linesAfter '\n' text ∧
    ((linesAfter lineFeed bytes).map Utf8.decode).flatten = text ∧
    text.count '\n' = bytes.count lineFeed ∧
    (∀ cs, ((linesAfter lineFeed (Utf8.encode cs)).map Utf8.decode).flatten = cs) ∧
    (∀ front line back,
      Utf8.decode (front ++ lineFeed :: (line ++ lineFeed :: back)) =
        Utf8.decode front ++ '\n' :: (Utf8.decode line ++ '\n' :: Utf8.decode back) ∧
      requestsIn (Utf8.decode (front ++ lineFeed :: (line ++ lineFeed :: back))) failure =
        requestsIn (Utf8.decode front ++ ['\n']) none ++
          (requestsIn (Utf8.decode line ++ ['\n']) none ++
            requestsIn (Utf8.decode back) failure)) ∧
    x.logged.run.source.2 = (requestsIn text failure).take (x.run.served + 1) ∧
    (x.run.failure = none → x.logged.run.source.2 = requestsIn text failure) ∧
    (session.receive none path).1 =
      (match TagSet.readText (.empty path) (linesAfter '\n' text) with
      | some tags => .ok tags
      | none => .error (.exited path)) ∧
    ∀ stop : PipeStop, (session.receive (some stop) path).1 =
      match TagSet.readText (.empty path)
        ((linesAfter '\n' text).filter (·.getLast? == some '\n')) with
      | some tags => .ok tags
      | none => .error stop.error := by
  intro text x session
  have hpaths : x.paths = requestsIn text failure := x.paths_eq_requestsIn
  have hasked : x.logged.run.source.2 = (requestsIn text failure).take (x.run.served + 1) := by
    rw [x.asked_eq_take, hpaths]
  have hflatten : ∀ bs, ((linesAfter lineFeed bs).map Utf8.decode).flatten = Utf8.decode bs :=
    fun bs => by rw [Utf8.map_decode_linesAfter, flatten_linesAfter]
  refine ⟨fun cs => Utf8.reads_iff, Utf8.map_decode_linesAfter bytes, hflatten bytes,
    Utf8.count_newline_decode bytes, fun cs => by rw [hflatten, Utf8.decode_encode],
    fun front line back => ?_, hasked, fun hnone => ?_, receive_eq_readText none session path,
    fun stop => receive_eq_readText (some stop) session path⟩
  · have htext : Utf8.decode (front ++ lineFeed :: (line ++ lineFeed :: back)) =
        Utf8.decode front ++ '\n' :: (Utf8.decode line ++ '\n' :: Utf8.decode back) := by
      rw [Utf8.decode_append_lineFeed, Utf8.decode_append_lineFeed]
    exact ⟨htext, by
      rw [htext, requestsIn_append_newline, requestsIn_append_newline (Utf8.decode line)]⟩
  · rw [hasked, x.served_eq_of_failure hnone, hpaths, List.take_of_length_le (Nat.le_succ _)]

/-- A line with a byte that is in no text, and one behind it. -/
theorem decode_lineByLine_of_stray_byte :
    let bytes : List UInt8 := [97, 0xFF, lineFeed, 98, lineFeed]
    let x : Setting RequestLog := ⟨⟨definitionTable [], none⟩, [], ⟨bytes, none⟩, none, none⟩
    x.run.failure = none ∧ x.logged.run.source.2 = ["a\uFFFD", "b"] := by
  intro bytes x
  have hnone : x.run.failure = none := by decide +kernel
  obtain ⟨-, -, -, -, -, -, -, hasked, -⟩ :=
    decode_lineByLine bytes x.service x.source none none none () ""
  exact ⟨hnone, (hasked hnone).trans (by decide +kernel)⟩

end CodeTags
