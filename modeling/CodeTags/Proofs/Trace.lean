import CodeTags.DefinitionTable
import CodeTags.Proofs.Text.Lines

/-!
# The trace of a run

What a run of the service leaves behind when any part of it can fail: the input, the definition
source, the reference scan, and the output with its flushes.

* `Setting`: all that a run depends on. `Setting.batchAt` is the batch of each request, whatever
  becomes of the run.
* `Event`: what is tried in turn, and `Setting.failureOf`: why it fails, if it does.
* `handle_runAt`: one request ends at its first event that fails, or is answered.
* `run_eq`: so does the whole run.
* `run_trace`: what that means for the output, the flushes, the requests and the error.
-/

namespace CodeTags

/-- All that a run depends on: the service, its definition source at the start, the input, and the
numbers of bytes and of flushes that the output takes. -/
structure Setting (σ : Type) where
  service : Service σ
  source : σ
  input : RequestInput
  room : Option Nat
  flushes : Option Nat

/-- What is tried in the course of a run. Requests are counted from 0. -/
inductive Event where
  | query (k : Nat)
  | scan (k : Nat)
  | write (k : Nat)
  | flush (k : Nat)
  | read
deriving DecidableEq, Repr

/-- What is tried for one request. -/
def Event.ofRequest (k : Nat) : List Event := [.query k, .scan k, .write k, .flush k]

theorem Event.mem_ofRequest {e : Event} {k : Nat} :
    e ∈ Event.ofRequest k ↔ e = .query k ∨ e = .scan k ∨ e = .write k ∨ e = .flush k := by
  simp [Event.ofRequest]

namespace Setting

variable {σ : Type} (x : Setting σ)

/-- The run. -/
def run : Run σ := x.service.run x.source x.input (.start x.room x.flushes)

/-! ## Requests -/

/-- The bytes that come to be lines. If reading fails, they end with the last line feed. -/
def readable : List UInt8 :=
  if x.input.failure.isSome then trimEnd (· != lineFeed) x.input.bytes else x.input.bytes

/-- The paths that the lines ask for. -/
def paths : List String := (linesAfter lineFeed x.readable).map requestOf

/-- The path of request `k`. -/
def pathAt (k : Nat) : String := x.paths.getD k ""

/-- The definition source after it was asked for the first `k` paths, once each and in order. -/
def sourceAt (k : Nat) : σ :=
  (x.paths.take k).foldl (fun source path => (x.service.definitions source path).2) x.source

/-- What the source says to request `k`. -/
def definitionsAt (k : Nat) : Except GeneratorError TagSet :=
  (x.service.definitions (x.sourceAt k) (x.pathAt k)).1

/-- What the scan says to request `k`; nothing is scanned if no references are wanted. -/
def referencesAt (k : Nat) : Except GrammarError (Option TagSet) :=
  match x.service.references with
  | none => .ok none
  | some scan => (scan (x.pathAt k)).map some

/-- The answer to request `k`. -/
def answerAt (k : Nat) : Except Failure TagSet :=
  match x.definitionsAt k, x.referencesAt k with
  | .error e, _ => .error (.generator e)
  | .ok _, .error e => .error (.grammar e)
  | .ok tags, .ok none => .ok tags
  | .ok tags, .ok (some references) => .ok (tags.merge references)

/-- The bytes of the batch for request `k`, if it has an answer. -/
def batchAt (k : Nat) : List UInt8 :=
  match x.answerAt k with
  | .ok tags => Utf8.encode tags.batch.toList
  | .error _ => []

/-- The batches of the first `k` requests. -/
def batchesUpTo (k : Nat) : List UInt8 := (List.range k).flatMap x.batchAt

/-! ## Events -/

/-- Why an event fails when nothing before it does. -/
def failureOf : Event → Option Failure
  | .query k =>
    match x.definitionsAt k with
    | .error e => some (.generator e)
    | .ok _ => none
  | .scan k =>
    match x.referencesAt k with
    | .error e => some (.grammar e)
    | .ok _ => none
  | .write k =>
    if x.room.any (· < (x.batchesUpTo (k + 1)).length) then some (.channel "write failed")
    else none
  | .flush k => if x.flushes.any (· ≤ k) then some (.channel "flush failed") else none
  | .read => x.input.failure.map .channel

/-- The event fails. -/
def fails (e : Event) : Bool := (x.failureOf e).isSome

/-- Everything that is tried, in order. -/
def events : List Event := (List.range x.paths.length).flatMap Event.ofRequest ++ [.read]

/-- The first event that fails. -/
def firstFailure? : Option Event := x.events.find? x.fails

/-- The number of requests that are answered when an event comes. -/
def answeredBefore : Event → Nat
  | .query k | .scan k | .write k | .flush k => k
  | .read => x.paths.length

/-- The number of requests that the source was asked when an event comes. -/
def askedBy : Event → Nat
  | .query k | .scan k | .write k | .flush k => k + 1
  | .read => x.paths.length

/-- The bytes of batch `k` that fit behind those before it. -/
def fitting (k : Nat) : List UInt8 :=
  match x.room with
  | none => x.batchAt k
  | some room => (x.batchAt k).take (room - (x.batchesUpTo k).length)

/-- The output after an event that fails. -/
def writtenAt : Event → List UInt8
  | .query k | .scan k => x.batchesUpTo k
  | .write k => x.batchesUpTo k ++ x.fitting k
  | .flush k => x.batchesUpTo (k + 1)
  | .read => x.batchesUpTo x.paths.length

/-- The places of the flushes after the first `k` batches. -/
def flushesUpTo (k : Nat) : List Nat :=
  (List.range k).map fun i => (x.batchesUpTo (i + 1)).length

/-- The output when `k` batches were flushed and these bytes were written. -/
def outputOf (written : List UInt8) (k : Nat) : BatchOutput :=
  ⟨written, x.flushesUpTo k, x.room.map (· - written.length), x.flushes.map (· - k)⟩

/-- The run when `k` requests are answered. -/
def runAt (k : Nat) : Run σ := ⟨none, k, x.outputOf (x.batchesUpTo k) k, x.sourceAt k⟩

/-- The run when an event fails. -/
def endAt (e : Event) : Run σ :=
  ⟨x.failureOf e, x.answeredBefore e, x.outputOf (x.writtenAt e) (x.answeredBefore e),
    x.sourceAt (x.askedBy e)⟩

/-! ## One request -/

theorem sourceAt_succ {k : Nat} (h : k < x.paths.length) :
    x.sourceAt (k + 1) = (x.service.definitions (x.sourceAt k) (x.pathAt k)).2 := by
  have hp : x.pathAt k = x.paths[k] := by simp [pathAt, h]
  rw [sourceAt, List.take_succ_eq_append_getElem h, List.foldl_append, hp]
  rfl

theorem batchesUpTo_succ (k : Nat) :
    x.batchesUpTo (k + 1) = x.batchesUpTo k ++ x.batchAt k := by
  simp [batchesUpTo, List.range_succ]

theorem flushesUpTo_succ (k : Nat) :
    x.flushesUpTo (k + 1) = x.flushesUpTo k ++ [(x.batchesUpTo (k + 1)).length] := by
  simp [flushesUpTo, List.range_succ]

/-- A batch has at least the line that ends it. -/
theorem encode_batch_length_pos (tags : TagSet) :
    0 < (Utf8.encode tags.batch.toList).length := by
  have h : (Utf8.encode tags.batch.toList).length ≠ 0 := by
    rw [TagSet.batch, Ne, List.length_eq_zero_iff, Utf8.encode, List.flatMap_eq_nil_iff]
    intro h
    exact absurd (h '\n' (by simp)) (by decide)
  omega

/-- The service gives the answer, and has asked the source once more. -/
theorem answer_eq {k : Nat} (h : k < x.paths.length) :
    x.service.answer (x.sourceAt k) (x.pathAt k) = (x.answerAt k, x.sourceAt (k + 1)) := by
  rw [x.sourceAt_succ h]
  unfold Service.answer Service.addReferences answerAt definitionsAt referencesAt
  rcases x.service.definitions (x.sourceAt k) (x.pathAt k) with ⟨definitions, source⟩
  cases definitions with
  | error e => rfl
  | ok tags =>
    cases hr : x.service.references with
    | none => rfl
    | some scan => cases hs : scan (x.pathAt k) <;> simp [hs, Except.map]

/-- An answer is missing because of the query or else of the scan. -/
theorem find?_of_answerAt_error {k : Nat} {e : Failure} (h : x.answerAt k = .error e) :
    ∃ event, (Event.ofRequest k).find? x.fails = some event ∧ x.failureOf event = some e ∧
      x.writtenAt event = x.batchesUpTo k ∧ x.answeredBefore event = k ∧
      x.askedBy event = k + 1 := by
  unfold answerAt at h
  cases hd : x.definitionsAt k with
  | error e' =>
    rw [hd] at h
    obtain rfl := Except.error.inj h
    exact ⟨.query k, by simp [Event.ofRequest, fails, failureOf, hd], by simp [failureOf, hd],
      rfl, rfl, rfl⟩
  | ok tags =>
    cases hr : x.referencesAt k with
    | error e' =>
      rw [hd, hr] at h
      obtain rfl := Except.error.inj h
      exact ⟨.scan k, by simp [Event.ofRequest, fails, failureOf, hd, hr], by simp [failureOf, hr],
        rfl, rfl, rfl⟩
    | ok references => cases references <;> simp [hd, hr] at h

theorem not_fails_of_answerAt_ok {k : Nat} {tags : TagSet} (h : x.answerAt k = .ok tags) :
    x.fails (.query k) = false ∧ x.fails (.scan k) = false := by
  unfold answerAt at h
  cases hd : x.definitionsAt k with
  | error e => simp [hd] at h
  | ok _ =>
    cases hr : x.referencesAt k with
    | error e => simp [hd, hr] at h
    | ok _ => simp [fails, failureOf, hd, hr]

@[simp] theorem fails_write (k : Nat) :
    x.fails (.write k) = x.room.any (· < (x.batchesUpTo (k + 1)).length) := by
  simp only [fails, failureOf]
  split <;> simp_all

@[simp] theorem fails_flush (k : Nat) : x.fails (.flush k) = x.flushes.any (· ≤ k) := by
  simp only [fails, failureOf]
  split <;> simp_all

/-- Writing batch `k` behind those before it. -/
theorem write_outputOf {k : Nat} {tags : TagSet} (h : x.answerAt k = .ok tags) :
    (x.outputOf (x.batchesUpTo k) k).write (x.batchAt k) =
      (if x.fails (.write k) then some "write failed" else none,
        x.outputOf (x.batchesUpTo k ++ x.fitting k) k) := by
  have hpos : 0 < (x.batchAt k).length := by
    rw [batchAt, h]; exact encode_batch_length_pos tags
  rw [fails_write, batchesUpTo_succ]
  cases hroom : x.room with
  | none => simp [BatchOutput.write, BatchOutput.taken, outputOf, fitting, hroom]
  | some room =>
    have hfit : min (x.batchAt k).length (room - (x.batchesUpTo k).length) =
        (x.batchAt k).length ↔
        ¬room < (x.batchesUpTo k).length + (x.batchAt k).length := by omega
    have hroom' : room - (x.batchesUpTo k).length -
        min (x.batchAt k).length (room - (x.batchesUpTo k).length) =
        room - ((x.batchesUpTo k).length +
          min (room - (x.batchesUpTo k).length) (x.batchAt k).length) := by omega
    have htake : (x.batchAt k).take
        (min (x.batchAt k).length (room - (x.batchesUpTo k).length)) =
        (x.batchAt k).take (room - (x.batchesUpTo k).length) := by
      rw [Nat.min_comm, ← List.take_take, List.take_length]
    simp only [BatchOutput.write, BatchOutput.taken, outputOf, fitting, hroom, Option.map_some,
      Option.any_some, hfit, htake, hroom', List.length_append, List.length_take,
      decide_eq_true_eq, ite_not]

theorem fitting_eq {k : Nat} (h : x.fails (.write k) = false) : x.fitting k = x.batchAt k := by
  rw [fails_write, batchesUpTo_succ] at h
  unfold fitting
  cases hroom : x.room with
  | none => rfl
  | some room =>
    rw [hroom] at h
    have hle : (x.batchAt k).length ≤ room - (x.batchesUpTo k).length := by
      simp at h
      omega
    exact List.take_of_length_le hle

/-- Flushing behind batch `k`. -/
theorem flush_outputOf (k : Nat) :
    (x.outputOf (x.batchesUpTo (k + 1)) k).flush =
      if x.fails (.flush k) then (some "flush failed", x.outputOf (x.batchesUpTo (k + 1)) k)
      else (none, x.outputOf (x.batchesUpTo (k + 1)) (k + 1)) := by
  rw [fails_flush]
  unfold BatchOutput.flush outputOf
  rw [flushesUpTo_succ]
  cases hf : x.flushes with
  | none => simp
  | some n =>
    by_cases hn : n ≤ k
    · simp [hn, Nat.sub_eq_zero_of_le hn]
    · have h0 : n - k ≠ 0 := by omega
      simp [hn, h0, Nat.sub_sub]

/-- One request is answered, or ends the run at its first event that fails. -/
theorem handle_runAt {k : Nat} (h : k < x.paths.length) :
    x.service.handle (x.runAt k) (x.pathAt k) =
      match (Event.ofRequest k).find? x.fails with
      | none => x.runAt (k + 1)
      | some e => x.endAt e := by
  unfold Service.handle
  rw [show (x.runAt k).source = x.sourceAt k from rfl, x.answer_eq h]
  cases ha : x.answerAt k with
  | error e =>
    obtain ⟨event, hfind, hfailure, hwritten, hanswered, hasked⟩ := x.find?_of_answerAt_error ha
    simp only [hfind, endAt, hfailure, hwritten, hanswered, hasked, runAt]
  | ok tags =>
    obtain ⟨hquery, hscan⟩ := x.not_fails_of_answerAt_ok ha
    have hbatch : Utf8.encode tags.batch.toList = x.batchAt k := by rw [batchAt, ha]
    simp only [Event.ofRequest, List.find?_cons, hquery, hscan, Service.deliver, hbatch]
    rw [show (x.runAt k).output = x.outputOf (x.batchesUpTo k) k from rfl, x.write_outputOf ha]
    cases hw : x.fails (.write k) with
    | true =>
      have hfailure : x.failureOf (.write k) = some (.channel "write failed") :=
        if_pos (by rwa [fails_write] at hw)
      simp only [endAt, hfailure]
      rfl
    | false =>
      simp only [Bool.false_eq_true, ↓reduceIte, x.fitting_eq hw, ← batchesUpTo_succ,
        flush_outputOf]
      cases hf : x.fails (.flush k) with
      | true =>
        have hfailure : x.failureOf (.flush k) = some (.channel "flush failed") :=
          if_pos (by rwa [fails_flush] at hf)
        simp only [endAt, hfailure]
        rfl
      | false => rfl

/-! ## All requests -/

/-- What is tried for the requests from number `k` on. -/
def eventsFrom (k : Nat) : List Event :=
  (List.range' k (x.paths.length - k)).flatMap Event.ofRequest

theorem eventsFrom_of_lt {k : Nat} (h : k < x.paths.length) :
    x.eventsFrom k = Event.ofRequest k ++ x.eventsFrom (k + 1) := by
  have hn : x.paths.length - k = (x.paths.length - (k + 1)) + 1 := by omega
  rw [eventsFrom, hn, List.range'_succ, List.flatMap_cons]
  rfl

theorem mem_events {e : Event} :
    e ∈ x.events ↔ (∃ k < x.paths.length, e ∈ Event.ofRequest k) ∨ e = .read := by
  simp [events]

theorem events_eq : x.events = x.eventsFrom 0 ++ [.read] := by
  rw [events, eventsFrom, List.range_eq_range', Nat.sub_zero]

theorem isSome_failure_endAt {e : Event} (h : x.fails e = true) : (x.endAt e).failure.isSome := h

/-- The requests from number `k` on, when those before it are answered. -/
theorem handleAll_runAt {k : Nat} (h : k ≤ x.paths.length) :
    x.service.handleAll (x.runAt k) (x.paths.drop k) =
      match (x.eventsFrom k).find? x.fails with
      | none => x.runAt x.paths.length
      | some e => x.endAt e := by
  induction hn : x.paths.length - k generalizing k with
  | zero =>
    have hk : k = x.paths.length := by omega
    subst hk
    simp [eventsFrom, Service.handleAll]
  | succ n ih =>
    have hk : k < x.paths.length := by omega
    have hp : x.paths[k] = x.pathAt k := by simp [pathAt, hk]
    rw [List.drop_eq_getElem_cons hk, hp, Service.handleAll, x.handle_runAt hk,
      x.eventsFrom_of_lt hk, List.find?_append]
    cases hfind : (Event.ofRequest k).find? x.fails with
    | some e => simp [x.isSome_failure_endAt (List.find?_some hfind)]
    | none =>
      simp only [Option.none_or]
      rw [if_neg (by simp [runAt])]
      exact ih (by omega) (by omega)

theorem lines_eq : x.input.lines.map requestOf = x.paths := by
  rw [RequestInput.lines, linesBefore_eq_linesAfter]
  rfl

/-- The run ends at the first event that fails, or when all requests are answered. -/
theorem run_eq :
    x.run =
      match x.firstFailure? with
      | none => x.runAt x.paths.length
      | some e => x.endAt e := by
  have hstart : (⟨none, 0, .start x.room x.flushes, x.source⟩ : Run σ) = x.runAt 0 := by
    simp [runAt, outputOf, BatchOutput.start, batchesUpTo, flushesUpTo, sourceAt]
  have hall := x.handleAll_runAt (Nat.zero_le _)
  rw [List.drop_zero] at hall
  unfold run Service.run
  rw [hstart, lines_eq, hall, firstFailure?, events_eq, List.find?_append]
  cases hfind : (x.eventsFrom 0).find? x.fails with
  | some e =>
    have hfails : x.fails e = true := List.find?_some hfind
    obtain ⟨failure, hfailure⟩ := Option.isSome_iff_exists.mp hfails
    simp [endAt, hfailure]
  | none =>
    cases hread : x.input.failure with
    | none => simp [runAt, fails, failureOf, hread]
    | some reason =>
      simp [runAt, endAt, fails, failureOf, hread, writtenAt, answeredBefore, askedBy]

/-! ## Requests that are answered -/

/-- The events of the requests in front of one, of that one, and those behind it. -/
theorem events_eq_append {k : Nat} (h : k < x.paths.length) :
    x.events = (List.range k).flatMap Event.ofRequest ++
      (Event.ofRequest k ++ (x.eventsFrom (k + 1) ++ [.read])) := by
  have happ := List.range'_append_1 (s := 0) (m := k) (n := x.paths.length - k)
  rw [Nat.zero_add, show k + (x.paths.length - k) = x.paths.length by omega] at happ
  rw [events, List.range_eq_range', ← happ, List.flatMap_append, List.append_assoc,
    ← List.append_assoc (Event.ofRequest k), ← x.eventsFrom_of_lt h, List.range_eq_range']
  rfl

/-- A run is no further than the first request of which something fails. -/
theorem served_le_of_fails {k : Nat} (h : k < x.paths.length) {event : Event}
    (hmem : event ∈ Event.ofRequest k) (hfails : x.fails event = true) : x.run.served ≤ k := by
  have hsome : ((Event.ofRequest k).find? x.fails).isSome := by
    rw [List.find?_isSome]
    exact ⟨event, hmem, hfails⟩
  obtain ⟨e, he⟩ := Option.isSome_iff_exists.mp hsome
  have hfirst : x.firstFailure? =
      (((List.range k).flatMap Event.ofRequest).find? x.fails).or (some e) := by
    rw [firstFailure?, x.events_eq_append h, List.find?_append, List.find?_append, he,
      Option.some_or]
  rw [run_eq, hfirst]
  cases hbefore : ((List.range k).flatMap Event.ofRequest).find? x.fails with
  | none =>
    rcases Event.mem_ofRequest.mp (List.mem_of_find?_eq_some he) with rfl | rfl | rfl | rfl <;>
      exact Nat.le_refl k
  | some event' =>
    obtain ⟨j, hj, hej⟩ := List.mem_flatMap.mp (List.mem_of_find?_eq_some hbefore)
    have hjk : j ≤ k := Nat.le_of_lt (List.mem_range.mp hj)
    rcases Event.mem_ofRequest.mp hej with rfl | rfl | rfl | rfl <;> exact hjk

theorem served_le : x.run.served ≤ x.paths.length := by
  rw [run_eq]
  cases hfind : x.firstFailure? with
  | none => exact Nat.le_refl _
  | some e =>
    rcases x.mem_events.mp (List.mem_of_find?_eq_some hfind) with ⟨j, hj, hej⟩ | rfl
    · rcases Event.mem_ofRequest.mp hej with rfl | rfl | rfl | rfl <;> exact Nat.le_of_lt hj
    · exact Nat.le_refl _

theorem answerAt_of_lt_served {k : Nat} (h : k < x.run.served) :
    ∃ tags, x.answerAt k = .ok tags := by
  cases ha : x.answerAt k with
  | ok tags => exact ⟨tags, rfl⟩
  | error e =>
    obtain ⟨event, hfind, -⟩ := x.find?_of_answerAt_error ha
    have hle := x.served_le_of_fails (Nat.lt_of_lt_of_le h x.served_le)
      (List.mem_of_find?_eq_some hfind) (List.find?_some hfind)
    omega

section Unlimited

-- The output takes everything.
variable (hroom : x.room = none) (hflushes : x.flushes = none)

include hroom hflushes

/-- The output holds the batches of the answered requests and no more. -/
theorem output_of_unlimited :
    x.run.output.written = x.batchesUpTo x.run.served ∧
      x.run.output.flushedAt = x.flushesUpTo x.run.served := by
  rw [run_eq]
  cases hfind : x.firstFailure? with
  | none => exact ⟨rfl, rfl⟩
  | some e =>
    have hfails : x.fails e = true := List.find?_some hfind
    cases e with
    | write k => simp [hroom] at hfails
    | flush k => simp [hflushes] at hfails
    | query k => exact ⟨rfl, rfl⟩
    | scan k => exact ⟨rfl, rfl⟩
    | read => exact ⟨rfl, rfl⟩

/-- Nothing fails of a request with an answer. -/
theorem not_fails_of_mem_ofRequest {k : Nat} (h : ∃ tags, x.answerAt k = .ok tags) {e : Event}
    (he : e ∈ Event.ofRequest k) : x.fails e = false := by
  obtain ⟨tags, ha⟩ := h
  obtain ⟨hquery, hscan⟩ := x.not_fails_of_answerAt_ok ha
  rcases Event.mem_ofRequest.mp he with rfl | rfl | rfl | rfl
  · exact hquery
  · exact hscan
  · simp [hroom]
  · simp [hflushes]

/-- Only a request without an answer keeps the others from being answered. -/
theorem served_of_unlimited :
    x.run.served = x.paths.length ∨
      x.run.served < x.paths.length ∧ ∃ e, x.answerAt x.run.served = .error e := by
  rw [run_eq]
  cases hfind : x.firstFailure? with
  | none => exact .inl rfl
  | some event =>
    rcases x.mem_events.mp (List.mem_of_find?_eq_some hfind) with ⟨k, hk, hevent⟩ | rfl
    · have hanswered : (x.endAt event).served = k := by
        rcases Event.mem_ofRequest.mp hevent with rfl | rfl | rfl | rfl <;> rfl
      refine .inr ⟨by rwa [hanswered], ?_⟩
      rw [hanswered]
      cases ha : x.answerAt k with
      | error e => exact ⟨e, rfl⟩
      | ok tags =>
        have hfails : x.fails event = true := List.find?_some hfind
        rw [x.not_fails_of_mem_ofRequest hroom hflushes ⟨tags, ha⟩ hevent] at hfails
        cases hfails
    · exact .inl rfl

/-- A run in which every request has an answer and no channel fails. -/
theorem run_of_answered (hread : x.input.failure = none)
    (hanswers : ∀ k < x.paths.length, ∃ tags, x.answerAt k = .ok tags) :
    x.run = x.runAt x.paths.length := by
  have hfirst : x.firstFailure? = none := by
    rw [firstFailure?, List.find?_eq_none]
    intro e he
    rcases x.mem_events.mp he with ⟨k, hk, hek⟩ | rfl
    · simp [x.not_fails_of_mem_ofRequest hroom hflushes (hanswers k hk) hek]
    · simp [fails, failureOf, hread]
  rw [run_eq, hfirst]

/-- A run that comes to a request without an answer ends there. -/
theorem run_of_answerAt_error {k : Nat} (h : k < x.paths.length)
    (hanswers : ∀ i < k, ∃ tags, x.answerAt i = .ok tags) {e : Failure}
    (herror : x.answerAt k = .error e) :
    x.run = ⟨some e, k, x.outputOf (x.batchesUpTo k) k, x.sourceAt (k + 1)⟩ := by
  obtain ⟨event, hfind, hfailure, hwritten, hanswered, hasked⟩ := x.find?_of_answerAt_error herror
  have hbefore : ((List.range k).flatMap Event.ofRequest).find? x.fails = none := by
    rw [List.find?_eq_none]
    intro e' he'
    obtain ⟨i, hi, hei⟩ := List.mem_flatMap.mp he'
    simp [x.not_fails_of_mem_ofRequest hroom hflushes (hanswers i (List.mem_range.mp hi)) hei]
  have hfirst : x.firstFailure? = some event := by
    rw [firstFailure?, x.events_eq_append h, List.find?_append, hbefore, Option.none_or,
      List.find?_append, hfind, Option.some_or]
  rw [run_eq, hfirst]
  simp only [endAt, hfailure, hwritten, hanswered, hasked]

end Unlimited

/-! ## What was asked -/

/-- The same run with a source that also writes down what it is asked. -/
def logged : Setting (σ × RequestLog) where
  service := ⟨fun s path => ((x.service.definitions s.1 path).1,
    (x.service.definitions s.1 path).2, s.2 ++ [path]), x.service.references⟩
  source := (x.source, [])
  input := x.input
  room := x.room
  flushes := x.flushes

theorem sourceAt_logged (k : Nat) : x.logged.sourceAt k = (x.sourceAt k, x.paths.take k) := by
  have h : ∀ (paths : List String) (source : σ) (log : RequestLog),
      paths.foldl (fun s path => (x.logged.service.definitions s path).2) (source, log) =
        (paths.foldl (fun s path => (x.service.definitions s path).2) source, log ++ paths) := by
    intro paths
    induction paths with
    | nil => simp
    | cons path paths ih =>
      intro source log
      rw [List.foldl_cons, List.foldl_cons]
      exact (ih _ _).trans (by simp)
  exact h _ _ _

theorem definitionsAt_logged (k : Nat) : x.logged.definitionsAt k = x.definitionsAt k := by
  rw [definitionsAt, sourceAt_logged]
  rfl

theorem batchesUpTo_logged (k : Nat) : x.logged.batchesUpTo k = x.batchesUpTo k := by
  have h : x.logged.batchAt = x.batchAt := by
    funext k
    rw [batchAt, batchAt, answerAt, answerAt, definitionsAt_logged]
    rfl
  rw [batchesUpTo, batchesUpTo, h]

theorem failureOf_logged (e : Event) : x.logged.failureOf e = x.failureOf e := by
  cases e with
  | query k => rw [failureOf, failureOf, definitionsAt_logged]
  | write k => rw [failureOf, failureOf, batchesUpTo_logged]; rfl
  | _ => rfl

theorem firstFailure?_logged : x.logged.firstFailure? = x.firstFailure? := by
  have h : x.logged.fails = x.fails := by
    funext e
    rw [fails, fails, failureOf_logged]
  rw [firstFailure?, h]
  rfl

/-! ## The trace -/

/-- **The trace of a run.** A run ends at the first event that fails, with the failure of that
event. By then the source was asked exactly the paths up to that request, in order and once each;
the output holds the batches before the event, and of a batch that could not be written the bytes
that fit; and it was flushed at the end of each batch that was answered. If nothing fails, all
requests are answered. -/
theorem run_trace :
    match x.firstFailure? with
    | some e =>
      x.run.failure = x.failureOf e ∧
      x.run.served = x.answeredBefore e ∧
      x.run.source = x.sourceAt (x.askedBy e) ∧
      x.logged.run.source.2 = x.paths.take (x.askedBy e) ∧
      x.run.output.written = x.writtenAt e ∧
      x.run.output.flushedAt = x.flushesUpTo (x.answeredBefore e)
    | none =>
      x.run.failure = none ∧
      x.run.served = x.paths.length ∧
      x.run.source = x.sourceAt x.paths.length ∧
      x.logged.run.source.2 = x.paths ∧
      x.run.output.written = x.batchesUpTo x.paths.length ∧
      x.run.output.flushedAt = x.flushesUpTo x.paths.length := by
  have hrun := x.run_eq
  have hlog := x.logged.run_eq
  rw [firstFailure?_logged] at hlog
  cases hfind : x.firstFailure? with
  | some e =>
    simp only [hfind] at hrun hlog
    have hasked : x.logged.askedBy e = x.askedBy e := by cases e <;> rfl
    refine ⟨by rw [hrun]; rfl, by rw [hrun]; rfl, by rw [hrun]; rfl, ?_, by rw [hrun]; rfl,
      by rw [hrun]; rfl⟩
    rw [hlog, endAt, sourceAt_logged, hasked]
  | none =>
    simp only [hfind] at hrun hlog
    refine ⟨by rw [hrun]; rfl, by rw [hrun]; rfl, by rw [hrun]; rfl, ?_, by rw [hrun]; rfl,
      by rw [hrun]; rfl⟩
    rw [hlog, runAt, sourceAt_logged]
    exact List.take_length

end Setting

end CodeTags
