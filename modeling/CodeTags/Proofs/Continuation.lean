import CodeTags.Proofs.Trace

/-!
# Input that goes on

A service that has answered some lines and gets more goes on as one that starts with the rest, from
the state that its definition source has reached.

* `Run.behind`: a run with what another one has written, flushed and served in front.
* `handle_behind`: one request does the same, whatever was written before it.
* `Run.mapSource`, `handle_mapSource`: one request does the same with a source that has more to its
  state.
* `handleAll_comm`: what holds of one request in this way holds of all.
* `run_of_append`: the run over an input in two parts; `run_append`: what that means for the output,
  its flushes and the requests.
-/

namespace CodeTags

variable {σ τ : Type}

/-! ## Runs behind other runs -/

/-- The output with what another one holds in front. -/
def BatchOutput.behind (out first : BatchOutput) : BatchOutput :=
  { out with
    written := first.written ++ out.written
    flushedAt := first.flushedAt ++ out.flushedAt.map (first.written.length + ·) }

/-- The run with what another one has done in front. -/
def Run.behind (run first : Run σ) : Run σ :=
  ⟨run.failure, first.served + run.served, run.output.behind first.output, run.source⟩

/-- The run with another state of the source. -/
def Run.mapSource (f : σ → τ) (run : Run σ) : Run τ :=
  ⟨run.failure, run.served, run.output, f run.source⟩

namespace BatchOutput

theorem write_behind (out first : BatchOutput) (bytes : List UInt8) :
    (out.behind first).write bytes = ((out.write bytes).1, (out.write bytes).2.behind first) := by
  have htaken : ∀ n, (out.behind first).taken n = out.taken n := fun _ => rfl
  simp only [write, htaken]
  simp only [behind, List.append_assoc]

theorem flush_behind (out first : BatchOutput) :
    (out.behind first).flush = (out.flush.1, out.flush.2.behind first) := by
  by_cases h : out.flushesLeft = some 0
  · simp only [flush, behind, h, ↓reduceIte]
  · simp only [flush, behind, h, ↓reduceIte, List.map_append, List.map_singleton,
      List.length_append, List.append_assoc]

end BatchOutput

namespace Service

theorem deliver_behind (out first : BatchOutput) (tags : TagSet) :
    deliver (out.behind first) tags =
      ((deliver out tags).1, (deliver out tags).2.behind first) := by
  unfold deliver
  rw [BatchOutput.write_behind]
  rcases out.write (Utf8.encode tags.batch.toList) with ⟨_ | reason, out'⟩
  · exact out'.flush_behind first
  · rfl

/-- What was written before a request makes no difference to it. -/
theorem handle_behind (service : Service σ) (run first : Run σ) (path : String) :
    service.handle (run.behind first) path = (service.handle run path).behind first := by
  unfold handle
  rw [show (run.behind first).source = run.source from rfl,
    show (run.behind first).output = run.output.behind first.output from rfl]
  rcases service.answer run.source path with ⟨e | tags, source⟩
  · rfl
  · dsimp only
    rw [deliver_behind]
    rcases deliver run.output tags with ⟨_ | reason, out'⟩ <;> rfl

/-- A source that answers alike from a state with more to it leads to the same run. -/
theorem handle_mapSource {service : Service σ} {service' : Service τ} {f : σ → τ}
    (hreferences : service'.references = service.references)
    (hdefinitions : ∀ s path, service'.definitions (f s) path =
      ((service.definitions s path).1, f (service.definitions s path).2))
    (run : Run σ) (path : String) :
    service'.handle (run.mapSource f) path = (service.handle run path).mapSource f := by
  have hanswer : service'.answer (f run.source) path =
      ((service.answer run.source path).1, f (service.answer run.source path).2) := by
    unfold answer addReferences
    rw [hdefinitions, hreferences]
    rcases service.definitions run.source path with ⟨e | tags, source⟩
    · rfl
    · dsimp only
      split <;> rfl
  unfold handle
  rw [show (run.mapSource f).source = f run.source from rfl, hanswer,
    show (run.mapSource f).output = run.output from rfl]
  rcases service.answer run.source path with ⟨e | tags, source⟩
  · rfl
  · dsimp only
    rcases deliver run.output tags with ⟨_ | reason, out'⟩ <;> rfl

/-! ## All requests -/

/-- If one request does the same to two runs of which one comes from the other, then so do all. -/
theorem handleAll_comm {service : Service σ} {service' : Service τ} (φ : Run σ → Run τ)
    (hfailure : ∀ run, (φ run).failure = run.failure)
    (hhandle : ∀ run path, service'.handle (φ run) path = φ (service.handle run path))
    (run : Run σ) (paths : List String) :
    service'.handleAll (φ run) paths = φ (service.handleAll run paths) := by
  induction paths generalizing run with
  | nil => rfl
  | cons path paths ih =>
    rw [handleAll, handleAll, hhandle]
    simp only [hfailure]
    split
    · rfl
    · exact ih _

/-- Requests in two parts: the second part is only come to if the first one ends well. -/
theorem handleAll_append (service : Service σ) {run : Run σ} (h : run.failure = none)
    (paths paths' : List String) :
    service.handleAll run (paths ++ paths') =
      if (service.handleAll run paths).failure.isSome then service.handleAll run paths
      else service.handleAll (service.handleAll run paths) paths' := by
  induction paths generalizing run with
  | nil => simp [handleAll, h]
  | cons path paths ih =>
    rw [List.cons_append, handleAll, handleAll]
    by_cases hfails : (service.handle run path).failure.isSome
    · simp only [hfails, ↓reduceIte]
    · simp only [hfails]
      exact ih (by simpa using hfails)

/-- The lines of an input in two parts, if the first part ends with a line. -/
theorem lines_append {before : List UInt8} (h : before = [] ∨ before.getLast? = some lineFeed)
    (input : RequestInput) :
    RequestInput.lines ⟨before ++ input.bytes, input.failure⟩ =
      linesAfter lineFeed before ++ input.lines :=
  linesBefore_append h _ _

/-- The failure of an input that ends well is that of its requests. -/
theorem run_of_input (service : Service σ) (source : σ) (bytes : List UInt8)
    (output : BatchOutput) :
    service.run source ⟨bytes, none⟩ output =
      service.handleAll ⟨none, 0, output, source⟩ ((linesAfter lineFeed bytes).map requestOf) := by
  unfold run
  rw [show RequestInput.lines ⟨bytes, none⟩ = linesAfter lineFeed bytes from rfl]
  generalize service.handleAll ⟨none, 0, output, source⟩ _ = run
  obtain ⟨_ | failure, served, output, source⟩ := run <;> rfl

/-- A run that has answered all its requests is where a run begins, but for what it has done. -/
theorem eq_behind_of_unlimited (service : Service σ) (source : σ) (input : RequestInput)
    {run : Run σ} (hrun : service.run source input .unlimited = run)
    (hfailure : run.failure = none) :
    run = (⟨none, 0, .unlimited, run.source⟩ : Run σ).behind run := by
  have houtput : run.output.room = none ∧ run.output.flushesLeft = none := by
    have heq := Setting.run_eq ⟨service, source, input, none, none⟩
    change service.run source input .unlimited = _ at heq
    rw [← hrun, heq]
    split <;> exact ⟨rfl, rfl⟩
  obtain ⟨failure, served, ⟨written, flushedAt, room, flushesLeft⟩, source⟩ := run
  obtain rfl : failure = none := hfailure
  obtain ⟨rfl, rfl⟩ : room = none ∧ flushesLeft = none := houtput
  simp [Run.behind, BatchOutput.behind, BatchOutput.unlimited, BatchOutput.start]

/-- A run over an input in two parts is the run over the first part, if that fails, and otherwise
the run over the second part behind it. -/
theorem run_of_append (service : Service σ) (source : σ) {before : List UInt8}
    (h : before = [] ∨ before.getLast? = some lineFeed) (input : RequestInput) :
    service.run source ⟨before ++ input.bytes, input.failure⟩ .unlimited =
      match (service.run source ⟨before, none⟩ .unlimited).failure with
      | some _ => service.run source ⟨before, none⟩ .unlimited
      | none =>
        (service.run (service.run source ⟨before, none⟩ .unlimited).source input
          .unlimited).behind (service.run source ⟨before, none⟩ .unlimited) := by
  generalize hfirst : service.run source ⟨before, none⟩ .unlimited = first
  have hall := hfirst
  rw [run_of_input] at hall
  unfold run
  rw [lines_append h, List.map_append, handleAll_append _ rfl, hall]
  cases hfailure : first.failure with
  | some e => simp only [Option.isSome_some, ↓reduceIte, hfailure]
  | none =>
    have hbehind := eq_behind_of_unlimited service source _ hfirst hfailure
    have hsecond : service.handleAll first (input.lines.map requestOf) =
        (service.handleAll ⟨none, 0, .unlimited, first.source⟩
          (input.lines.map requestOf)).behind first :=
      (congrArg (service.handleAll · _) hbehind).trans
        (handleAll_comm (·.behind first) (fun _ => rfl)
          (fun run path => service.handle_behind run first path) _ _)
    simp only [Option.isSome_none, Bool.false_eq_true, ↓reduceIte, hsecond]
    generalize service.handleAll ⟨none, 0, .unlimited, first.source⟩ _ = second
    obtain ⟨_ | failure, served, output, source⟩ := second <;> rfl

/-! ## What is asked -/

/-- The same service with a source that also writes down what it is asked. -/
def logged (service : Service σ) : Service (σ × RequestLog) where
  definitions s path :=
    ((service.definitions s.1 path).1, (service.definitions s.1 path).2, s.2 ++ [path])
  references := service.references

/-- What the source is asked in a run over an input. -/
def asked (service : Service σ) (source : σ) (input : RequestInput) : RequestLog :=
  (service.logged.run (source, []) input .unlimited).source.2

theorem run_mapSource (service : Service σ) (service' : Service τ) (f : σ → τ)
    (hreferences : service'.references = service.references)
    (hdefinitions : ∀ s path, service'.definitions (f s) path =
      ((service.definitions s path).1, f (service.definitions s path).2))
    (source : σ) (input : RequestInput) (output : BatchOutput) :
    service'.run (f source) input output = (service.run source input output).mapSource f := by
  have hall := handleAll_comm (Run.mapSource f) (fun _ => rfl)
    (handle_mapSource hreferences hdefinitions) ⟨none, 0, output, source⟩
    (input.lines.map requestOf)
  rw [show Run.mapSource f ⟨none, 0, output, source⟩ = ⟨none, 0, output, f source⟩ from rfl] at hall
  unfold run
  rw [hall]
  generalize service.handleAll ⟨none, 0, output, source⟩ _ = run
  obtain ⟨_ | failure, served, output, source⟩ := run <;> rfl

/-- Writing down what is asked changes nothing else. -/
theorem run_logged (service : Service σ) (s : σ × RequestLog) (input : RequestInput)
    (output : BatchOutput) :
    (service.logged.run s input output).mapSource Prod.fst = service.run s.1 input output :=
  (run_mapSource service.logged service Prod.fst rfl (fun _ _ => rfl) s input output).symm

/-- What was asked before stays in front of what is asked now. -/
theorem log_of_run (service : Service σ) (source : σ) (log : RequestLog) (input : RequestInput) :
    (service.logged.run (source, log) input .unlimited).source.2 =
      log ++ service.asked source input := by
  have hmap := run_mapSource service.logged service.logged (fun s => (s.1, log ++ s.2)) rfl
    (fun s path => by simp [logged]) (source, []) input .unlimited
  rw [List.append_nil] at hmap
  rw [hmap]
  rfl

theorem asked_append (service : Service σ) (source : σ) {before : List UInt8}
    (h : before = [] ∨ before.getLast? = some lineFeed) (input : RequestInput)
    (hfailure : (service.run source ⟨before, none⟩ .unlimited).failure = none) :
    service.asked source ⟨before ++ input.bytes, input.failure⟩ =
      service.asked source ⟨before, none⟩ ++
        service.asked (service.run source ⟨before, none⟩ .unlimited).source input := by
  have hlogged := service.run_logged (source, []) ⟨before, none⟩ .unlimited
  rw [← hlogged] at hfailure ⊢
  unfold asked
  rw [run_of_append _ _ h, show (service.logged.run (source, []) ⟨before, none⟩
    .unlimited).failure = none from hfailure]
  exact log_of_run service _ _ input

end Service

/-! ## Both parts -/

namespace Setting

variable {x y : Setting σ} {k : Nat}

theorem sourceAt_of_isPrefix (hservice : x.service = y.service) (hsource : x.source = y.source)
    (hpaths : y.paths <+: x.paths) (hk : k ≤ y.paths.length) : x.sourceAt k = y.sourceAt k := by
  obtain ⟨later, hlater⟩ := hpaths
  unfold sourceAt
  rw [← hlater, List.take_append_of_le_length hk, hservice, hsource]

/-- A batch depends on the requests up to its own. -/
theorem batchAt_of_isPrefix (hservice : x.service = y.service) (hsource : x.source = y.source)
    (hpaths : y.paths <+: x.paths) (hk : k < y.paths.length) : x.batchAt k = y.batchAt k := by
  have hpath : x.pathAt k = y.pathAt k := by
    obtain ⟨later, hlater⟩ := hpaths
    unfold pathAt
    rw [← hlater, List.getD_eq_getElem?_getD, List.getElem?_append_left hk,
      List.getD_eq_getElem?_getD]
  have hreach := sourceAt_of_isPrefix hservice hsource hpaths (Nat.le_of_lt hk)
  have hanswer : x.answerAt k = y.answerAt k := by
    unfold answerAt definitionsAt referencesAt
    rw [hreach, hpath, hservice]
  unfold batchAt
  rw [hanswer]

end Setting

/-- **Input in two parts.** If all lines of the first part are answered, the run over both parts is
the run over the first, and behind it the run over the second from the state that the source has
reached: the output is one output behind the other, with the flushes of the second at their places
there; the source is asked for the paths of the first and then for those of the second; as many
requests are answered as in both; and the failure is that of the second, if there is one. If the
first part fails, the second makes no difference. So what is written for some lines is written
whatever comes behind them, and the batch for a line depends on the lines up to it. -/
theorem Service.run_append (service : Service σ) (source : σ) {before : List UInt8}
    (h : before = [] ∨ before.getLast? = some lineFeed) (input : RequestInput) :
    let whole : RequestInput := ⟨before ++ input.bytes, input.failure⟩
    let first := service.run source ⟨before, none⟩ .unlimited
    let second := service.run first.source input .unlimited
    let both := service.run source whole .unlimited
    (first.failure = none →
      both.failure = second.failure ∧
      both.served = first.served + second.served ∧
      both.output.written = first.output.written ++ second.output.written ∧
      both.output.flushedAt = first.output.flushedAt ++
        second.output.flushedAt.map (first.output.written.length + ·) ∧
      both.source = second.source ∧
      service.asked source whole =
        service.asked source ⟨before, none⟩ ++ service.asked first.source input) ∧
    (first.failure ≠ none → both = first) ∧
    first.output.written <+: both.output.written ∧
    first.output.flushedAt <+: both.output.flushedAt ∧
    ∀ k < (linesAfter lineFeed before).length,
      Setting.batchAt ⟨service, source, whole, none, none⟩ k =
        Setting.batchAt ⟨service, source, ⟨before, none⟩, none, none⟩ k := by
  intro whole first second both
  have hboth : both = match first.failure with
      | some _ => first
      | none => second.behind first := service.run_of_append source h input
  have hgood : first.failure = none → both = second.behind first := fun hf => by rw [hboth, hf]
  have hbad : first.failure ≠ none → both = first := by
    intro hf
    obtain ⟨e, he⟩ := Option.ne_none_iff_exists'.mp hf
    rw [hboth, he]
  have hbegin : first.output.written <+: both.output.written ∧
      first.output.flushedAt <+: both.output.flushedAt := by
    by_cases hf : first.failure = none
    · rw [hgood hf]
      exact ⟨List.prefix_append _ _, List.prefix_append _ _⟩
    · rw [hbad hf]
      exact ⟨List.prefix_refl _, List.prefix_refl _⟩
  refine ⟨fun hf => ?_, hbad, hbegin.1, hbegin.2, fun k hk => ?_⟩
  · rw [hgood hf]
    exact ⟨rfl, rfl, rfl, rfl, rfl, service.asked_append source h input hf⟩
  · refine Setting.batchAt_of_isPrefix rfl rfl ?_
      (by simpa [Setting.paths, Setting.readable] using hk)
    rw [← Setting.lines_eq, ← Setting.lines_eq, show RequestInput.lines ⟨before, none⟩ =
      linesAfter lineFeed before from rfl, lines_append h, List.map_append]
    exact List.prefix_append _ _

/-- Definitions in one file, and another file at which the tag generator ends. -/
def twoRows : List DefinitionRow :=
  [⟨"a.c", .ok ⟨"a.c", [(⟨1, "x", .definition⟩, "int x;")]⟩⟩, ⟨"d.c", .error (.exited "d.c")⟩]

/-- Two lines, and three more of which the second has no answer and the last has no end. -/
theorem Service.run_append_of_two_parts :
    let service : Service RequestLog := ⟨definitionTable twoRows, none⟩
    let before := Utf8.encode "a.c\nb.c \n".toList
    let input : RequestInput := ⟨Utf8.encode "\nd.c\ne.c".toList, none⟩
    let whole : RequestInput := ⟨before ++ input.bytes, input.failure⟩
    (before = [] ∨ before.getLast? = some lineFeed) ∧
    (service.run [] ⟨before, none⟩ .unlimited).failure = none ∧
    (service.run [] whole .unlimited).failure = some (.generator (.exited "d.c")) ∧
    (service.run [] whole .unlimited).served = 2 + 1 ∧
    (service.run [] whole .unlimited).output.flushedAt = [34, 51] ++ [17].map (51 + ·) ∧
    service.asked [] whole = ["a.c", "b.c"] ++ ["", "d.c"] := by
  intro service before input whole
  have hend : before = [] ∨ before.getLast? = some lineFeed := .inr (by decide +kernel)
  have hfirst : (service.run [] ⟨before, none⟩ .unlimited).failure = none := by decide +kernel
  obtain ⟨hfailure, hserved, -, hflushed, -, hasked⟩ :=
    (service.run_append [] hend input).1 hfirst
  refine ⟨hend, hfirst, hfailure.trans ?_, hserved.trans ?_, hflushed.trans ?_, hasked.trans ?_⟩
  · decide +kernel
  · decide +kernel
  · decide +kernel
  · decide +kernel

end CodeTags
