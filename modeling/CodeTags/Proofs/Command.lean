import CodeTags.Proofs.Framing
import CodeTags.Proofs.Merge
import CodeTags.ScriptedGenerator

/-!
# What the command prints

Whatever the command works on, a path or a request has a result, a set of tags or a failure. The
command prints the sets in front of the first failure, each as a whole, and its exit code says
whether there was a failure. It has none if it waits for the generator in vain.

* `beforeFailure`, `firstError?`, `Outcome.Reports`: the rule.
* `BatchOutput.handedOn_close`, `Setting.handedOn_run`: nothing that was written is kept back.
* `Arguments.performScan_reports`: the rule holds for a scan, whose failures are languages without a
  grammar (`Scanner.scanPath_eq_error_iff`).
* `Setting.run_of_results`: what the requests of a service come to, by their results.
* `WaitsInVain`, `Arguments.performRequests_reports`: the rule holds for the requests.
* `command_reports`: it holds for the command, which starts no generator for nothing.
-/

namespace CodeTags

/-! ## Results in turn -/

/-- The values in front of the first failure. -/
def beforeFailure {ε α : Type} : List (Except ε α) → List α
  | [] => []
  | .error _ :: _ => []
  | .ok a :: results => a :: beforeFailure results

/-- The first failure. -/
def firstError? {ε α : Type} : List (Except ε α) → Option ε
  | [] => none
  | .error e :: _ => some e
  | .ok _ :: results => firstError? results

section Results

variable {ε α : Type}

theorem beforeFailure_map_ok_append (as : List α) (results : List (Except ε α)) :
    beforeFailure (as.map .ok ++ results) = as ++ beforeFailure results := by
  induction as with
  | nil => rfl
  | cons a as ih => rw [List.map_cons, List.cons_append, beforeFailure, ih, List.cons_append]

theorem firstError?_map_ok_append (as : List α) (results : List (Except ε α)) :
    firstError? (as.map .ok ++ results) = firstError? results := by
  induction as with
  | nil => rfl
  | cons a as ih => rw [List.map_cons, List.cons_append, firstError?, ih]

theorem isNone_firstError? (results : List (Except ε α)) :
    (firstError? results).isNone = results.all (·.isOk) := by
  induction results with
  | nil => rfl
  | cons result results ih =>
    cases result with
    | error e => rfl
    | ok a => exact ih

end Results

namespace Outcome

variable {σ ε : Type}

/-- The output is what comes in front of the first failure. There is an exit code unless the command
waits in vain, and it is 0 if and only if there is no failure. -/
structure Reports (outcome : Outcome σ) (render : TagSet → String)
    (results : List (Except ε TagSet)) (waits : Prop) : Prop where
  output : outcome.output =
    (beforeFailure results).flatMap fun tags => Utf8.encode (render tags).toList
  endless : waits → outcome.exitCode = none
  exitCode : ¬waits → outcome.exitCode = some (if results.all (·.isOk) then 0 else 1)

variable {render : TagSet → String} {results : List (Except ε TagSet)} {waits : Prop}

theorem finished_reports {failure : Option Failure} {output : List UInt8} (generator : Option σ)
    (hwaits : ¬waits)
    (houtput : output =
      (beforeFailure results).flatMap fun tags => Utf8.encode (render tags).toList)
    (hfailure : failure.isNone = results.all (·.isOk)) :
    (finished failure output generator).Reports render results waits := by
  refine ⟨houtput, fun h => absurd h hwaits, fun _ => ?_⟩
  rw [← hfailure]
  cases failure <;> rfl

theorem endless_reports {output : List UInt8} (generator : σ) (hwaits : waits)
    (houtput : output =
      (beforeFailure results).flatMap fun tags => Utf8.encode (render tags).toList) :
    (endless output generator).Reports render results waits :=
  ⟨houtput, fun _ => rfl, fun h => absurd hwaits h⟩

/-- The log shows errors elsewhere. -/
theorem Reports.logged {outcome : Outcome σ} (h : outcome.Reports render results waits)
    (environment : String → Option (List UInt8)) :
    (outcome.logged environment).Reports render results waits :=
  ⟨h.output, h.endless, h.exitCode⟩

end Outcome

/-! ## Buffers -/

namespace BatchOutput

variable {out : BatchOutput}

theorem write_of_room_none (h : out.room = none) (bytes : List UInt8) :
    out.write bytes = (none, { out with written := out.written ++ bytes }) := by
  simp [write, taken, h]

/-- Closing an output hands on all that was written to it, if it can be flushed. -/
theorem handedOn_close (h : out.flushesLeft = none) : out.close.handedOn = out.written := by
  simp [close, flush, handedOn, h]

end BatchOutput

/-! ## Scans -/

section ScanAll

variable (scan : String → Except GrammarError TagSet) (render : TagSet → String)
  {out : BatchOutput}

theorem scanAll_cons_of_error {path : String} {e : GrammarError} (h : scan path = .error e)
    (paths : List String) :
    scanAll scan render out (path :: paths) = (some (.grammar e), out) := by
  rw [scanAll, h]

theorem scanAll_cons_of_ok {path : String} {tags : TagSet} (h : scan path = .ok tags)
    (hroom : out.room = none) (paths : List String) :
    scanAll scan render out (path :: paths) = scanAll scan render
      { out with written := out.written ++ Utf8.encode (render tags).toList } paths := by
  rw [scanAll, h]
  dsimp only
  rw [BatchOutput.write_of_room_none hroom]

/-- Whether or not a failure ends a scan, closing its output hands on what is in front of it. -/
theorem handedOn_scanAll (hroom : out.room = none) (hflushes : out.flushesLeft = none)
    (paths : List String) :
    (scanAll scan render out paths).2.close.handedOn = out.written ++
      (beforeFailure (paths.map scan)).flatMap fun tags => Utf8.encode (render tags).toList := by
  induction paths generalizing out with
  | nil =>
    have hflush : out.flush.2.flushesLeft = none := by simp [BatchOutput.flush, hflushes]
    have hwritten : out.flush.2.written = out.written := by simp [BatchOutput.flush, hflushes]
    rw [scanAll, BatchOutput.handedOn_close hflush, hwritten]
    exact (List.append_nil _).symm
  | cons path paths ih =>
    rw [List.map_cons]
    cases hscan : scan path with
    | error e =>
      rw [scanAll_cons_of_error scan render hscan, BatchOutput.handedOn_close hflushes]
      exact (List.append_nil _).symm
    | ok tags =>
      rw [scanAll_cons_of_ok scan render hscan hroom, beforeFailure, List.flatMap_cons,
        ← List.append_assoc]
      exact ih hroom hflushes

theorem isNone_scanAll (hroom : out.room = none) (hflushes : out.flushesLeft = none)
    (paths : List String) :
    (scanAll scan render out paths).1.isNone = (paths.map scan).all (·.isOk) := by
  induction paths generalizing out with
  | nil => simp [scanAll, BatchOutput.flush, hflushes]
  | cons path paths ih =>
    rw [List.map_cons]
    cases hscan : scan path with
    | error e =>
      rw [scanAll_cons_of_error scan render hscan]
      rfl
    | ok tags =>
      rw [scanAll_cons_of_ok scan render hscan hroom, List.all_cons]
      exact ih hroom hflushes

end ScanAll

/-- The files that are named like this path are in a language, and it has no grammar. -/
def LanguageMap.LacksGrammar (m : LanguageMap) (path : String) : Prop :=
  ∃ language, m.languageOfPath? path = some language ∧
    Grammar.ofName? (Grammar.lookupName language) = none

theorem LanguageMap.resolve_eq_error_iff {m : LanguageMap} {path : String} :
    (∃ e, m.resolve path = .error e) ↔ m.LacksGrammar path := by
  unfold resolve LacksGrammar Grammar.ofLanguage
  cases m.languageOfPath? path with
  | none => simp
  | some language =>
    cases hgrammar : Grammar.ofName? (Grammar.lookupName language) <;>
      simp [hgrammar, Except.map]

/-- If every text has a tree, only a language without a grammar keeps a file from being scanned. -/
theorem Scanner.scanPath_eq_error_iff {scanner : Scanner}
    (htrees : ∀ grammar text, ∃ tree, scanner.trees grammar text = .ok tree) (path : String) :
    (∃ e, scanner.scanPath path = .error e) ↔ scanner.languages.LacksGrammar path := by
  rw [← LanguageMap.resolve_eq_error_iff]
  unfold scanPath scanSource
  cases scanner.languages.resolve path with
  | error e => simp
  | ok grammar =>
    cases grammar with
    | none => simp
    | some grammar =>
      cases scanner.textOf? path with
      | none => simp
      | some text =>
        obtain ⟨tree, htree⟩ := htrees grammar text
        simp [htree, Except.map]

theorem Arguments.performScan_reports {σ : Type} (a : Arguments) (languages : LanguageMap)
    (world : Surroundings σ) :
    (a.performScan languages world).Reports (if a.json then TagSet.jsonLines else TagSet.batch)
      (a.scan.map (scanner languages world).scanPath) False :=
  Outcome.finished_reports none id (handedOn_scanAll _ _ rfl rfl _) (isNone_scanAll _ _ rfl rfl _)

/-! ## Requests -/

namespace Setting

variable {σ : Type} (x : Setting σ)

/-- What all requests of the input come to, also those behind the end of the run. -/
def results : List (Except Failure TagSet) := (List.range x.paths.length).map x.answerAt

theorem length_results : x.results.length = x.paths.length := by
  rw [results, List.length_map, List.length_range]

theorem getElem_results {k : Nat} (h : k < x.results.length) : x.results[k] = x.answerAt k := by
  simp [results]

/-- The results begin with the answers of the run. -/
theorem exists_results : ∃ answers : List TagSet, answers.length = x.run.served ∧
    x.results = answers.map .ok ++ x.results.drop x.run.served ∧
      x.batchesUpTo x.run.served = answers.flatMap fun s => Utf8.encode s.batch.toList := by
  obtain ⟨answers, hlen, hanswers, hbatches⟩ := x.exists_answers (Nat.le_refl x.run.served)
  have htake : x.results.take x.run.served = answers.map .ok := by
    refine List.ext_getElem ?_ fun k hk hk' => ?_
    · rw [List.length_take, length_results, List.length_map, hlen, Nat.min_eq_left x.served_le]
    · rw [List.getElem_take, getElem_results, List.getElem_map]
      exact hanswers k _
  exact ⟨answers, hlen, by rw [← htake, List.take_append_drop], hbatches⟩

/-- Behind the last request the source is asked no more. -/
theorem sourceAt_succ_length : x.sourceAt (x.paths.length + 1) = x.sourceAt x.paths.length := by
  rw [sourceAt, sourceAt, List.take_of_length_le (Nat.le_succ _), List.take_length]

section Unlimited

variable (hroom : x.room = none) (hflushes : x.flushes = none)

include hroom hflushes

/-- What the run hands on before its output is closed: all of the batches. -/
theorem handedOn_run : x.run.output.handedOn = x.batchesUpTo x.run.served := by
  obtain ⟨hwritten, hflushed⟩ := x.output_of_unlimited hroom hflushes
  rw [BatchOutput.handedOn, hwritten, hflushed]
  cases x.run.served with
  | zero => rfl
  | succ n => rw [flushesUpTo_succ, List.getLast?_concat, Option.getD_some, List.take_length]

/-- Closing the output changes nothing of it. -/
theorem handedOn_close_run : x.run.output.close.handedOn = x.batchesUpTo x.run.served := by
  have hleft : x.run.output.flushesLeft = none := by
    rw [run_eq]
    cases x.firstFailure? <;> simp [runAt, endAt, outputOf, hflushes]
  rw [BatchOutput.handedOn_close hleft, (x.output_of_unlimited hroom hflushes).1]

/-- The run by the results: it ends at the first failure, for which the source was asked too. -/
theorem run_of_results (hread : x.input.failure = none) :
    x.run.failure = firstError? x.results ∧
      x.run.source = x.sourceAt ((beforeFailure x.results).length + 1) ∧
      x.batchesUpTo x.run.served =
        (beforeFailure x.results).flatMap fun s => Utf8.encode s.batch.toList := by
  obtain ⟨answers, hlen, hresults, hbatches⟩ := x.exists_results
  rcases x.served_of_unlimited hroom hflushes with hall | ⟨hlt, e, he⟩
  · have hdrop : x.results.drop x.run.served = [] :=
      List.drop_eq_nil_iff.mpr (Nat.le_of_eq (x.length_results.trans hall.symm))
    have hrun : x.run = x.runAt x.paths.length :=
      x.run_of_answered hroom hflushes hread fun k hk => x.answerAt_of_lt_served (by omega)
    rw [hdrop] at hresults
    rw [hresults, beforeFailure_map_ok_append, firstError?_map_ok_append, beforeFailure,
      List.append_nil, hlen, hall, sourceAt_succ_length, hrun]
    rw [hall] at hbatches
    exact ⟨rfl, rfl, hbatches⟩
  · have hlt' : x.run.served < x.results.length := by rwa [length_results]
    rw [List.drop_eq_getElem_cons hlt', getElem_results, he] at hresults
    have hrun := x.run_of_answerAt_error hroom hflushes hlt
      (fun i hi => x.answerAt_of_lt_served hi) he
    rw [hresults, beforeFailure_map_ok_append, firstError?_map_ok_append, beforeFailure,
      List.append_nil, hlen]
    refine ⟨?_, ?_, hbatches⟩
    · rw [hrun]
      rfl
    · rw [hrun]

end Unlimited

end Setting

/-! ## The command -/

/-- The command waits in vain for the generator: for an answer, or for its end when the requests are
over, whether there are no more or one of them has failed. -/
def WaitsInVain {σ : Type} (g : Generator σ) (x : Setting (GeneratorSession σ)) : Prop :=
  firstError? x.results = some (.generator .stalled) ∨
    g.ends (x.sourceAt ((beforeFailure x.results).length + 1)).state = false

instance {σ : Type} (g : Generator σ) (x : Setting (GeneratorSession σ)) :
    Decidable (WaitsInVain g x) :=
  inferInstanceAs (Decidable (_ ∨ _))

namespace Arguments

variable {σ : Type} {a : Arguments} {languages : LanguageMap}

/-- All that the requests depend on when the generator is started. -/
def setting (a : Arguments) (languages : LanguageMap) (world : Surroundings σ)
    (session : GeneratorSession σ) : Setting (GeneratorSession σ) :=
  ⟨a.service languages world, session, ⟨world.input, none⟩, none, none⟩

theorem performRequests_reports (a : Arguments) (languages : LanguageMap) (world : Surroundings σ)
    (session : GeneratorSession σ) :
    let x := a.setting languages world session
    (a.performRequests languages world session).Reports TagSet.batch x.results
      (WaitsInVain world.generator x) := by
  intro x
  obtain ⟨hfailure, hsource, hbatches⟩ := x.run_of_results rfl rfl rfl
  have hhandedOn := (x.handedOn_run rfl rfl).trans hbatches
  have hclosed := (x.handedOn_close_run rfl rfl).trans hbatches
  rw [performRequests]
  split
  · next hstalled => exact Outcome.endless_reports _ (.inl (hfailure.symm.trans hstalled)) hhandedOn
  · next hstalled =>
    split
    · next hends =>
      refine Outcome.finished_reports _ ?_ hclosed ?_
      · rintro (h | h)
        · exact hstalled (hfailure.trans h)
        · rw [← hsource] at h
          exact absurd (hends.symm.trans h) (by decide)
      · rw [← isNone_firstError?, ← hfailure]
        rfl
    · next hends =>
      refine Outcome.endless_reports _ (.inr ?_) hclosed
      rw [← hsource]
      exact eq_false_of_ne_true hends

/-- The generator as the requests leave it. -/
theorem generator_performRequests (a : Arguments) (languages : LanguageMap)
    (world : Surroundings σ) (session : GeneratorSession σ) :
    let x := a.setting languages world session
    (a.performRequests languages world session).generator =
      some (x.sourceAt ((beforeFailure x.results).length + 1)).state := by
  intro x
  rw [← (x.run_of_results rfl rfl rfl).2.1, performRequests]
  split
  · rfl
  · split <;> rfl

theorem perform_of_error {e : LanguageMapError} (h : LanguageMap.parse a.langmap = .error e)
    (world : Surroundings σ) :
    a.perform world = .finished (some (.languageMap e)) [] none := by
  rw [perform, h]

theorem perform_of_scan (h : LanguageMap.parse a.langmap = .ok languages) (hscan : a.scan ≠ [])
    (world : Surroundings σ) : a.perform world = a.performScan languages world := by
  rw [perform, h]
  exact if_neg hscan

theorem perform_of_requests (h : LanguageMap.parse a.langmap = .ok languages)
    (hscan : a.scan = []) (world : Surroundings σ) :
    a.perform world = a.performService languages world := by
  rw [perform, h]
  exact if_pos hscan

section Service

variable {world : Surroundings σ}

theorem performService_of_error {reason : String}
    (h : world.launch a.generator generatorArguments = .error reason) :
    a.performService languages world =
      .finished (some (.generator (.spawnFailed a.generator reason))) [] none := by
  rw [performService, h]
  rfl

variable {started : StartedProgram σ}
  (h : world.launch a.generator generatorArguments = .ok started)

include h

/-- A program without one of the pipes is of no use. -/
theorem performService_of_missing (hpipes : (started.hasInput && started.hasOutput) = false) :
    ∃ e, a.performService languages world =
      .finished (some (.generator e)) [] (some started.state) := by
  rw [performService, h, GeneratorSession.spawn]
  cases hinput : started.hasInput with
  | false => exact ⟨.pipeUnavailable "stdin", rfl⟩
  | true =>
    cases houtput : started.hasOutput with
    | false => exact ⟨.pipeUnavailable "stdout", rfl⟩
    | true => simp [hinput, houtput] at hpipes

theorem performService_of_ok (hpipes : (started.hasInput && started.hasOutput) = true) :
    a.performService languages world =
      a.performRequests languages world (.start started.state) := by
  obtain ⟨hinput, houtput⟩ := (Bool.and_eq_true _ _).mp hpipes
  simp [performService, h, GeneratorSession.spawn, hinput, houtput]

end Service

/-- With a faulty language map or with paths to scan, the generator does not matter. -/
theorem perform_of_unused (h : (∃ e, LanguageMap.parse a.langmap = .error e) ∨ a.scan ≠ [])
    (world : Surroundings σ) :
    (a.perform world).generator = none ∧
      ∀ launch generator, a.perform { world with launch, generator } = a.perform world := by
  cases hparse : LanguageMap.parse a.langmap with
  | error e =>
    rw [perform_of_error hparse]
    exact ⟨rfl, fun launch generator => perform_of_error hparse _⟩
  | ok languages =>
    have hscan : a.scan ≠ [] := by simpa [hparse] using h
    rw [perform_of_scan hparse hscan]
    exact ⟨rfl, fun launch generator => perform_of_scan hparse hscan _⟩

end Arguments

/-- **What the command prints.** For any arguments that are understood:

If the language map is faulty, or the generator that is needed cannot be started or has no pipes,
nothing is printed, and the exit code is 1. Else the command prints the batches in front of the
first failure, whole and in order, and no more, whether it ends or not; and its exit code is 0 if
nothing fails and 1 otherwise. With paths to scan these are the references of the paths, as text or
as JSON, and where every text has a tree, only a language without a grammar fails. Without them they
are the answers to the requests of the input. There is no exit code if and only if the command waits
for the generator in vain.

With a faulty language map or with paths to scan, no generator is started, and it does not matter
what starting one would do. -/
theorem command_reports {σ : Type} {args : List String} {a : Arguments} (world : Surroundings σ)
    (h : Invocation.parse args = .work a) :
    let outcome := command args world
    (∀ e, LanguageMap.parse a.langmap = .error e →
      outcome.output = [] ∧ outcome.exitCode = some 1) ∧
    (∀ languages, LanguageMap.parse a.langmap = .ok languages → a.scan ≠ [] →
      let scanner := Arguments.scanner languages world
      outcome.Reports (if a.json then TagSet.jsonLines else TagSet.batch)
        (a.scan.map scanner.scanPath) False ∧
      ((∀ grammar text, ∃ tree, world.trees grammar text = .ok tree) →
        ∀ path, (∃ e, scanner.scanPath path = .error e) ↔ languages.LacksGrammar path)) ∧
    (∀ languages, LanguageMap.parse a.langmap = .ok languages → a.scan = [] →
      (∀ reason, world.launch a.generator generatorArguments = .error reason →
        outcome.output = [] ∧ outcome.exitCode = some 1 ∧ outcome.generator = none) ∧
      ∀ started, world.launch a.generator generatorArguments = .ok started →
        ((started.hasInput && started.hasOutput) = false →
          outcome.output = [] ∧ outcome.exitCode = some 1 ∧
          outcome.generator = some started.state) ∧
        ((started.hasInput && started.hasOutput) = true →
          let x := a.setting languages world (.start started.state)
          outcome.Reports TagSet.batch x.results (WaitsInVain world.generator x) ∧
          outcome.generator =
            some (x.sourceAt ((beforeFailure x.results).length + 1)).state)) ∧
    ((∃ e, LanguageMap.parse a.langmap = .error e) ∨ a.scan ≠ [] →
      outcome.generator = none ∧
      ∀ launch generator, command args { world with launch, generator } = outcome) := by
  intro outcome
  have hcommand : ∀ world : Surroundings σ,
      command args world = (a.perform world).logged world.environment := by
    intro world
    rw [command, h]
  have houtcome : outcome = (a.perform world).logged world.environment := hcommand world
  refine ⟨fun e hparse => ?_, fun languages hparse hscan => ⟨?_, ?_⟩,
    fun languages hparse hscan => ⟨fun reason hlaunch => ?_,
      fun started hlaunch => ⟨fun hpipes => ?_, fun hpipes => ?_⟩⟩,
    fun hunused => ⟨?_, fun launch generator => ?_⟩⟩
  · rw [houtcome, Arguments.perform_of_error hparse]
    exact ⟨rfl, rfl⟩
  · rw [houtcome, Arguments.perform_of_scan hparse hscan]
    exact (a.performScan_reports languages world).logged _
  · exact fun htrees path => Scanner.scanPath_eq_error_iff htrees path
  · rw [houtcome, Arguments.perform_of_requests hparse hscan,
      Arguments.performService_of_error hlaunch]
    exact ⟨rfl, rfl, rfl⟩
  · obtain ⟨e, hperform⟩ := Arguments.performService_of_missing hlaunch hpipes
    rw [houtcome, Arguments.perform_of_requests hparse hscan, hperform]
    exact ⟨rfl, rfl, rfl⟩
  · rw [houtcome, Arguments.perform_of_requests hparse hscan,
      Arguments.performService_of_ok hlaunch hpipes]
    exact ⟨(a.performRequests_reports languages world _).logged _,
      a.generator_performRequests languages world _⟩
  · rw [houtcome]
    exact (Arguments.perform_of_unused hunused world).1
  · rw [houtcome, hcommand, (Arguments.perform_of_unused hunused world).2]

/-- Three requests, and a program that answers the first. After some of the second answer it ends,
or waits for more. -/
def oneAnswer (ends : Bool) : Surroundings ScriptedGenerator where
  environment _ := none
  files _ := none
  trees grammar _ := .error (.parseFailed grammar.name)
  input := Utf8.encode "a.c\nb.c\nc.c\n".toList
  launch _ arguments := .ok ⟨.start arguments
    [⟨Utf8.encode "x 1 a.c int x;\n###terminator###\n".toList, false⟩,
      ⟨Utf8.encode "y 2 b.c int y;\n".toList, ends⟩], true, true⟩
  generator := ScriptedGenerator.generator fun _ => none

set_option maxRecDepth 8000 in
/-- A scan in which the second path has no grammar, and requests of which the second has no answer,
or never gets one. -/
theorem command_reports_of_three_runs :
    let args := ["--langmap", "C:.c,Ruby:.rb", "--scan", "x.c", "y.rb", "x.c"]
    let a : Arguments := ⟨"C:.c,Ruby:.rb", "ctags", false, ["x.c", "y.rb", "x.c"], false⟩
    let languages : LanguageMap := ⟨[(".rb", "Ruby"), (".c", "C")]⟩
    Invocation.parse args = .work a ∧ LanguageMap.parse a.langmap = .ok languages ∧
    languages.LacksGrammar "y.rb" ∧
    (command args oneSource).output = Utf8.encode oneSourceReferences.batch.toList ∧
    (command args oneSource).exitCode = some 1 ∧ (command args oneSource).generator = none ∧
    Invocation.parse ["--langmap", "C:.c"] = .work ⟨"C:.c", "ctags", false, [], false⟩ ∧
    ∀ ends, (command ["--langmap", "C:.c"] (oneAnswer ends)).output =
        Utf8.encode "D x 1 a.c int x;\n###terminator###\n".toList ∧
      (command ["--langmap", "C:.c"] (oneAnswer ends)).exitCode =
        if ends then some 1 else none := by
  intro args a languages
  have hargs : Invocation.parse args = .work a := by decide +kernel
  have hparse : LanguageMap.parse "C:.c,Ruby:.rb" = .ok languages := by rfl
  have hruby : languages.LacksGrammar "y.rb" := ⟨"Ruby", by decide +kernel, by decide +kernel⟩
  have hserve : Invocation.parse ["--langmap", "C:.c"] =
    .work ⟨"C:.c", "ctags", false, [], false⟩ := by decide +kernel
  obtain ⟨-, hscan, -, hunused⟩ := command_reports oneSource hargs
  obtain ⟨⟨houtput, -, hexit⟩, hfails⟩ := hscan languages hparse (by decide)
  obtain ⟨e, he⟩ := (hfails (fun _ _ => ⟨_, rfl⟩) "y.rb").mpr hruby
  have hsource : (Arguments.scanner languages oneSource).scanPath "x.c" =
    .ok oneSourceReferences := scanPath_oneSource_of_resolve rfl
  refine ⟨hargs, hparse, hruby, houtput.trans ?_, (hexit id).trans ?_,
    (hunused (.inr (by decide))).1, hserve, fun ends => ?_⟩
  · simp [a, hsource, he, beforeFailure]
  · simp [a, hsource, he, Except.isOk, Except.toBool]
  · obtain ⟨-, -, hanswers, -⟩ := command_reports (oneAnswer ends) hserve
    obtain ⟨-, hstarted⟩ := hanswers ⟨[(".c", "C")]⟩ (by rfl) rfl
    obtain ⟨⟨houtput, hendless, hexit⟩, -⟩ := (hstarted _ rfl).2 rfl
    refine ⟨houtput.trans ?_, ?_⟩
    · cases ends <;> decide +kernel
    · cases ends with
      | true => exact (hexit (by decide +kernel)).trans (by decide +kernel)
      | false => exact hendless (by decide +kernel)

end CodeTags
