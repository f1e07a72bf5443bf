import CodeTags.Channel
import CodeTags.Failure
import CodeTags.ReferenceScan

/-!
# The request service

Each line of the input asks for one path, and is answered with one batch before the next line is
read.

* `requestPath`: the path that a line asks for.
* `Service.answer`: the tags for a path, the definitions and with them the references.
* `Service.handle`: one request: ask, scan, write, flush.
* `Service.run`: all requests of an input. The first failure ends the run.
-/

namespace CodeTags

/-- The path of a request line: blanks at its end, with the end of the line, do not count. -/
def requestPath (line : String) : String := trimBlankEnd line

/-- The path that the bytes of a line ask for. -/
def requestOf (line : List UInt8) : String := requestPath (String.ofList (Utf8.decode line))

/-- The request lines that can be read. An unterminated last line is lost if reading then fails. -/
def RequestInput.lines (input : RequestInput) : List (List UInt8) :=
  linesBefore lineFeed input.failure.isSome input.bytes

/-- Answers requests for definitions, and changes with each. -/
abbrev DefinitionSource (σ : Type) := σ → String → Except GeneratorError TagSet × σ

/-- Where definitions come from, and references if they are wanted. -/
structure Service (σ : Type) where
  definitions : DefinitionSource σ
  references : Option (String → Except GrammarError TagSet)

/-- What a run has come to: the failure that ended it, the number of requests that were answered,
the output, and the state of the definition source. -/
structure Run (σ : Type) where
  failure : Option Failure
  served : Nat
  output : BatchOutput
  source : σ

namespace Service

variable {σ : Type}

/-- Adds the references of a file to its definitions, if they are wanted. -/
def addReferences (service : Service σ) (path : String) (tags : TagSet) :
    Except GrammarError TagSet :=
  match service.references with
  | none => .ok tags
  | some scan => (scan path).map tags.merge

/-- The tags for a path. -/
def answer (service : Service σ) (source : σ) (path : String) : Except Failure TagSet × σ :=
  match service.definitions source path with
  | (.error e, source) => (.error (.generator e), source)
  | (.ok tags, source) =>
    match service.addReferences path tags with
    | .error e => (.error (.grammar e), source)
    | .ok tags => (.ok tags, source)

/-- Writes a batch and flushes it; gives the reason of a failure. -/
def deliver (output : BatchOutput) (tags : TagSet) : Option String × BatchOutput :=
  match output.write (Utf8.encode tags.batch.toList) with
  | (some reason, output) => (some reason, output)
  | (none, output) => output.flush

/-- One request. Nothing is written before its answer is complete. -/
def handle (service : Service σ) (run : Run σ) (path : String) : Run σ :=
  match service.answer run.source path with
  | (.error e, source) => { run with failure := some e, source := source }
  | (.ok tags, source) =>
    match deliver run.output tags with
    | (some reason, output) => ⟨some (.channel reason), run.served, output, source⟩
    | (none, output) => ⟨none, run.served + 1, output, source⟩

/-- Requests one after the other, up to the first failure. -/
def handleAll (service : Service σ) (run : Run σ) : List String → Run σ
  | [] => run
  | path :: paths =>
    let run := service.handle run path
    if run.failure.isSome then run else service.handleAll run paths

/-- All requests of an input. The failure of the input itself comes last. -/
def run (service : Service σ) (source : σ) (input : RequestInput) (output : BatchOutput) : Run σ :=
  let run := service.handleAll ⟨none, 0, output, source⟩ (input.lines.map requestOf)
  match run.failure with
  | some _ => run
  | none => { run with failure := input.failure.map .channel }

end Service

end CodeTags
