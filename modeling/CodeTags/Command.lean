import CodeTags.CommandLine
import CodeTags.JsonLines
import CodeTags.LogFilter
import CodeTags.LogText
import CodeTags.Service

/-!
# The command

The whole program as a function of its surroundings: it scans files once, or serves requests.

* `Surroundings`: what the program finds: environment, files, parsers, input, other programs.
* `Outcome`: what it leaves: exit code, output, the text of the error, the generator it started.
  It may not end at all, because it waits for the generator.
* `Arguments.perform`: what is done for given arguments.
* `command`: reads the arguments first, and shows the error in the log at the end.
-/

namespace CodeTags

/-- What the program finds around it. Starting another program gives that program, or fails. -/
structure Surroundings (σ : Type) where
  environment : String → Option (List UInt8)
  files : FileSource
  trees : TreeSource
  input : List UInt8
  launch : (program : String) → (arguments : List String) → Except String (StartedProgram σ)
  generator : Generator σ

/-- What the program leaves. There is no exit code if it never ends. The error is there only if
there was one and it is shown. -/
structure Outcome (σ : Type) where
  exitCode : Option Nat
  output : List UInt8
  error : Option String
  generator : Option σ

namespace Outcome

variable {σ : Type}

/-- Nothing but text on the output. -/
def print (text : String) : Outcome σ := ⟨some 0, Utf8.encode text.toList, none, none⟩

/-- The arguments were not understood. -/
def misuse : Outcome σ := ⟨some 2, [], none, none⟩

/-- The work is done, or a failure has ended it. -/
def finished (failure : Option Failure) (output : List UInt8) (generator : Option σ) : Outcome σ :=
  ⟨some (if failure.isSome then 1 else 0), output, failure.bind (·.message?), generator⟩

/-- The program waits for the generator, in vain. -/
def endless (output : List UInt8) (generator : σ) : Outcome σ :=
  ⟨none, output, none, some generator⟩

/-- The error as the log shows it, if its filter lets errors through. -/
def logged (outcome : Outcome σ) (environment : String → Option (List UInt8)) : Outcome σ :=
  { outcome with error := if logsErrors environment then outcome.error.map logText else none }

end Outcome

/-! ## Scanning -/

/-- Writes the references in files one after the other, each as `render` has them. The output is
flushed behind the last one; the first failure ends the scan without that. -/
def scanAll (scan : String → Except GrammarError TagSet) (render : TagSet → String)
    (output : BatchOutput) : List String → Option Failure × BatchOutput
  | [] =>
    let (reason, output) := output.flush
    (reason.map .channel, output)
  | path :: paths =>
    match scan path with
    | .error e => (some (.grammar e), output)
    | .ok tags =>
      match output.write (Utf8.encode (render tags).toList) with
      | (some reason, output) => (some (.channel reason), output)
      | (none, output) => scanAll scan render output paths

namespace Arguments

variable {σ : Type}

/-- The reference scanner that the arguments and the surroundings give. -/
def scanner (languages : LanguageMap) (world : Surroundings σ) : Scanner :=
  ⟨languages, ScanOptions.ofEnvironment world.environment, world.trees, world.files⟩

/-- Prints the references of the files to scan. Whatever ends the scan, its output is closed. -/
def performScan (a : Arguments) (languages : LanguageMap) (world : Surroundings σ) : Outcome σ :=
  let render := if a.json then TagSet.jsonLines else TagSet.batch
  let (failure, output) := scanAll (scanner languages world).scanPath render .unlimited a.scan
  .finished failure output.close.handedOn none

/-- The service that answers requests with a running tag generator. -/
def service (a : Arguments) (languages : LanguageMap) (world : Surroundings σ) :
    Service (GeneratorSession σ) where
  definitions session path := session.query world.generator path
  references := if a.withReferences then some (scanner languages world).scanPath else none

/-- Answers all requests of the input. When the requests are over, the output is closed, then the
input of the generator, and the program waits for the generator to end. -/
def performRequests (a : Arguments) (languages : LanguageMap) (world : Surroundings σ)
    (session : GeneratorSession σ) : Outcome σ :=
  let run := (a.service languages world).run session ⟨world.input, none⟩ .unlimited
  let generator := run.source.state
  if run.failure = some (.generator .stalled) then .endless run.output.handedOn generator
  else if world.generator.ends generator then
    .finished run.failure run.output.close.handedOn (some generator)
  else .endless run.output.close.handedOn generator

/-- Starts the tag generator and answers all requests of the input. -/
def performService (a : Arguments) (languages : LanguageMap) (world : Surroundings σ) :
    Outcome σ :=
  let started := world.launch a.generator generatorArguments
  match GeneratorSession.spawn a.generator started with
  | .error e => .finished (some (.generator e)) [] (started.toOption.map (·.state))
  | .ok session => a.performRequests languages world session

/-- Does what the arguments ask for. The language map is read first. -/
def perform (a : Arguments) (world : Surroundings σ) : Outcome σ :=
  match LanguageMap.parse a.langmap with
  | .error e => .finished (some (.languageMap e)) [] none
  | .ok languages =>
    if a.scan = [] then a.performService languages world else a.performScan languages world

end Arguments

/-- The whole program. -/
def command {σ : Type} (args : List String) (world : Surroundings σ) : Outcome σ :=
  match Invocation.parse args with
  | .help => .print helpText
  | .version => .print versionText
  | .misuse => .misuse
  | .work arguments => (arguments.perform world).logged world.environment

end CodeTags
