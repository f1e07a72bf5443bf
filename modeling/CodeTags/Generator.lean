import CodeTags.Batch
import CodeTags.ReplyLine
import CodeTags.Text.Slice
import CodeTags.Text.Split
import CodeTags.Text.Trim
import CodeTags.Text.Utf8

/-!
# The tag generator

Definitions come from another program that runs beside this one. It is sent a path on a line and
answers with lines, the last of which is the terminator.

* `Generator`: how the other program reacts to what is written to it, what a read finds behind its
  output, and for which paths its lines can be told from others.
* `GeneratorSession`: its state, the output that has not been read, and whether it can be used.
* `GeneratorSession.exchange`: sends one path and reads one answer.
* `GeneratorSession.query`: an exchange whose failure is final, because nobody knows then which
  answer the unread output belongs to.

There are no time limits: where the other program neither goes on nor ends, a query is stalled.
-/

namespace CodeTags

/-- Why the tag generator gave no definitions. A stalled query never returns, so that nothing is
done behind it and nothing is reported. -/
inductive GeneratorError where
  | spawnFailed (program reason : String)
  | pipeUnavailable (pipe : String)
  | exited (path : String)
  | dead
  | io (reason : String)
  | badPattern (reason : String)
  | stalled
deriving DecidableEq, Repr

/-- The text of the error, if it is reported. -/
def GeneratorError.message? : GeneratorError → Option String
  | spawnFailed program reason =>
    some ("failed to spawn tag generator '" ++ program ++ "': " ++ reason)
  | pipeUnavailable pipe => some ("tag generator " ++ pipe ++ " pipe not available")
  | exited path => some ("tag generator exited before finishing '" ++ path ++ "'")
  | dead => some "tag generator is no longer running"
  | io reason => some ("tag generator IO error: " ++ reason)
  | badPattern reason => some ("invalid reply pattern: " ++ reason)
  | stalled => none

/-- The arguments of the tag generator: one path on each line of its input, definitions as a cross
reference, and a terminator after each path. -/
def generatorArguments : List String :=
  ["-xu", "--filter", "--filter-terminator=" ++ terminator ++ "\n", "--format=1"]

/-- The byte that ends a line. -/
def lineFeed : UInt8 := 10

/-! ## Reading an answer -/

/-- The text of a line of output, without its end. -/
def replyText (line : List UInt8) : String := String.ofList (lineContent (Utf8.decode line))

/-- The line ends an answer. -/
def isTerminator (line : List UInt8) : Bool := replyText line == terminator

/-- Takes one line of an answer. A line that reports no definition is passed over. -/
def TagSet.insertReply (s : TagSet) (line : List UInt8) : TagSet :=
  match Definition.parse? s.path (replyText line) with
  | some d => s.insertDefinition d
  | none => s

/-- Reads lines up to the terminator: the definitions, and the lines after it. -/
def readAnswer (s : TagSet) : List (List UInt8) → Option (TagSet × List (List UInt8))
  | [] => none
  | line :: lines =>
    if isTerminator line then some (s, lines) else readAnswer (s.insertReply line) lines

/-! ## The other program -/

/-- Why a pipe takes or gives no more bytes: an error, or the program at its other end, which goes
on without using the pipe. -/
inductive PipeStop where
  | failed (reason : String)
  | stalled
deriving DecidableEq, Repr

/-- What a query comes to that a pipe stops. -/
def PipeStop.error : PipeStop → GeneratorError
  | failed reason => .io reason
  | stalled => .stalled

/-- Why an answer about `path` is not complete, where this is what stands behind the output. -/
def GeneratorError.atEnd (path : String) : Option PipeStop → GeneratorError
  | none => .exited path
  | some stop => stop.error

/-- What comes of writing bytes to a program: its new state, and what it has put into its output. If
not all bytes are taken, `stop` is the number of those that are, and what keeps the others back. -/
structure Sent (σ : Type) where
  state : σ
  output : List UInt8
  stop : Option (Nat × PipeStop)

/-- A program that reads requests and writes answers. -/
structure Generator (σ : Type) where
  /-- Writes bytes to the program. -/
  send : σ → List UInt8 → Sent σ
  /-- What a read meets behind all that the program has put out so far; nothing if the output has
  ended. -/
  behind : σ → Option PipeStop
  /-- The program ends once its input is closed. -/
  ends : σ → Bool
  /-- Why no pattern can be built for the lines about a path, if none can. -/
  patternError? : String → Option String

/-- Patterns take room for their path, and there is enough for so many bytes of it. -/
def patternErrorAbove (bound : Nat) (path : String) : Option String :=
  if bound < byteLength path.toList then
    some "Compiled regex exceeds size limit of 10485760 bytes."
  else none

/-- A program that was started, and whether pipes lead to its input and from its output. -/
structure StartedProgram (σ : Type) where
  state : σ
  hasInput : Bool
  hasOutput : Bool

/-! ## Sessions -/

/-- A running generator: its state, the output not yet read, and whether all went well so far. -/
structure GeneratorSession (σ : Type) where
  state : σ
  unread : List UInt8
  ready : Bool

namespace GeneratorSession

variable {σ : Type}

/-- A generator that has just been started. -/
def start (state : σ) : GeneratorSession σ := ⟨state, [], true⟩

/-- A session with a program, or the reason why there is none. -/
def spawn (program : String) :
    Except String (StartedProgram σ) → Except GeneratorError (GeneratorSession σ)
  | .error reason => .error (.spawnFailed program reason)
  | .ok started =>
    if !started.hasInput then .error (.pipeUnavailable "stdin")
    else if !started.hasOutput then .error (.pipeUnavailable "stdout")
    else .ok (.start started.state)

/-- The bytes of a request. -/
def requestBytes (path : String) : List UInt8 := Utf8.encode path.toList ++ [lineFeed]

/-- The session after something was written to its generator. -/
def afterSend (s : GeneratorSession σ) (sent : Sent σ) : GeneratorSession σ :=
  { s with state := sent.state, unread := s.unread ++ sent.output }

/-- Reads an answer about `path` from the unread output, where `behind` is what stands behind it. If
the answer is not complete, all of the output has been read. -/
def receive (behind : Option PipeStop) (s : GeneratorSession σ) (path : String) :
    Except GeneratorError TagSet × GeneratorSession σ :=
  let lines := linesBefore lineFeed behind.isSome s.unread
  match readAnswer (.empty path) lines with
  | some (tags, later) =>
    (.ok tags, { s with unread := later.flatten ++ s.unread.drop lines.flatten.length })
  | none => (.error (.atEnd path behind), { s with unread := [] })

/-- Sends a request for the definitions in the file at `path`, and reads the answer. The pattern for
its lines is built in between: without one the answer stays where it is. -/
def exchange (g : Generator σ) (s : GeneratorSession σ) (path : String) :
    Except GeneratorError TagSet × GeneratorSession σ :=
  let sent := g.send s.state (requestBytes path)
  match sent.stop with
  | some (_, stop) => (.error stop.error, s.afterSend sent)
  | none =>
    match g.patternError? path with
    | some reason => (.error (.badPattern reason), s.afterSend sent)
    | none => (s.afterSend sent).receive (g.behind sent.state) path

/-- Asks for the definitions in the file at `path`. After any error nothing more is asked. -/
def query (g : Generator σ) (s : GeneratorSession σ) (path : String) :
    Except GeneratorError TagSet × GeneratorSession σ :=
  if s.ready then
    match s.exchange g path with
    | (.ok tags, s) => (.ok tags, s)
    | (.error e, s) => (.error e, { s with ready := false })
  else (.error .dead, s)

/-- Asks for several paths in turn. A stalled query is the last one. -/
def queries (g : Generator σ) (s : GeneratorSession σ) :
    List String → List (Except GeneratorError TagSet × GeneratorSession σ)
  | [] => []
  | path :: paths =>
    match s.query g path with
    | (.error .stalled, s) => [(.error .stalled, s)]
    | (result, s) => (result, s) :: queries g s paths

end GeneratorSession

end CodeTags
