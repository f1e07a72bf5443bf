import CodeTags.Generator
import CodeTags.SystemError

/-!
# A generator that follows a script

A tag generator whose answers are fixed beforehand, one for each line that it reads.

* `ScriptedReply`: what is written for a line, and whether more lines are read after it.
* `ScriptedGenerator`: the replies that are left, and what the program was given so far.
* `ScriptedGenerator.generator`: how it reacts to what is written to it.
-/

namespace CodeTags

/-- The output for one line. After the last one the program reads no more, whether it ends or has
only closed its input. -/
structure ScriptedReply where
  output : List UInt8
  isLast : Bool
deriving DecidableEq, Repr

/-- The arguments of the program, the replies that are left, the lines read so far, and whether it
reads more lines. -/
structure ScriptedGenerator where
  arguments : List String
  replies : List ScriptedReply
  requests : List (List UInt8)
  listening : Bool
deriving DecidableEq, Repr

namespace ScriptedGenerator

/-- The program as it starts. -/
def start (arguments : List String) (replies : List ScriptedReply) : ScriptedGenerator :=
  ⟨arguments, replies, [], true⟩

/-- Reads a line, given without its end: the program afterwards, and the reply. It ends when no
reply is left. -/
def readLine (p : ScriptedGenerator) (line : List UInt8) : ScriptedGenerator × List UInt8 :=
  match p.replies with
  | [] => ({ p with requests := p.requests ++ [line], listening := false }, [])
  | reply :: replies =>
    ({ p with
        replies := replies
        requests := p.requests ++ [line]
        listening := !reply.isLast }, reply.output)

/-- Reads lines as long as the program reads at all. -/
def readLines (p : ScriptedGenerator) : List (List UInt8) → ScriptedGenerator × List UInt8
  | [] => (p, [])
  | line :: lines =>
    if p.listening then
      let (p, output) := p.readLine line
      let (p, later) := p.readLines lines
      (p, output ++ later)
    else (p, [])

/-- The lines that some bytes consist of, without their ends. -/
def requestLines (bytes : List UInt8) : List (List UInt8) :=
  (linesAfter lineFeed bytes).map (trimEnd (· == lineFeed))

/-- How the program reacts to what is written to it. What it does not read any more stays in the
pipe if it was written at once with what it has read, and is refused later. It writes only when it
reads, and ends with its input. -/
def generator (patternError? : String → Option String) : Generator ScriptedGenerator where
  send p bytes :=
    if p.listening then
      let (p, output) := p.readLines (requestLines bytes)
      ⟨p, output, none⟩
    else ⟨p, [], some (0, .failed SystemError.brokenPipe.message)⟩
  behind p := if p.listening then some .stalled else none
  ends _ := true
  patternError? := patternError?

end ScriptedGenerator

end CodeTags
