/-!
# Channels

The two ends at which requests come in and batches go out. Both can fail.

* `RequestInput`: the bytes that can be read, and whether reading ends or fails after them.
* `BatchOutput`: what has been written and flushed, and how much more the other side takes.
* `BatchOutput.write`, `BatchOutput.flush`: the reason of a failure, if any, and the output
  afterwards.
* `BatchOutput.handedOn`: what has left the program for sure. `BatchOutput.close`: the end of an
  output, with the last flush.
-/

namespace CodeTags

/-- The bytes that can be read; after them the input ends, or reading fails for a reason. -/
structure RequestInput where
  bytes : List UInt8
  failure : Option String
deriving DecidableEq, Repr

/-- The bytes written so far, their number at each flush, and the number of bytes and of flushes
that will still succeed; `none` is no limit. -/
structure BatchOutput where
  written : List UInt8
  flushedAt : List Nat
  room : Option Nat
  flushesLeft : Option Nat
deriving DecidableEq, Repr

namespace BatchOutput

/-- Nothing is written yet. -/
def start (room flushesLeft : Option Nat) : BatchOutput := ⟨[], [], room, flushesLeft⟩

/-- Nothing is written yet, and everything will be taken. -/
def unlimited : BatchOutput := start none none

/-- The number of bytes out of `n` that are taken. -/
def taken (out : BatchOutput) (n : Nat) : Nat :=
  match out.room with
  | none => n
  | some room => min n room

/-- Writes bytes. If they are too many, those that fit are written. -/
def write (out : BatchOutput) (bytes : List UInt8) : Option String × BatchOutput :=
  let n := out.taken bytes.length
  (if n = bytes.length then none else some "write failed",
    { out with written := out.written ++ bytes.take n, room := out.room.map (· - n) })

/-- Hands on everything that is written. -/
def flush (out : BatchOutput) : Option String × BatchOutput :=
  if out.flushesLeft = some 0 then (some "flush failed", out)
  else
    (none,
      { out with
        flushedAt := out.flushedAt ++ [out.written.length]
        flushesLeft := out.flushesLeft.map (· - 1) })

/-- The bytes that the other side has for sure. Those written since the last flush may still be in a
buffer. -/
def handedOn (out : BatchOutput) : List UInt8 := out.written.take (out.flushedAt.getLast?.getD 0)

/-- The output is let go. Its buffer is flushed then, and nobody hears of it if that fails. -/
def close (out : BatchOutput) : BatchOutput := out.flush.2

end BatchOutput

end CodeTags
