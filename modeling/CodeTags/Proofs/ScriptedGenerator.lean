import CodeTags.Proofs.Text.LineFeed
import CodeTags.ScriptedGenerator

/-!
# A scripted generator and one request

* `requestLines_requestBytes`, `send_requestBytes`: a request is one line for the program that reads
  it, and is answered with one reply.
* `longPath`: a path on one line that is as long as one likes; from some length on there is no
  pattern for it.
-/

namespace CodeTags

/-! ## Requests -/

namespace ScriptedGenerator

open GeneratorSession

/-- A path on one line makes one line of a request. -/
theorem linesAfter_requestBytes {path : String} (h : '\n' ∉ path.toList) :
    linesAfter lineFeed (requestBytes path) = [requestBytes path] := by
  have hpath : lineFeed ∉ Utf8.encode path.toList := mt Utf8.lineFeed_mem_encode.mp h
  rw [requestBytes, linesAfter_append_cons hpath []]
  rfl

theorem requestLines_requestBytes {path : String} (h : '\n' ∉ path.toList) :
    requestLines (requestBytes path) = [Utf8.encode path.toList] := by
  have hself : trimEnd (· == lineFeed) (Utf8.encode path.toList) = Utf8.encode path.toList :=
    trimEnd_eq_self fun b hb => beq_eq_false_iff_ne.mpr fun e =>
      h (Utf8.lineFeed_mem_encode.mp (e ▸ hb))
  rw [requestLines, linesAfter_requestBytes h, List.map_singleton, requestBytes,
    trimEnd_concat_of_pos (by simp), hself]

/-- A request for a path on one line is read as one line, and answered with one reply. -/
theorem send_requestBytes {p : ScriptedGenerator} {reply : ScriptedReply}
    {replies : List ScriptedReply} {path : String} (hlistening : p.listening = true)
    (hreplies : p.replies = reply :: replies) (hpath : '\n' ∉ path.toList)
    (patternError? : String → Option String) :
    (generator patternError?).send p (requestBytes path) =
      ⟨{ p with
          replies := replies
          requests := p.requests ++ [Utf8.encode path.toList]
          listening := !reply.isLast }, reply.output, none⟩ := by
  simp [generator, hlistening, requestLines_requestBytes hpath, readLines, readLine, hreplies]

end ScriptedGenerator

/-! ## Long paths -/

/-- A path of so many letters. -/
def longPath (n : Nat) : String := String.ofList (List.replicate n 'a')

theorem newline_not_mem_longPath (n : Nat) : '\n' ∉ (longPath n).toList := by
  rw [longPath, String.toList_ofList]
  exact fun h => absurd (List.eq_of_mem_replicate h) (by decide)

theorem byteLength_longPath (n : Nat) : byteLength (longPath n).toList = n := by
  rw [longPath, String.toList_ofList]
  induction n with
  | zero => rfl
  | succ n ih =>
    rw [List.replicate_succ, byteLength_cons, ih, show 'a'.utf8Size = 1 from rfl, Nat.add_comm]

/-- A path that is too long has no pattern. -/
theorem patternErrorAbove_longPath {bound n : Nat} (h : bound < n) :
    patternErrorAbove bound (longPath n) =
      some "Compiled regex exceeds size limit of 10485760 bytes." := by
  rw [patternErrorAbove, byteLength_longPath, if_pos h]

end CodeTags
