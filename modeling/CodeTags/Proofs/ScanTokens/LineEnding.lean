import CodeTags.Proofs.LineEnding
import CodeTags.Proofs.ScanTokens

/-!
# References in texts with other ends of lines

A source can end its lines with a carriage return and a line feed. Then everything in it stands
farther behind, by one place for each line before. The references are the same all the same.

* `LineEnding.writeText`: a text with other ends of lines; its bytes are those of
  `LineEnding.write` (`LineEnding.encode_writeText`).
* `LineEnding.place`: where a place of a text is then, and `LineEnding.take_write`: what is before
  it.
* `LineEnding.writeToken`: a token at its new place.
* `LineEnding.lineNumberAt_place`, `LineEnding.lineAt_writeText`, `LineEnding.symbolOf?_writeText`:
  line numbers, lines and symbols are the same.
* `scanTokens_writeText`: so are the references.
-/

namespace CodeTags

namespace LineEnding

variable (ending : LineEnding)

/-! ## Texts -/

/-- The characters in front of the line feed. -/
def frontText : LineEnding → List Char
  | lf => []
  | crlf => ['\r']

/-- The characters with this end in the place of every line feed. -/
def writeChars (cs : List Char) : List Char :=
  cs.flatMap fun c => if c = '\n' then ending.frontText ++ ['\n'] else [c]

/-- The text with this end in the place of every line feed. -/
def writeText (text : String) : String := String.ofList (ending.writeChars text.toList)

theorem eq_of_mem_frontText {c : Char} (h : c ∈ ending.frontText) : c = '\r' := by
  cases ending with
  | lf => exact absurd h List.not_mem_nil
  | crlf => exact List.mem_singleton.mp h

theorem writeChars_cons (c : Char) (cs : List Char) :
    ending.writeChars (c :: cs) =
      (if c = '\n' then ending.frontText ++ ['\n'] else [c]) ++ ending.writeChars cs :=
  List.flatMap_cons

theorem writeChars_of_not_mem {cs : List Char} (h : '\n' ∉ cs) : ending.writeChars cs = cs :=
  flatMap_of_not_mem h _

theorem writeChars_line {body : List Char} (h : '\n' ∉ body) (rest : List Char) :
    ending.writeChars (body ++ '\n' :: rest) =
      body ++ ending.frontText ++ '\n' :: ending.writeChars rest := by
  have happend : ending.writeChars (body ++ '\n' :: rest) =
      ending.writeChars body ++ ending.writeChars ('\n' :: rest) := List.flatMap_append
  rw [happend, writeChars_of_not_mem ending h, writeChars_cons, if_pos rfl]
  simp

/-- Between two line feeds stands what stood there before, but for carriage returns at its end. -/
theorem trimEnd_getD_fieldsOf_writeChars (cs : List Char) (i : Nat) :
    trimEnd (· == '\r') ((fieldsOf '\n' (ending.writeChars cs)).getD i []) =
      trimEnd (· == '\r') ((fieldsOf '\n' cs).getD i []) := by
  induction cs using lines_induction '\n' generalizing i with
  | nil => rfl
  | last cs hmem _ => rw [writeChars_of_not_mem ending hmem]
  | line body rest hbody ih =>
    have hfront : ∀ c ∈ ending.frontText, (c == '\r') = true := fun c hc =>
      beq_iff_eq.mpr (ending.eq_of_mem_frontText hc)
    have hline : '\n' ∉ body ++ ending.frontText := fun hmem =>
      (List.mem_append.mp hmem).elim hbody fun hmem =>
        absurd (ending.eq_of_mem_frontText hmem) (by decide)
    rw [writeChars_line ending hbody, fieldsOf_append_cons hline, fieldsOf_append_cons hbody]
    cases i with
    | zero => exact trimEnd_append_of_forall hfront body
    | succ i => exact ih i

theorem lineAt_writeText (text : String) (line : Nat) :
    lineAt (ending.writeText text) line = lineAt text line := by
  rw [lineAt, lineAt, writeText, String.toList_ofList, trimEnd_getD_fieldsOf_writeChars]

/-- All that is new is blank, so it is in no symbol. -/
theorem symbolOf?_writeText (strip : Bool) (name : String) :
    symbolOf? strip (ending.writeText name) = symbolOf? strip name := by
  have hbare : ∀ cs, (ending.writeChars cs).filter (!isBlank ·) = cs.filter (!isBlank ·) := by
    intro cs
    induction cs with
    | nil => rfl
    | cons c cs ih =>
      have hsplit : (c :: cs).filter (!isBlank ·) =
          [c].filter (!isBlank ·) ++ cs.filter (!isBlank ·) := List.filter_append [c] cs
      rw [writeChars_cons, List.filter_append, ih, hsplit]
      congr 1
      split
      · next hc =>
        subst hc
        cases ending <;> decide
      · rfl
  rw [symbolOf?, symbolOf?, writeText, String.toList_ofList, hbare]

/-! ## Places -/

/-- Where the byte at a place of some bytes is when they are written with this end. -/
def place (bytes : List UInt8) (offset : Nat) : Nat :=
  offset + ending.front.length * (bytes.take offset).count lineFeed

theorem encode_frontText : Utf8.encode ending.frontText = ending.front := by
  cases ending <;> rfl

theorem encode_writeText (text : String) :
    Utf8.encode (ending.writeText text).toList = ending.write (Utf8.encode text.toList) := by
  rw [writeText, String.toList_ofList]
  induction text.toList with
  | nil => rfl
  | cons c cs ih =>
    have hcons : Utf8.encode (c :: cs) = Utf8.encodeChar c ++ Utf8.encode cs := List.flatMap_cons
    rw [writeChars_cons, Utf8.encode_append, ih, hcons, write_append]
    congr 1
    split
    · next hc =>
      subst hc
      rw [Utf8.encode_append, encode_frontText]
      exact (ending.write_lineFeed).symm
    · next hc =>
      rw [ending.write_of_not_mem (mt Utf8.lineFeed_mem_encodeChar.mp hc)]
      exact List.flatMap_singleton Utf8.encodeChar c

theorem count_write (bytes : List UInt8) :
    (ending.write bytes).count lineFeed = bytes.count lineFeed := by
  have hfront : ending.front.count lineFeed = 0 :=
    List.count_eq_zero_of_not_mem fun h => absurd (ending.eq_of_mem_front h) (by decide)
  induction bytes using lines_induction lineFeed with
  | nil => rfl
  | last bytes hmem _ => rw [write_of_not_mem ending hmem]
  | line body rest hbody ih =>
    have hsplit : body ++ lineFeed :: rest = body ++ [lineFeed] ++ rest := by simp
    rw [hsplit, write_append, write_line ending hbody, List.count_append, ih, List.count_append,
      List.count_append, hfront, List.count_append, List.count_append, Nat.add_zero]

theorem place_cons_succ (b : UInt8) (bytes : List UInt8) (offset : Nat) :
    ending.place (b :: bytes) (offset + 1) =
      (ending.write [b]).length + ending.place bytes offset := by
  rw [place, place, List.take_succ_cons]
  by_cases hb : b = lineFeed
  · subst hb
    rw [List.count_cons_self, write_lineFeed, List.length_append, Nat.mul_add, List.length_singleton]
    omega
  · have hwrite : ending.write [b] = [b] :=
      ending.write_of_not_mem fun hmem => hb (List.mem_singleton.mp hmem).symm
    rw [List.count_cons_of_ne hb, hwrite, List.length_singleton]
    omega

/-- What is before a place is before its new one, with the other ends. -/
theorem take_write (bytes : List UInt8) (offset : Nat) :
    (ending.write bytes).take (ending.place bytes offset) = ending.write (bytes.take offset) := by
  induction bytes generalizing offset with
  | nil => simp [write]
  | cons b bytes ih =>
    cases offset with
    | zero => simp [place, write]
    | succ offset =>
      have hfirst : ∀ bs, ending.write (b :: bs) = ending.write [b] ++ ending.write bs :=
        fun bs => ending.write_append [b] bs
      rw [place_cons_succ, List.take_succ_cons, hfirst bytes, hfirst (bytes.take offset),
        List.take_length_add_append, ih]

/-- Places stay in order. -/
theorem place_mono (bytes : List UInt8) {offset offset' : Nat} (h : offset ≤ offset') :
    ending.place bytes offset ≤ ending.place bytes offset' :=
  Nat.add_le_add h (Nat.mul_le_mul_left _ ((List.take_sublist_take_left h).count_le lineFeed))

theorem place_max (bytes : List UInt8) (offset offset' : Nat) :
    ending.place bytes (max offset offset') =
      max (ending.place bytes offset) (ending.place bytes offset') := by
  rcases Nat.le_total offset offset' with h | h
  · rw [Nat.max_eq_right h, Nat.max_eq_right (ending.place_mono bytes h)]
  · rw [Nat.max_eq_left h, Nat.max_eq_left (ending.place_mono bytes h)]

theorem lineNumberAt_place (text : String) (offset : Nat) :
    lineNumberAt (ending.writeText text) (ending.place (Utf8.encode text.toList) offset) =
      lineNumberAt text offset := by
  rw [lineNumberAt, lineNumberAt, encode_writeText, take_write, count_write]

/-! ## Tokens -/

/-- The token in the text with the other ends. -/
def writeToken (text : String) (token : Token) : Token where
  offset := ending.place (Utf8.encode text.toList) token.offset
  tokenClass := token.tokenClass
  text := ending.writeText token.text

/-- Two cursors that are on the same line for every place record the same, and go on so. -/
theorem recordsFrom_writeToken {text : String} {options : ScanOptions} {cursor cursor' : LineCursor}
    (h : ∀ offset, (cursor'.advance (ending.place (Utf8.encode text.toList) offset)).line =
      (cursor.advance offset).line) (tokens : List Token) :
    recordsFrom (.ofText (ending.writeText text)) (ending.writeText text) options cursor'
        (tokens.map (ending.writeToken text)) =
      recordsFrom (.ofText text) text options cursor tokens := by
  induction tokens generalizing cursor cursor' with
  | nil => rw [List.map_nil, recordsFrom, recordsFrom]
  | cons token tokens ih =>
    have hlater : ∀ offset,
        ((cursor'.advance (ending.writeToken text token).offset).advance
            (ending.place (Utf8.encode text.toList) offset)).line =
          ((cursor.advance token.offset).advance offset).line := by
      intro offset
      rw [LineCursor.advance_advance, LineCursor.advance_advance, writeToken, ← place_max, h]
    have himage : ∀ line, (LineIndex.ofText (ending.writeText text)).lineText
        (ending.writeText text) line = (LineIndex.ofText text).lineText text line := by
      intro line
      rw [lineText_eq_lineAt, lineText_eq_lineAt, lineAt_writeText]
    simp only [List.map_cons, recordsFrom, LineCursor.lineOf, ih hlater, ih h, himage]
    simp only [writeToken, symbolOf?_writeText, h]

end LineEnding

/-- **References in texts with other ends of lines.** Let every line feed of a text become a
carriage return and a line feed, and let tokens move on with the bytes before them, in the text and
in their own texts. The references are the same, with the same lines and images: for tokens in any
order, also behind the end of the text, and if lines end with carriage returns already. -/
theorem scanTokens_writeText (ending : LineEnding) (path text : String) (tokens : List Token)
    (options : ScanOptions) :
    scanTokens path (ending.writeText text) (tokens.map (ending.writeToken text)) options =
      scanTokens path text tokens options := by
  have hcursor : ∀ offset,
      ((LineIndex.ofText (ending.writeText text)).cursor.advance
          (ending.place (Utf8.encode text.toList) offset)).line =
        ((LineIndex.ofText text).cursor.advance offset).line := by
    intro offset
    rw [line_advance_cursor, line_advance_cursor, LineEnding.lineNumberAt_place]
  rw [scanTokens_eq_foldl, scanTokens_eq_foldl, ending.recordsFrom_writeToken hcursor]

/-- A line feed does not move for itself, and a place behind the text moves as far as its end. -/
example : [1, 2, 9].map (LineEnding.crlf.place (Utf8.encode ['x', '\n', 'y', '\n'])) =
    [1, 3, 11] := by decide +kernel

end CodeTags
