import CodeTags.JsonLines.Reader
import CodeTags.Proofs.Batch
import CodeTags.Proofs.Pattern

/-!
# Reading JSON lines back

An escape is read as its character whatever stands in front of it and behind it, so every text can
be a value. No escape is a line feed, so an object stays on its line.

* `Json.readText?_escapeChar`, `Json.readText?_flatMap`: one character, and a whole string.
* `Json.fieldsText`, `Json.readFields?_fieldsText`: the fields of an object.
* `Tag.readObject?_json`: the object of a tag, with its fields in order.
* `Json.newline_not_mem_quote`, `Tag.newline_not_mem_json`: what is written is on one line.
* `Utf8.linesAfter_encode`: bytes and text have the same lines.
* `readJsonLines?_jsonLines`: the lines of a set are read as its tags.
-/

namespace CodeTags

/-! ## Strings -/

namespace Json

theorem hexValue?_hexDigit {n : Nat} (h : n < 16) : hexValue? (hexDigit n) = some n := by
  revert n
  decide

theorem codeChar?_hexDigit {c : Char} (h : c.toNat < 0x20) :
    codeChar? '0' '0' (hexDigit (c.toNat / 16)) (hexDigit (c.toNat % 16)) = some c := by
  have hzero : hexValue? '0' = some 0 := rfl
  have hhigh := hexValue?_hexDigit (show c.toNat / 16 < 16 by omega)
  have hlow := hexValue?_hexDigit (show c.toNat % 16 < 16 by omega)
  have hvalue : c.toNat / 16 * 16 + c.toNat % 16 = c.toNat := by omega
  simp only [codeChar?, hzero, hhigh, hlow, hvalue, Option.bind_eq_bind, Option.bind_some,
    Nat.zero_mul, Nat.zero_add]
  rw [if_neg (by omega), Char.ofNat_toNat]

theorem readText?_escaped {c e : Char} (hc : c ≠ 'u') (h : escapedChar? c = some e)
    (cs : List Char) :
    readText? ('\\' :: c :: cs) = (readText? cs).map fun r => (e :: r.1, r.2) := by
  rw [readText?, h, Option.bind_some]
  exact fun _ _ _ _ _ hu => absurd hu hc

theorem readText?_raw {c : Char} (hmark : c ≠ '\x22') (hslash : c ≠ '\\') (hc : ¬c.toNat < 0x20)
    (cs : List Char) :
    readText? (c :: cs) = (readText? cs).map fun r => (c :: r.1, r.2) := by
  rw [readText?, if_neg (by simp [hc, hslash])]
  · exact hmark
  · exact fun _ _ _ _ _ h => absurd h hslash
  · exact fun _ _ h => absurd h hslash

/-- The written form of a character is read as that character, whatever stands behind it. -/
theorem readText?_escapeChar (c : Char) (cs : List Char) :
    readText? (escapeChar c ++ cs) = (readText? cs).map fun r => (c :: r.1, r.2) := by
  unfold escapeChar
  split
  case h_8 c hmark hslash _ _ _ _ _ =>
    split
    · next hcontrol =>
      simp only [hexByte, List.cons_append, List.nil_append]
      rw [readText?, codeChar?_hexDigit hcontrol, Option.bind_some]
    · next hcontrol => exact readText?_raw hmark hslash hcontrol cs
  -- The other characters have an escape of one letter.
  all_goals exact readText?_escaped (by decide) rfl cs

/-- A string is read up to its closing mark. -/
theorem readText?_flatMap (cs rest : List Char) :
    readText? (cs.flatMap escapeChar ++ '\x22' :: rest) = some (cs, rest) := by
  induction cs with
  | nil => rw [List.flatMap_nil, List.nil_append, readText?]
  | cons c cs ih =>
    rw [List.flatMap_cons, List.append_assoc, readText?_escapeChar, ih, Option.map_some]

theorem toList_quote (s : String) :
    (quote s).toList = '\x22' :: (s.toList.flatMap escapeChar ++ ['\x22']) := by
  simp [quote]

/-! ## Objects -/

/-- The text of a value. -/
def Scalar.toText : Scalar → List Char
  | text s => (quote s).toList
  | number n => Nat.toDigits 10 n

/-- The text of a field. -/
def fieldText (f : String × Scalar) : List Char := (quote f.1).toList ++ ':' :: f.2.toText

/-- The text of fields with commas between them, and the end of the object. -/
def fieldsText : List (String × Scalar) → List Char
  | [] => ['\x7d']
  | [f] => fieldText f ++ ['\x7d']
  | f :: g :: fs => fieldText f ++ ',' :: fieldsText (g :: fs)

/-- A value is read up to a character that is no digit. -/
theorem readScalar?_toText (v : Scalar) {rest : List Char}
    (h : ∀ c ∈ rest.head?, c.isDigit = false) :
    readScalar? (v.toText ++ rest) = some (v, rest) := by
  cases v with
  | text s =>
    rw [Scalar.toText, toList_quote, List.cons_append, List.append_assoc, readScalar?,
      List.singleton_append, readText?_flatMap, Option.map_some, String.ofList_toList]
  | number n =>
    have hdigits : ∀ c ∈ Nat.toDigits 10 n, c.isDigit = true := fun _ hc =>
      Nat.isDigit_of_mem_toDigits (by decide) (by decide) hc
    have hmark : ∀ cs, Nat.toDigits 10 n ++ rest ≠ '\x22' :: cs := by
      intro cs heq
      obtain ⟨c, hc, hdigit⟩ := exists_head?_append Nat.toDigits_ne_nil hdigits rest
      rw [heq] at hc
      exact absurd (Option.some.inj hc ▸ hdigit) (by decide)
    rw [Scalar.toText, readScalar?, takeWhile_append_of_stop hdigits h,
      dropWhile_append_of_stop hdigits h, decimalValue?_toDigits, Option.map_some]
    exact hmark

theorem readField?_fieldText (f : String × Scalar) {rest : List Char}
    (h : ∀ c ∈ rest.head?, c.isDigit = false) :
    readField? (fieldText f ++ rest) = some (f, rest) := by
  have hmark : dropExact? ['\x22'] (fieldText f ++ rest) =
      some (f.1.toList.flatMap escapeChar ++ '\x22' :: ':' :: (f.2.toText ++ rest)) :=
    dropExact?_eq_some_iff.mpr (by simp [fieldText, toList_quote])
  have hcolon : dropExact? [':'] (':' :: (f.2.toText ++ rest)) = some (f.2.toText ++ rest) :=
    dropExact?_eq_some_iff.mpr rfl
  simp only [readField?, hmark, Option.bind_eq_bind, Option.bind_some, readText?_flatMap, hcolon,
    readScalar?_toText f.2 h, String.ofList_toList]

/-- The fields of an object are read up to its end. -/
theorem readFields?_fieldsText {fields : List (String × Scalar)} (hne : fields ≠ []) {n : Nat}
    (hn : fields.length ≤ n) (rest : List Char) :
    readFields? n (fieldsText fields ++ rest) = some (fields, rest) := by
  induction fields generalizing n with
  | nil => exact absurd rfl hne
  | cons f fs ih =>
    obtain ⟨n, rfl⟩ : ∃ m, n = m + 1 := ⟨n - 1, by simp at hn; omega⟩
    cases fs with
    | nil =>
      rw [fieldsText, List.append_assoc, readFields?, readField?_fieldText f (by simp),
        Option.bind_some]
      rfl
    | cons g gs =>
      have hread := ih (List.cons_ne_nil g gs) (n := n) (by simpa using hn)
      rw [fieldsText, List.append_assoc, List.cons_append, readFields?,
        readField?_fieldText f (by simp), Option.bind_some]
      simp only [hread, Option.map_some]

theorem length_le_length_fieldsText (fields : List (String × Scalar)) :
    fields.length ≤ (fieldsText fields).length := by
  induction fields with
  | nil => exact Nat.zero_le _
  | cons f fs ih =>
    cases fs with
    | nil => simp [fieldsText]
    | cons g gs =>
      simp only [fieldsText, List.length_append, List.length_cons] at ih ⊢
      omega

/-- An object is read as its fields in their order. -/
theorem readObject?_fieldsText {fields : List (String × Scalar)} (hne : fields ≠ []) :
    readObject? ('\x7b' :: fieldsText fields) = some fields := by
  have hbrace : dropExact? ['\x7b'] ('\x7b' :: fieldsText fields) = some (fieldsText fields) :=
    dropExact?_eq_some_iff.mpr rfl
  have hread := readFields?_fieldsText hne (length_le_length_fieldsText fields) []
  rw [List.append_nil] at hread
  simp only [readObject?, hbrace, Option.bind_eq_bind, Option.bind_some, hread, ↓reduceIte]

/-! ## One line for an object -/

theorem newline_not_mem_escapeChar (c : Char) : '\n' ∉ escapeChar c := by
  have hhex : ∀ n < 0x20, '\n' ∉ ['\\', 'u', '0', '0'] ++ hexByte n := by decide
  unfold escapeChar
  split
  case h_8 c _ _ _ _ hnewline _ _ =>
    split
    · next hcontrol => exact hhex _ hcontrol
    · simpa using Ne.symm hnewline
  all_goals decide

/-- A line feed is written with an escape. -/
theorem newline_not_mem_quote (s : String) : '\n' ∉ (quote s).toList := by
  simp [toList_quote, newline_not_mem_escapeChar]

theorem newline_not_mem_fieldsText (fields : List (String × Scalar)) :
    '\n' ∉ fieldsText fields := by
  have hfield : ∀ f, '\n' ∉ fieldText f := by
    rintro ⟨name, s | n⟩
    · simp [fieldText, Scalar.toText, newline_not_mem_quote]
    · simp [fieldText, Scalar.toText, newline_not_mem_quote, TagSet.newline_not_mem_toDigits]
  induction fields with
  | nil => decide
  | cons f fs ih =>
    cases fs with
    | nil => simp [fieldsText, hfield]
    | cons g gs => simp [fieldsText, hfield, ih]

end Json

/-! ## Tags -/

namespace Tag

/-- The fields of a tag in the order in which they are written. -/
def fields (t : Tag) : List (String × Json.Scalar) :=
  [("type", .text (String.ofList [t.kind.letter])), ("symbol", .text t.symbol),
    ("line", .number t.line), ("path", .text t.path), ("image", .text t.image)]

theorem toList_json (t : Tag) : t.json.toList = '\x7b' :: Json.fieldsText t.fields := by
  simp [json, fields, Json.field, Json.fieldsText, Json.fieldText, Json.Scalar.toText, Nat.repr]

theorem readObject?_json (t : Tag) : Json.readObject? t.json.toList = some t.fields := by
  rw [toList_json]
  exact Json.readObject?_fieldsText (List.cons_ne_nil _ _)

/-- An object is read as its tag. -/
theorem ofJson?_json (t : Tag) : ofJson? t.json.toList = some t := by
  have htype : Json.textOf? t.fields "type" = some (String.ofList [t.kind.letter]) := rfl
  have hsymbol : Json.textOf? t.fields "symbol" = some t.symbol := rfl
  have hline : Json.numberOf? t.fields "line" = some t.line := rfl
  have hpath : Json.textOf? t.fields "path" = some t.path := rfl
  have himage : Json.textOf? t.fields "image" = some t.image := rfl
  simp only [ofJson?, readObject?_json, htype, hsymbol, hline, hpath, himage,
    Option.bind_eq_bind, Option.bind_some, String.toList_ofList, TagKind.ofLetter?_letter]

theorem newline_not_mem_json (t : Tag) : '\n' ∉ t.json.toList := by
  rw [toList_json, List.mem_cons, not_or]
  exact ⟨by decide, Json.newline_not_mem_fieldsText t.fields⟩

end Tag

/-! ## Lines -/

theorem mapM_map_eq_some {α β : Type} {f : α → β} {g : β → Option α} (h : ∀ a, g (f a) = some a)
    (as : List α) : (as.map f).mapM g = some as := by
  induction as with
  | nil => rfl
  | cons a as ih => simp [h, ih]

/-- Bytes and text have the same lines. -/
theorem Utf8.linesAfter_encode (cs : List Char) :
    linesAfter lineFeed (encode cs) = (linesAfter '\n' cs).map encode := by
  induction cs using lines_induction '\n' with
  | nil => rfl
  | last cs hmem hne =>
    have hbytes : encode cs ≠ [] := by
      intro hnil
      exact hne (by rw [← decode_encode cs, hnil]; rfl)
    rw [linesAfter_of_not_mem hmem hne,
      linesAfter_of_not_mem (mt lineFeed_mem_encode.mp hmem) hbytes]
    rfl
  | line body rest hbody ih =>
    have hcut : encode (body ++ '\n' :: rest) = encode body ++ lineFeed :: encode rest :=
      encode_append body ('\n' :: rest)
    rw [hcut, linesAfter_append_cons (mt lineFeed_mem_encode.mp hbody),
      linesAfter_append_cons hbody, ih, List.map_cons, encode_concat_newline]

namespace TagSet

theorem toList_jsonLines (s : TagSet) :
    s.jsonLines.toList = (s.toList.map (·.json.toList)).flatMap (· ++ ['\n']) := by
  rw [jsonLines]
  induction s.toList with
  | nil => rfl
  | cons t ts ih =>
    rw [List.map_cons, List.map_cons, List.flatMap_cons, ← ih]
    simp [String.toList_join]

theorem newline_not_mem_of_mem_map (s : TagSet) :
    ∀ cs ∈ s.toList.map (·.json.toList), '\n' ∉ cs := by
  intro cs hcs
  obtain ⟨t, -, rfl⟩ := List.mem_map.mp hcs
  exact t.newline_not_mem_json

theorem linesAfter_jsonLines (s : TagSet) :
    linesAfter '\n' s.jsonLines.toList = s.toList.map fun t => t.json.toList ++ ['\n'] := by
  have hcut := linesAfter_flatMap_concat_append s.newline_not_mem_of_mem_map []
  rw [List.append_nil, linesAfter, List.append_nil, List.map_map] at hcut
  rw [toList_jsonLines, hcut]
  rfl

end TagSet

/-- **JSON lines are read back.** There is one line for each tag, with a line feed at its end and
none before, whatever characters the texts of the tag hold. A line holds an object with the kind,
the symbol, the line number, the path and the image as they are, in this order; and all lines
together are read as the tags in their order. -/
theorem readJsonLines?_jsonLines (s : TagSet) :
    let bytes := Utf8.encode s.jsonLines.toList
    bytes.count lineFeed = s.size ∧
    linesAfter lineFeed bytes =
      s.toList.map (fun t => Utf8.encode t.json.toList ++ [lineFeed]) ∧
    (∀ t ∈ s.toList, lineFeed ∉ Utf8.encode t.json.toList ∧
      (Utf8.decode? (Utf8.encode t.json.toList)).bind Json.readObject? =
        some [("type", .text (String.ofList [t.kind.letter])), ("symbol", .text t.symbol),
          ("line", .number t.line), ("path", .text t.path), ("image", .text t.image)]) ∧
    (Utf8.decode? bytes).bind readJsonLines? = some s.toList := by
  intro bytes
  have hlines : linesAfter lineFeed bytes =
      s.toList.map (fun t => Utf8.encode t.json.toList ++ [lineFeed]) := by
    rw [Utf8.linesAfter_encode, s.linesAfter_jsonLines, List.map_map]
    simp only [Function.comp_def, Utf8.encode_concat_newline]
  have hline : ∀ t : Tag, lineFeed ∉ Utf8.encode t.json.toList := fun t =>
    mt Utf8.lineFeed_mem_encode.mp t.newline_not_mem_json
  refine ⟨?_, hlines, fun t _ => ⟨hline t, ?_⟩, ?_⟩
  · rw [Utf8.count_lineFeed_encode, s.toList_jsonLines,
      count_flatMap_concat s.newline_not_mem_of_mem_map, List.length_map, s.length_toList]
  · rw [Utf8.decode?_encode, Option.bind_some, t.readObject?_json]
    rfl
  · rw [Utf8.decode?_encode, Option.bind_some, readJsonLines?, s.linesAfter_jsonLines]
    exact mapM_map_eq_some (fun t => by simp [t.ofJson?_json]) s.toList

end CodeTags
