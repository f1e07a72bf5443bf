import CodeTags.LanguageMap
import CodeTags.Proofs.Text.Lines

/-!
# What a language map says

A specification is read entry by entry. Whether an entry is faulty depends on nothing but the entry,
and a later entry takes an extension from all earlier ones.

* `LanguageMap.faultOf?`: what is wrong with an entry.
* `LanguageMap.Lists`: an entry gives an extension to a language.
* `LanguageMap.readEntry_cases`: an entry is cut at its only colon.
* `LanguageMap.addEntry_of_fault`, `LanguageMap.exists_addEntry`: one entry.
* `LanguageMap.addEntries_eq_error_iff`, `LanguageMap.exists_addEntries`: all entries.
* `LanguageMap.parse_of_entries`: which specifications can be read, and what the map of one says.
-/

namespace CodeTags

namespace LanguageMap

/-! ## Looking up -/

/-- The extensions of a map, as they are recorded. -/
def extensions (m : LanguageMap) : List String := m.languages.map (·.1)

/-- No extension is recorded twice, and every recorded language has a name. -/
structure WellFormed (m : LanguageMap) : Prop where
  distinct : m.extensions.Nodup
  named : ∀ p ∈ m.languages, p.2 ≠ ""

theorem wellFormed_empty : empty.WellFormed := ⟨List.nodup_nil, by simp [empty]⟩

theorem lookup_filter_ne {key key' : String} (h : key' ≠ key) (es : List (String × String)) :
    (es.filter (·.1 != key)).lookup key' = es.lookup key' := by
  induction es with
  | nil => rfl
  | cons e es ih =>
    by_cases he : e.1 = key
    · rw [List.filter_cons_of_neg (by simp [he]), ih, List.lookup_cons, he, beq_false_of_ne h]
    · rw [List.filter_cons_of_pos (by simp [he]), List.lookup_cons, List.lookup_cons, ih]

section Record

variable {language : String} (hlanguage : language ≠ "")

include hlanguage

theorem languageFor?_record (m : LanguageMap) (extension e : String) :
    (m.record extension language).languageFor? e =
      if e = extension then some language else m.languageFor? e := by
  rw [languageFor?, record, List.lookup_cons]
  by_cases h : e = extension
  · simp [h, hlanguage]
  · rw [beq_false_of_ne h, if_neg h]
    dsimp only
    rw [lookup_filter_ne h]
    rfl

theorem languageFor?_foldl_record (m : LanguageMap) (extensions : List String) (e : String) :
    (extensions.foldl (fun m e => m.record e language) m).languageFor? e =
      if e ∈ extensions then some language else m.languageFor? e := by
  induction extensions generalizing m with
  | nil => simp
  | cons extension extensions ih =>
    rw [List.foldl_cons, ih, languageFor?_record hlanguage]
    by_cases h : e = extension <;> by_cases h' : e ∈ extensions <;> simp [h, h']

theorem WellFormed.record {m : LanguageMap} (h : m.WellFormed) (extension : String) :
    (m.record extension language).WellFormed := by
  constructor
  · have hsub : ((m.languages.filter (·.1 != extension)).map (·.1)).Sublist
        (m.languages.map (·.1)) := List.filter_sublist.map _
    refine List.nodup_cons.mpr ⟨fun hmem => ?_, List.Nodup.sublist hsub h.distinct⟩
    obtain ⟨e, he, heq⟩ := List.mem_map.mp hmem
    exact absurd heq (by simpa using (List.mem_filter.mp he).2)
  · intro p hp
    rcases List.mem_cons.mp hp with rfl | hp
    · exact hlanguage
    · exact h.named p (List.mem_filter.mp hp).1

theorem WellFormed.foldl_record {m : LanguageMap} (h : m.WellFormed) (extensions : List String) :
    (extensions.foldl (fun m e => m.record e language) m).WellFormed := by
  induction extensions generalizing m with
  | nil => exact h
  | cons extension extensions ih => exact ih (h.record hlanguage extension)

end Record

/-- In a well-formed map no language is passed over for want of a name. -/
theorem WellFormed.languageFor?_eq_lookup {m : LanguageMap} (h : m.WellFormed) (e : String) :
    m.languageFor? e = m.languages.lookup e := by
  rw [languageFor?]
  cases hlookup : m.languages.lookup e with
  | none => rfl
  | some language =>
    obtain ⟨before, after, heq, -⟩ := List.lookup_eq_some_iff.mp hlookup
    have hmem : (e, language) ∈ m.languages := by simp [heq]
    exact Option.filter_some_pos (decide_eq_true (h.named _ hmem))

/-- The recorded extensions are those with a language. -/
theorem WellFormed.mem_extensions_iff {m : LanguageMap} (h : m.WellFormed) (e : String) :
    e ∈ m.extensions ↔ m.languageFor? e ≠ none := by
  rw [h.languageFor?_eq_lookup, extensions]
  induction m.languages with
  | nil => simp
  | cons p ps ih =>
    rw [List.map_cons, List.mem_cons, ih, List.lookup_cons]
    by_cases h : e = p.1
    · simp [h]
    · simp [h, beq_false_of_ne h]

/-! ## Entries -/

/-- The first character is a small letter. Languages that begin so are left to the tag
generator. -/
def beginsSmall (cs : List Char) : Bool := cs.head?.any isLowercase

/-- What is wrong with an entry: it must have one colon, and something in front of it. Nothing is
wrong with blanks. -/
def faultOf? (entry : List Char) : Option LanguageMapError :=
  if entry.all isBlank then none
  else if entry.count ':' ≠ 1 then some (.malformedEntry (String.ofList entry))
  else if entry.head? = some ':' then some (.emptyLanguage (String.ofList entry))
  else none

/-- The entry gives the extension to the language: the language stands in front of the only colon,
and the extension behind it, between dots. -/
def Lists (entry : List Char) (language extension : String) : Prop :=
  ∃ extensions piece, entry = language.toList ++ ':' :: extensions ∧ language ≠ "" ∧
    ':' ∉ language.toList ∧ ':' ∉ extensions ∧
    piece ∈ fieldsOf '.' extensions ∧ piece ≠ [] ∧ extension.toList = '.' :: piece

theorem mem_extensionsOf_iff {extensions : List Char} {e : String} :
    e ∈ extensionsOf extensions ↔
      ∃ piece ∈ fieldsOf '.' extensions, piece ≠ [] ∧ e.toList = '.' :: piece := by
  simp only [extensionsOf, List.mem_map, List.mem_filter, decide_eq_true_eq, and_assoc]
  refine exists_congr fun piece => and_congr_right fun _ => and_congr_right fun _ => ?_
  rw [← String.toList_inj, String.toList_ofList, eq_comm]

/-- An entry is cut at its colon, if there is one and no other. -/
theorem readEntry_cases (entry : List Char) :
    entry.count ':' ≠ 1 ∧ readEntry entry = .error (.malformedEntry (String.ofList entry)) ∨
    ∃ language extensions, entry = language ++ ':' :: extensions ∧ ':' ∉ language ∧
      ':' ∉ extensions ∧ readEntry entry =
        if language = [] then .error (.emptyLanguage (String.ofList entry))
        else .ok (language, extensions) := by
  rw [readEntry]
  by_cases hmem : ':' ∈ entry
  · obtain ⟨language, rest, rfl, hlanguage⟩ := List.eq_append_cons_of_mem hmem
    rw [fieldsOf_append_cons hlanguage]
    by_cases hrest : ':' ∈ rest
    · obtain ⟨middle, last, rfl, hmiddle⟩ := List.eq_append_cons_of_mem hrest
      obtain ⟨f, fs, hfields⟩ := List.exists_cons_of_ne_nil (fieldsOf_ne_nil ':' last)
      rw [fieldsOf_append_cons hmiddle, hfields]
      exact .inl ⟨by simp; omega, rfl⟩
    · rw [fieldsOf_of_not_mem hrest]
      exact .inr ⟨language, rest, rfl, hlanguage, hrest, rfl⟩
  · rw [fieldsOf_of_not_mem hmem]
    exact .inl ⟨by simp [List.count_eq_zero_of_not_mem hmem], rfl⟩

theorem readEntry_eq_error_iff {entry : List Char} (hblank : entry.all isBlank = false)
    {e : LanguageMapError} : readEntry entry = .error e ↔ faultOf? entry = some e := by
  rw [faultOf?, if_neg (by simp [hblank])]
  rcases readEntry_cases entry with ⟨hcount, hread⟩ | ⟨language, extensions, rfl, hl, hx, hread⟩
  · rw [hread, if_pos hcount]
    simp
  · have hcount : (language ++ ':' :: extensions).count ':' = 1 := by
      rw [List.count_append, List.count_eq_zero_of_not_mem hl, List.count_cons_self,
        List.count_eq_zero_of_not_mem hx]
    rw [hread, if_neg (not_not_intro hcount)]
    cases language with
    | nil => simp
    | cons c cs =>
      have hc : c ≠ ':' := fun heq => hl (heq ▸ List.mem_cons_self)
      simp [hc]

theorem readEntry_eq_ok_iff {entry language extensions : List Char} :
    readEntry entry = .ok (language, extensions) ↔
      entry = language ++ ':' :: extensions ∧ language ≠ [] ∧ ':' ∉ language ∧
        ':' ∉ extensions := by
  constructor
  · intro h
    rcases readEntry_cases entry with ⟨-, hread⟩ | ⟨l, x, rfl, hl, hx, hread⟩
    · rw [hread] at h
      cases h
    · rw [hread] at h
      split at h
      · cases h
      · next hne =>
        obtain ⟨rfl, rfl⟩ := Prod.mk.inj (Except.ok.inj h)
        exact ⟨rfl, hne, hl, hx⟩
  · rintro ⟨rfl, hne, hl, hx⟩
    rw [readEntry, fieldsOf_append_cons hl, fieldsOf_of_not_mem hx]
    exact if_neg hne

/-- The language to which an entry gives an extension, unless it begins with a small letter. -/
def languageIn? (entry : List Char) (e : String) : Option String :=
  match readEntry entry with
  | .error _ => none
  | .ok (language, extensions) =>
    if beginsSmall language = false ∧ e ∈ extensionsOf extensions then some (String.ofList language)
    else none

theorem languageIn?_eq_some_iff {entry : List Char} {e language : String} :
    languageIn? entry e = some language ↔
      Lists entry language e ∧ beginsSmall language.toList = false := by
  constructor
  · intro h
    unfold languageIn? at h
    split at h
    · cases h
    · next l x hread =>
      split at h
      · next hlists =>
        obtain rfl := Option.some.inj h
        obtain ⟨hentry, hne, hl, hx⟩ := readEntry_eq_ok_iff.mp hread
        obtain ⟨piece, hpiece, hpiece', he⟩ := mem_extensionsOf_iff.mp hlists.2
        refine ⟨⟨x, piece, ?_, ?_, ?_, hx, hpiece, hpiece', he⟩, ?_⟩
        · rw [String.toList_ofList, hentry]
        · simpa using hne
        · rwa [String.toList_ofList]
        · rw [String.toList_ofList]
          exact hlists.1
      · cases h
  · rintro ⟨⟨x, piece, hentry, hne, hl, hx, hpiece, hpiece', he⟩, hsmall⟩
    have hread : readEntry entry = .ok (language.toList, x) :=
      readEntry_eq_ok_iff.mpr ⟨hentry, by simpa using hne, hl, hx⟩
    have hmem : e ∈ extensionsOf x := mem_extensionsOf_iff.mpr ⟨piece, hpiece, hpiece', he⟩
    rw [languageIn?, hread]
    simp [hsmall, hmem]

theorem languageIn?_eq_none_iff {entry : List Char} {e : String} :
    languageIn? entry e = none ↔ ∀ l, Lists entry l e → beginsSmall l.toList = true := by
  rw [Option.eq_none_iff_forall_ne_some]
  refine forall_congr' fun l => ?_
  rw [ne_eq, languageIn?_eq_some_iff, not_and, Bool.not_eq_false]

/-! ## One entry -/

/-- A faulty entry is the error, whatever the map holds. -/
theorem addEntry_of_fault {entry : List Char} {e : LanguageMapError} (h : faultOf? entry = some e)
    (m : LanguageMap) : m.addEntry entry = .error e := by
  have hblank : entry.all isBlank = false := Bool.eq_false_iff.mpr fun hall => by
    rw [faultOf?, if_pos hall] at h
    cases h
  rw [addEntry, if_neg (by simp [hblank]), (readEntry_eq_error_iff hblank).mpr h]

/-- Any other entry gives its extensions to its language. -/
theorem exists_addEntry {entry : List Char} (h : faultOf? entry = none) (m : LanguageMap) :
    ∃ m', m.addEntry entry = .ok m' ∧ (m.WellFormed → m'.WellFormed) ∧
      (beginsSmall entry = true → m' = m) ∧
      ∀ e, m'.languageFor? e = (languageIn? entry e).or (m.languageFor? e) := by
  cases hblank : entry.all isBlank with
  | true =>
    have hnone : ∀ e, languageIn? entry e = none := by
      intro e
      have hcolon : ':' ∉ entry := fun hmem =>
        absurd (List.all_eq_true.mp hblank ':' hmem) (by decide)
      rw [languageIn?, readEntry, fieldsOf_of_not_mem hcolon]
    refine ⟨m, by rw [addEntry, if_pos hblank], id, fun _ => rfl, fun e => ?_⟩
    rw [hnone, Option.none_or]
  | false =>
    cases hread : readEntry entry with
    | error e => simp [(readEntry_eq_error_iff hblank).mp hread] at h
    | ok r =>
      obtain ⟨language, extensions⟩ := r
      obtain ⟨rfl, hne, -, -⟩ := readEntry_eq_ok_iff.mp hread
      have hhead : beginsSmall (language ++ ':' :: extensions) = beginsSmall language := by
        cases language with
        | nil => exact absurd rfl hne
        | cons c cs => rfl
      rw [addEntry, if_neg (by simp [hblank]), hread, hhead]
      simp only [languageIn?, hread]
      cases hsmall : beginsSmall language with
      | true =>
        refine ⟨m, if_pos hsmall, id, fun _ => rfl, fun e => ?_⟩
        simp
      | false =>
        have hlarge : ¬language.head?.any isLowercase = true := by simpa [beginsSmall] using hsmall
        have hname : String.ofList language ≠ "" := by simpa using hne
        refine ⟨_, if_neg hlarge, fun hm => hm.foldl_record hname _, by simp, fun e => ?_⟩
        rw [languageFor?_foldl_record hname]
        by_cases he : e ∈ extensionsOf extensions <;> simp [he]

/-! ## All entries -/

/-- The first faulty entry is the error. -/
theorem addEntries_eq_error_iff {entries : List (List Char)} {m : LanguageMap}
    {e : LanguageMapError} :
    m.addEntries entries = .error e ↔ entries.findSome? faultOf? = some e := by
  induction entries generalizing m with
  | nil => simp [addEntries]
  | cons entry entries ih =>
    rw [addEntries, List.findSome?_cons]
    cases hfault : faultOf? entry with
    | some e' => simp [addEntry_of_fault hfault]
    | none =>
      obtain ⟨m', hadd, -⟩ := exists_addEntry hfault m
      simp only [hadd, ih]

/-- If no entry is faulty, the last one that gives an extension to a language counts, and entries
that begin with a small letter might as well be missing. -/
theorem exists_addEntries {entries : List (List Char)}
    (h : ∀ entry ∈ entries, faultOf? entry = none) {m : LanguageMap} (hm : m.WellFormed) :
    ∃ m', m.addEntries entries = .ok m' ∧ m'.WellFormed ∧
      m.addEntries (entries.filter (!beginsSmall ·)) = .ok m' ∧
      ∀ e, m'.languageFor? e =
        (entries.reverse.findSome? (languageIn? · e)).or (m.languageFor? e) := by
  induction entries generalizing m with
  | nil => exact ⟨m, rfl, hm, rfl, fun e => by simp⟩
  | cons entry entries ih =>
    obtain ⟨m₁, hadd, hwellFormed, hsmall, hlanguage⟩ :=
      exists_addEntry (h entry List.mem_cons_self) m
    obtain ⟨m', hall, hwellFormed', hfilter, hlanguages⟩ :=
      ih (fun b hb => h b (List.mem_cons_of_mem _ hb)) (hwellFormed hm)
    refine ⟨m', by rw [addEntries, hadd]; exact hall, hwellFormed', ?_, fun e => ?_⟩
    · cases hbegin : beginsSmall entry with
      | true => rw [List.filter_cons_of_neg (by simp [hbegin]), ← hsmall hbegin, hfilter]
      | false =>
        rw [List.filter_cons_of_pos (by simp [hbegin]), addEntries, hadd]
        exact hfilter
    · rw [hlanguages, hlanguage, List.reverse_cons, List.findSome?_append, List.findSome?_cons,
        List.findSome?_nil]
      cases entries.reverse.findSome? (languageIn? · e) <;>
        cases languageIn? entry e <;> rfl

/-! ## Specifications -/

/-- The entries of a specification. -/
def entriesOf (spec : String) : List (List Char) := fieldsOf ',' spec.toList

theorem parse_eq_error_iff {spec : String} {e : LanguageMapError} :
    parse spec = .error e ↔ (entriesOf spec).findSome? faultOf? = some e :=
  addEntries_eq_error_iff

/-- A specification that can be read has no faulty entries. -/
theorem faultOf?_eq_none_of_parse {spec : String} {m : LanguageMap} (h : parse spec = .ok m)
    {entry : List Char} (hentry : entry ∈ entriesOf spec) : faultOf? entry = none := by
  cases hfirst : (entriesOf spec).findSome? faultOf? with
  | none => exact List.findSome?_eq_none_iff.mp hfirst entry hentry
  | some e =>
    rw [parse_eq_error_iff.mpr hfirst] at h
    cases h

/-- What `exists_addEntries` says, of the map that was read. -/
theorem parse_spec {spec : String} {m : LanguageMap} (h : parse spec = .ok m) :
    m.WellFormed ∧
      empty.addEntries ((entriesOf spec).filter (!beginsSmall ·)) = .ok m ∧
      ∀ e, m.languageFor? e = (entriesOf spec).reverse.findSome? (languageIn? · e) := by
  obtain ⟨m', hparse, hwellFormed, hfilter, hlanguages⟩ :=
    exists_addEntries (fun _ => faultOf?_eq_none_of_parse h) wellFormed_empty
  obtain rfl : m = m' := Except.ok.inj (h.symm.trans hparse)
  exact ⟨hwellFormed, hfilter, fun e => (hlanguages e).trans (Option.or_none)⟩

/-- The last entry that gives an extension to a language counts. -/
theorem languageFor?_eq_some_iff {spec : String} {m : LanguageMap} (h : parse spec = .ok m)
    {extension language : String} :
    m.languageFor? extension = some language ↔
      ∃ before entry after, entriesOf spec = before ++ entry :: after ∧
        Lists entry language extension ∧ beginsSmall language.toList = false ∧
        ∀ b ∈ after, ∀ l, Lists b l extension → beginsSmall l.toList = true := by
  rw [(parse_spec h).2.2, List.findSome?_eq_some_iff]
  constructor
  · rintro ⟨after, entry, before, hentries, hentry, hafter⟩
    obtain ⟨hlists, hsmall⟩ := languageIn?_eq_some_iff.mp hentry
    refine ⟨before.reverse, entry, after.reverse, ?_, hlists, hsmall, fun b hb => ?_⟩
    · rw [← List.reverse_inj, hentries]
      simp
    · exact languageIn?_eq_none_iff.mp (hafter b (List.mem_reverse.mp hb))
  · rintro ⟨before, entry, after, hentries, hlists, hsmall, hafter⟩
    refine ⟨after.reverse, entry, before.reverse, ?_,
      languageIn?_eq_some_iff.mpr ⟨hlists, hsmall⟩, fun b hb => ?_⟩
    · rw [hentries]
      simp
    · exact languageIn?_eq_none_iff.mpr (hafter b (List.mem_reverse.mp hb))

theorem languageFor?_eq_none_iff {spec : String} {m : LanguageMap} (h : parse spec = .ok m)
    {extension : String} :
    m.languageFor? extension = none ↔ ∀ entry ∈ entriesOf spec,
      ∀ l, Lists entry l extension → beginsSmall l.toList = true := by
  rw [(parse_spec h).2.2, List.findSome?_eq_none_iff]
  simp only [List.mem_reverse, languageIn?_eq_none_iff]

/-- **Specifications.** A specification can be read if none of its entries is faulty; otherwise the
first faulty entry is the error. In the map of one that can be read, an extension has the language
of the last entry that gives it to a language not beginning with a small letter, and none if there
is no such entry. Without the entries that begin with a small letter the map would be the same. Its
size counts the extensions that have a language. -/
theorem parse_of_entries (spec : String) :
    (∀ e, parse spec = .error e ↔
      ∃ before entry after, entriesOf spec = before ++ entry :: after ∧
        (∀ b ∈ before, faultOf? b = none) ∧ faultOf? entry = some e) ∧
    ((∃ m, parse spec = .ok m) ↔ ∀ entry ∈ entriesOf spec, faultOf? entry = none) ∧
    ∀ m, parse spec = .ok m →
      (∀ extension language, m.languageFor? extension = some language ↔
        ∃ before entry after, entriesOf spec = before ++ entry :: after ∧
          Lists entry language extension ∧ beginsSmall language.toList = false ∧
          ∀ b ∈ after, ∀ l, Lists b l extension → beginsSmall l.toList = true) ∧
      (∀ extension, m.languageFor? extension = none ↔
        ∀ entry ∈ entriesOf spec, ∀ l, Lists entry l extension → beginsSmall l.toList = true) ∧
      empty.addEntries ((entriesOf spec).filter (!beginsSmall ·)) = .ok m ∧
      ∃ extensions : List String, extensions.Nodup ∧ extensions.length = m.size ∧
        ∀ e, e ∈ extensions ↔ m.languageFor? e ≠ none := by
  refine ⟨fun e => ?_, ⟨fun ⟨m, hm⟩ _ => faultOf?_eq_none_of_parse hm, fun h => ?_⟩,
    fun m hm => ?_⟩
  · rw [parse_eq_error_iff, List.findSome?_eq_some_iff]
    exact exists_congr fun before => exists_congr fun entry => exists_congr fun after =>
      and_congr_right fun _ => and_comm
  · obtain ⟨m, hm, -⟩ := exists_addEntries h wellFormed_empty
    exact ⟨m, hm⟩
  · obtain ⟨hwellFormed, hfilter, -⟩ := parse_spec hm
    exact ⟨fun _ _ => languageFor?_eq_some_iff hm, fun _ => languageFor?_eq_none_iff hm, hfilter,
      m.extensions, hwellFormed.distinct, List.length_map _, hwellFormed.mem_extensions_iff⟩

/-- An entry that is left out is checked like any other. -/
example : parse "C:.c,rust:.rs:,:.h" = .error (.malformedEntry "rust:.rs:") :=
  parse_eq_error_iff.mpr (by decide +kernel)

end LanguageMap

end CodeTags
