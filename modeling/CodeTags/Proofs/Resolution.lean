import CodeTags.Proofs.Command
import CodeTags.Proofs.FileName
import CodeTags.Proofs.LanguageMap

/-!
# Which paths have no grammar

A language map is read before any path is known. Its extensions alone tell whether a path can come
that has a language and no grammar: extensions with a slash never end a file name, and every other
recorded one does.

* `LanguageMap.resolve_eq_none_iff`, `LanguageMap.resolve_eq_some_iff`,
  `LanguageMap.resolve_eq_error_iff_exists`: what a path resolves to, by its language.
* `LanguageMap.exists_extension?_iff`: which extensions of a map files can have.
* `LanguageMap.Unparsable`: an extension that files can have, of a language without a grammar.
* `LanguageMap.resolve_of_parse`: only these keep files from being scanned, whatever is in them.
-/

namespace CodeTags

/-! ## Grammars -/

theorem Grammar.ofName?_eq_none_iff {name : String} :
    ofName? name = none ↔ ∀ g : Grammar, g.name ≠ name := by
  rw [ofName?, List.find?_eq_none]
  exact ⟨fun h g => by simpa using h g (mem_all g), fun h g _ => by simpa using h g⟩

theorem Grammar.ofName?_eq_some_iff {name : String} {g : Grammar} :
    ofName? name = some g ↔ g.name = name := by
  constructor
  · intro h
    simpa using List.find?_some h
  · rintro rfl
    exact ofName?_name g

namespace LanguageMap

/-! ## What a path resolves to -/

section Resolve

variable {m : LanguageMap} {path : String}

theorem resolve_eq_none_iff :
    m.resolve path = .ok none ↔ m.languageOfPath? path = none := by
  unfold resolve
  cases m.languageOfPath? path with
  | none => simp
  | some language =>
    dsimp only
    cases Grammar.ofLanguage language <;> simp [Except.map]

theorem resolve_eq_some_iff {g : Grammar} :
    m.resolve path = .ok (some g) ↔
      ∃ language, m.languageOfPath? path = some language ∧
        g.name = Grammar.lookupName language := by
  unfold resolve
  cases m.languageOfPath? path with
  | none => simp
  | some language =>
    simp only [Option.some.injEq, exists_eq_left', ← Grammar.ofName?_eq_some_iff,
      Grammar.ofLanguage]
    cases Grammar.ofName? (Grammar.lookupName language) <;> simp [Except.map]

theorem resolve_eq_error_iff_exists {e : GrammarError} :
    m.resolve path = .error e ↔
      ∃ language, m.languageOfPath? path = some language ∧
        (∀ g : Grammar, g.name ≠ Grammar.lookupName language) ∧
        e = .unknownGrammar language (Grammar.lookupName language) := by
  unfold resolve
  cases m.languageOfPath? path with
  | none => simp
  | some language =>
    simp only [Option.some.injEq, exists_eq_left', ← Grammar.ofName?_eq_none_iff,
      Grammar.ofLanguage]
    cases Grammar.ofName? (Grammar.lookupName language) <;> simp [Except.map, eq_comm]

end Resolve

/-! ## Extensions of a map -/

/-- The extensions that a specification gives to languages are a dot and some text without dots. -/
theorem exists_of_languageFor? {spec : String} {m : LanguageMap} (h : parse spec = .ok m)
    {extension language : String} (hlanguage : m.languageFor? extension = some language) :
    ∃ piece, piece ≠ [] ∧ '.' ∉ piece ∧ extension.toList = '.' :: piece := by
  obtain ⟨-, entry, -, -, ⟨extensions, piece, -, -, -, -, hpiece, hne, heq⟩, -, -⟩ :=
    (languageFor?_eq_some_iff h).mp hlanguage
  exact ⟨piece, hne, not_mem_of_mem_fieldsOf hpiece, heq⟩

/-- Files can have a recorded extension if and only if there is no slash in it. -/
theorem exists_extension?_iff {spec : String} {m : LanguageMap} (h : parse spec = .ok m)
    {extension language : String} (hlanguage : m.languageFor? extension = some language) :
    (∃ path name, extension? path = some name ∧ "." ++ name = extension) ↔
      '/' ∉ extension.toList := by
  constructor
  · rintro ⟨path, name, hname, rfl⟩
    simpa using not_mem_of_extension? hname
  · intro hslash
    obtain ⟨piece, -, hdot, heq⟩ := exists_of_languageFor? h hlanguage
    have hslash' : '/' ∉ piece := fun hmem => hslash (heq ▸ List.mem_cons_of_mem _ hmem)
    have hpath : extension? (String.ofList (['a'] ++ '.' :: piece)) = some (String.ofList piece) :=
      extension?_of_stem (by decide) (by decide) (by decide) hdot hslash'
    refine ⟨_, _, hpath, ?_⟩
    rw [← String.toList_inj, String.toList_append, String.toList_ofList, heq]
    simp

/-- Files can have this extension, and its language has no grammar. -/
def Unparsable (m : LanguageMap) (extension : String) : Prop :=
  ∃ language, m.languageFor? extension = some language ∧ '/' ∉ extension.toList ∧
    ∀ g : Grammar, g.name ≠ Grammar.lookupName language

theorem exists_lacksGrammar_iff {spec : String} {m : LanguageMap} (h : parse spec = .ok m) :
    (∃ path, m.LacksGrammar path) ↔ ∃ extension, m.Unparsable extension := by
  constructor
  · rintro ⟨path, language, hpath, hgrammar⟩
    obtain ⟨name, hname, hlanguage⟩ := Option.bind_eq_some_iff.mp hpath
    have hslash := (exists_extension?_iff h hlanguage).mp ⟨path, name, hname, rfl⟩
    exact ⟨_, language, hlanguage, hslash, Grammar.ofName?_eq_none_iff.mp hgrammar⟩
  · rintro ⟨extension, language, hlanguage, hslash, hgrammar⟩
    obtain ⟨path, name, hname, rfl⟩ := (exists_extension?_iff h hlanguage).mpr hslash
    refine ⟨path, language, ?_, Grammar.ofName?_eq_none_iff.mpr hgrammar⟩
    rw [languageOfPath?, hname, Option.bind_some, hlanguage]

/-- The only error names the language of the path and the grammar that was looked up for it. -/
theorem eq_of_resolve_error {m : LanguageMap} {path : String} {e : GrammarError}
    (h : m.resolve path = .error e) :
    ∃ language, m.languageOfPath? path = some language ∧
      e = .unknownGrammar language (Grammar.lookupName language) := by
  obtain ⟨language, hlanguage, -, he⟩ := resolve_eq_error_iff_exists.mp h
  exact ⟨language, hlanguage, he⟩

/-- **Languages without a grammar.** Some path has a language without a grammar if and only if the
map records an extension without a slash for such a language. If it does not, every path can be
scanned, whatever is in the files, provided that every text has a tree. A path that has no grammar
fails with the error that names its language, and its file is not looked at. -/
theorem resolve_of_parse {spec : String} {m : LanguageMap} (h : parse spec = .ok m) :
    ((∃ path e, m.resolve path = .error e) ↔ ∃ extension, m.Unparsable extension) ∧
    ((∀ extension, ¬m.Unparsable extension) →
      ∀ (options : ScanOptions) (trees : TreeSource) (files : FileSource),
        (∀ grammar text, ∃ tree, trees grammar text = .ok tree) →
        ∀ path, ∃ tags, Scanner.scanPath ⟨m, options, trees, files⟩ path = .ok tags) ∧
    ∀ path e, m.resolve path = .error e →
      (∃ language, m.languageOfPath? path = some language ∧
        e = .unknownGrammar language (Grammar.lookupName language)) ∧
      ∀ (options : ScanOptions) (trees : TreeSource) (files : FileSource),
        Scanner.scanPath ⟨m, options, trees, files⟩ path = .error e := by
  refine ⟨?_, fun hall options trees files htrees path => ?_, fun path e he => ?_⟩
  · rw [← exists_lacksGrammar_iff h]
    exact exists_congr fun path => resolve_eq_error_iff
  · cases hscan : Scanner.scanPath ⟨m, options, trees, files⟩ path with
    | ok tags => exact ⟨tags, rfl⟩
    | error e =>
      have hlacks : m.LacksGrammar path :=
        (Scanner.scanPath_eq_error_iff htrees path).mp ⟨e, hscan⟩
      obtain ⟨extension, hextension⟩ := (exists_lacksGrammar_iff h).mp ⟨path, hlacks⟩
      exact absurd hextension (hall extension)
  · refine ⟨eq_of_resolve_error he, fun options trees files => ?_⟩
    rw [Scanner.scanPath, he]

set_option maxRecDepth 8000 in
/-- Ruby has no grammar. A file can end with the first of its extensions, but not with the second,
which has a slash. -/
theorem resolve_of_parse_of_two_extensions :
    let ruby : LanguageMap := ⟨[(".rb", "Ruby"), (".c", "C")]⟩
    let slash : LanguageMap := ⟨[(".r/b", "Ruby"), (".c", "C")]⟩
    parse "C:.c,Ruby:.rb" = .ok ruby ∧ (∃ path e, ruby.resolve path = .error e) ∧
    parse "C:.c,Ruby:.r/b" = .ok slash ∧
    ∀ files path, ∃ tags, Scanner.scanPath ⟨slash, {}, oneSource.trees, files⟩ path = .ok tags := by
  intro ruby slash
  have hruby : parse "C:.c,Ruby:.rb" = .ok ruby := by rfl
  have hslash : parse "C:.c,Ruby:.r/b" = .ok slash := by rfl
  have hname : Grammar.ofName? (Grammar.lookupName "Ruby") = none := by decide +kernel
  have hrb : ruby.Unparsable ".rb" :=
    ⟨"Ruby", rfl, by decide, Grammar.ofName?_eq_none_iff.mp hname⟩
  have hall : ∀ extension, ¬slash.Unparsable extension := by
    rintro extension ⟨language, hlanguage, hfile, hgrammar⟩
    have hwellFormed : slash.WellFormed := ⟨by decide, by decide⟩
    have hmem : extension ∈ slash.extensions :=
      (hwellFormed.mem_extensions_iff extension).mpr (by simp [hlanguage])
    rcases List.mem_cons.mp hmem with rfl | hlast
    · exact hfile (by decide)
    · obtain rfl := List.mem_singleton.mp hlast
      obtain rfl : "C" = language := Option.some.inj hlanguage
      exact hgrammar .c (by decide +kernel)
  exact ⟨hruby, (resolve_of_parse hruby).1.mpr ⟨".rb", hrb⟩, hslash, fun files =>
    (resolve_of_parse hslash).2.1 hall {} oneSource.trees files fun _ _ => ⟨_, rfl⟩⟩

end LanguageMap

end CodeTags
