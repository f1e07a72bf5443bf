import CodeTags.Proofs.Resolution

/-!
# The last part of a path

A path is resolved by the name of its file alone. Directories in front of the name make no
difference, and neither do slashes and single dots behind it.

* `LanguageMap.HasLanguage`: the language that a map has for a path, by the extension of its last
  part; `LanguageMap.languageOfPath?_eq_some_iff`: it is the one that is looked up.
* `LanguageMap.resolve_of_lastPart`: what a path resolves to, by its last part.
-/

namespace CodeTags

namespace LanguageMap

/-- The map has the language for the extension of the path. -/
def HasLanguage (m : LanguageMap) (path language : String) : Prop :=
  ∃ name extension, IsLastPart path.toList name ∧ name ≠ ['.', '.'] ∧
    IsExtension name extension ∧ m.languageFor? (String.ofList ('.' :: extension)) = some language

variable {spec : String} {m : LanguageMap} {path language : String}

/-- No map that is read from a specification has a language for a dot alone. -/
theorem ne_of_languageFor? (h : parse spec = .ok m) {extension : List Char}
    (hlanguage : m.languageFor? (String.ofList ('.' :: extension)) = some language) :
    extension ≠ [] := by
  obtain ⟨piece, hpiece, -, heq⟩ := exists_of_languageFor? h hlanguage
  rw [String.toList_ofList] at heq
  rwa [(List.cons.inj heq).2]

theorem languageOfPath?_eq_some_iff (h : parse spec = .ok m) :
    m.languageOfPath? path = some language ↔ m.HasLanguage path language := by
  have hdot : ∀ extension : String, "." ++ extension = String.ofList ('.' :: extension.toList) := by
    intro extension
    rw [← String.toList_inj]
    simp
  rw [languageOfPath?, Option.bind_eq_some_iff, HasLanguage]
  constructor
  · rintro ⟨extension, hextension, hlanguage⟩
    obtain ⟨name, hlast, hdots, hname⟩ := extension?_eq_some_iff.mp hextension
    obtain ⟨hmem, hstem⟩ := nameExtension?_eq_some_iff.mp hname
    rw [hdot] at hlanguage
    exact ⟨name, _, hlast, hdots, ⟨hmem, ne_of_languageFor? h hlanguage, hstem⟩, hlanguage⟩
  · rintro ⟨name, extension, hlast, hdots, ⟨hmem, -, hstem⟩, hlanguage⟩
    refine ⟨String.ofList extension, extension?_eq_some_iff.mpr ⟨name, hlast, hdots, ?_⟩, ?_⟩
    · rw [String.toList_ofList, nameExtension?_eq_some_iff]
      exact ⟨hmem, hstem⟩
    · rwa [hdot, String.toList_ofList]

/-- Paths with the same file name are resolved in the same way. -/
theorem resolve_congr {path' : String} (h : fileName? path'.toList = fileName? path.toList) :
    m.resolve path' = m.resolve path := by
  unfold resolve languageOfPath? extension?
  rw [h]

/-- **Resolving by the last part.** Drop what counts for nothing at the end of a path, empty parts
and single dots. If a part is left that is not two dots, with an extension for which the map has a
language, the path resolves to the grammar of the language, or to an error that names it and its
grammar; otherwise to nothing. So any directory can be put in front of such a part, and any number
of slashes, with or without a dot, behind the path. -/
theorem resolve_of_lastPart (h : parse spec = .ok m) (path : String) :
    (m.resolve path = .ok none ↔ ∀ language, ¬m.HasLanguage path language) ∧
    (∀ g, m.resolve path = .ok (some g) ↔
      ∃ language, m.HasLanguage path language ∧ g.name = Grammar.lookupName language) ∧
    (∀ e, m.resolve path = .error e ↔
      ∃ language, m.HasLanguage path language ∧
        (∀ g : Grammar, g.name ≠ Grammar.lookupName language) ∧
        e = .unknownGrammar language (Grammar.lookupName language)) ∧
    (∀ part, IsLastPart path.toList part →
      ∀ dir, m.resolve (dir ++ "/" ++ path) = m.resolve path) ∧
    ∀ tails : List String, (∀ tail ∈ tails, tail = "/" ∨ tail = "/.") →
      m.resolve (tails.foldl (· ++ ·) path) = m.resolve path := by
  refine ⟨?_, fun g => ?_, fun e => ?_, fun part hpart dir => ?_, fun tails htails => ?_⟩
  · rw [resolve_eq_none_iff, Option.eq_none_iff_forall_ne_some]
    exact forall_congr' fun language => not_congr (languageOfPath?_eq_some_iff h)
  · rw [resolve_eq_some_iff]
    simp only [languageOfPath?_eq_some_iff h]
  · rw [resolve_eq_error_iff_exists]
    simp only [languageOfPath?_eq_some_iff h]
  · refine resolve_congr ?_
    have hpath : (dir ++ "/" ++ path).toList = dir.toList ++ '/' :: path.toList := by simp
    rw [hpath, fileName?_append_of_lastPart dir.toList hpart]
  · exact resolve_congr (fileName?_foldl_append path htails)

set_option maxRecDepth 8000 in
/-- The name begins with dots, and a part with an extension is in front of it. Ruby has no grammar,
and two dots are no name. -/
theorem resolve_of_lastPart_of_two_extensions :
    let m : LanguageMap := ⟨[(".rb", "Ruby"), (".c", "C")]⟩
    parse "C:.c,Ruby:.rb" = .ok m ∧ IsLastPart "x.rb/..a.c/./".toList "..a.c".toList ∧
      m.resolve "x.rb/..a.c/./" = .ok (some .c) ∧
      m.resolve ("/b.rb" ++ "/" ++ "x.rb/..a.c/./") = .ok (some .c) ∧
      m.resolve (["/", "/."].foldl (· ++ ·) "x.rb/..a.c/./") = .ok (some .c) ∧
      m.resolve "b.rb" = .error (.unknownGrammar "Ruby" (Grammar.lookupName "Ruby")) ∧
      m.resolve "a.c/.." = .ok none := by
  intro m
  have hm : parse "C:.c,Ruby:.rb" = .ok m := by rfl
  have hpart : IsLastPart "x.rb/..a.c/./".toList "..a.c".toList :=
    ⟨by decide, by decide, ["x.rb".toList], [['.'], []], by decide, by decide⟩
  have hc : m.HasLanguage "x.rb/..a.c/./" "C" :=
    ⟨_, ['c'], hpart, by decide, ⟨by decide, by decide, "..a".toList, by decide, by decide⟩,
      by decide⟩
  have hruby : m.HasLanguage "b.rb" "Ruby" :=
    ⟨"b.rb".toList, ['r', 'b'], ⟨by decide, by decide, [], [], by decide, by decide⟩, by decide,
      ⟨by decide, by decide, ['b'], by decide, by decide⟩, by decide⟩
  have hdots : ∀ language, ¬m.HasLanguage "a.c/.." language := by
    rintro language ⟨name, extension, hlast, hname, -, -⟩
    have hparts : (pathParts "a.c/..".toList).getLast? = some ['.', '.'] := by decide
    rw [getLast?_pathParts_eq_some_iff.mpr hlast] at hparts
    exact hname (Option.some.inj hparts)
  have hgrammar : Grammar.ofName? (Grammar.lookupName "Ruby") = none := by decide +kernel
  obtain ⟨-, hsome, -, hdir, htails⟩ := resolve_of_lastPart hm "x.rb/..a.c/./"
  have hresolve := (hsome .c).mpr ⟨"C", hc, by decide +kernel⟩
  refine ⟨hm, hpart, hresolve, (hdir _ hpart _).trans hresolve,
    (htails ["/", "/."] (by decide)).trans hresolve, ?_, ?_⟩
  · exact ((resolve_of_lastPart hm "b.rb").2.2.1 _).mpr
      ⟨"Ruby", hruby, Grammar.ofName?_eq_none_iff.mp hgrammar, rfl⟩
  · exact (resolve_of_lastPart hm "a.c/..").1.mpr hdots

end LanguageMap

end CodeTags
