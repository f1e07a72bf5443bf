import CodeTags.Proofs.Resolution
import CodeTags.Proofs.Text.Lowercase
import Mathlib.Data.List.Forall2

/-!
# The spelling of languages

Behind its first character the name of a language can be written in small or in capital ASCII
letters. The first character tells whether the language is left to the tag generator, so it has to
stay as it is.

* `IsRespelling`: names that begin alike and differ at most in the case of ASCII letters.
* `LanguageMap.IsRespelledEntry`, `LanguageMap.IsRespelled`: entries and maps with such names.
* `LanguageMap.faultOf?_of_isRespelling`: what is wrong with an entry does not depend on spelling.
* `LanguageMap.exists_addEntry_of_isRespelled`, `LanguageMap.exists_addEntries_of_isRespelled`: one
  entry keeps two maps respelled, and so do all.
* `LanguageMap.resolve_of_isRespelled`: such maps resolve a path alike.
* `LanguageMap.parse_of_isRespelled`: specifications that differ in the spelling of languages.
-/

namespace CodeTags

/-! ## Names -/

/-- The names begin alike and differ at most in the case of ASCII letters. -/
structure IsRespelling (name name' : List Char) : Prop where
  head : name'.head? = name.head?
  letters : name'.map Char.toLower = name.map Char.toLower

namespace IsRespelling

variable {name name' : List Char}

theorem eq_nil_iff (h : IsRespelling name name') : name' = [] ↔ name = [] := by
  rw [← List.head?_eq_none_iff, ← List.head?_eq_none_iff, h.head]

/-- What follows both names makes no difference. -/
theorem append (h : IsRespelling name name') (rest : List Char) :
    IsRespelling (name ++ rest) (name' ++ rest) := by
  refine ⟨?_, by rw [List.map_append, List.map_append, h.letters]⟩
  rw [List.head?_append, List.head?_append, h.head]

theorem all_isBlank_eq (h : IsRespelling name name') : name'.all isBlank = name.all isBlank := by
  have hall : ∀ cs : List Char, (cs.map Char.toLower).all isBlank = cs.all isBlank := by
    intro cs
    rw [List.all_map]
    congr 1
    funext c
    exact isBlank_toLower c
  rw [← hall, ← hall name, h.letters]

/-- Characters that are no ASCII letters stand in both. -/
theorem count_eq (h : IsRespelling name name') {d : Char} (hd : asciiLetterRanges.has d = false) :
    name'.count d = name.count d := by
  have hcount : ∀ cs : List Char, (cs.map Char.toLower).count d = cs.count d := by
    intro cs
    rw [List.count_eq_countP, List.countP_map, List.count_eq_countP]
    congr 1
    funext c
    exact Bool.eq_iff_iff.mpr (by simp [toLower_eq_iff hd])
  rw [← hcount, ← hcount name, h.letters]

/-- Languages that differ in spelling are looked up under one name. -/
theorem lookupName_eq {language language' : String}
    (h : IsRespelling language.toList language'.toList) :
    Grammar.lookupName language' = Grammar.lookupName language := by
  unfold Grammar.lookupName
  rw [lowercase_congr h.letters]

end IsRespelling

/-- The same fault of another entry. -/
def LanguageMapError.ofEntry (entry : String) : LanguageMapError → LanguageMapError
  | malformedEntry _ => malformedEntry entry
  | emptyLanguage _ => emptyLanguage entry

namespace LanguageMap

/-! ## Entries -/

/-- What stands in front of the first colon of an entry, or all of it. -/
def languagePart (entry : List Char) : List Char := entry.takeWhile (· != ':')

/-- The entries differ at most in the spelling of the language. -/
structure IsRespelledEntry (entry entry' : List Char) : Prop where
  language : IsRespelling (languagePart entry) (languagePart entry')
  rest : entry'.dropWhile (· != ':') = entry.dropWhile (· != ':')

theorem languagePart_append_cons {language : List Char} (h : ':' ∉ language)
    (extensions : List Char) :
    languagePart (language ++ ':' :: extensions) = language ∧
      (language ++ ':' :: extensions).dropWhile (· != ':') = ':' :: extensions := by
  have hall : ∀ c ∈ language, (c != ':') = true := fun c hc =>
    bne_iff_ne.mpr fun heq => h (heq ▸ hc)
  unfold languagePart
  rw [List.takeWhile_append_of_pos hall, List.dropWhile_append_of_pos hall]
  simp

section Entry

variable {entry entry' : List Char}

theorem IsRespelledEntry.isRespelling (h : IsRespelledEntry entry entry') :
    IsRespelling entry entry' := by
  have hwhole := h.language.append (entry.dropWhile (· != ':'))
  have hentry : languagePart entry ++ entry.dropWhile (· != ':') = entry :=
    List.takeWhile_append_dropWhile
  have hentry' : languagePart entry' ++ entry.dropWhile (· != ':') = entry' := by
    rw [← h.rest]
    exact List.takeWhile_append_dropWhile
  rwa [hentry, hentry'] at hwhole

/-- What is wrong with an entry does not depend on spelling. -/
theorem faultOf?_of_isRespelling (h : IsRespelling entry entry') :
    faultOf? entry' = (faultOf? entry).map (·.ofEntry (String.ofList entry')) := by
  unfold faultOf?
  rw [h.all_isBlank_eq, h.count_eq (d := ':') (by decide), h.head]
  repeat' split
  all_goals rfl

/-- An entry that can be read is read the same, but for the spelling of its language. -/
theorem readEntry_of_isRespelledEntry (h : IsRespelledEntry entry entry')
    {language extensions : List Char} (hread : readEntry entry = .ok (language, extensions)) :
    ∃ language', readEntry entry' = .ok (language', extensions) ∧
      IsRespelling language language' := by
  obtain ⟨rfl, hne, hlanguage, hextensions⟩ := readEntry_eq_ok_iff.mp hread
  obtain ⟨hpart, hrest⟩ := languagePart_append_cons hlanguage extensions
  have hspelling := h.language
  rw [hpart] at hspelling
  refine ⟨languagePart entry', readEntry_eq_ok_iff.mpr ⟨?_, ?_, ?_, hextensions⟩, hspelling⟩
  · rw [← hrest, ← h.rest]
    exact List.takeWhile_append_dropWhile.symm
  · exact fun hnil => hne (hspelling.eq_nil_iff.mp hnil)
  · intro hmem
    have hcolon := List.all_eq_true.mp List.all_takeWhile ':' hmem
    exact absurd hcolon (by decide)

end Entry

/-! ## Maps -/

/-- The maps have the same extensions in the same order, for languages that differ at most in
spelling. -/
def IsRespelled (m m' : LanguageMap) : Prop :=
  List.Forall₂ (fun e e' => e'.1 = e.1 ∧ IsRespelling e.2.toList e'.2.toList)
    m.languages m'.languages

namespace IsRespelled

variable {m m' : LanguageMap}

theorem extensions_eq (h : m.IsRespelled m') : m'.extensions = m.extensions := by
  unfold IsRespelled at h
  unfold extensions
  generalize m.languages = es at h ⊢
  generalize m'.languages = es' at h ⊢
  induction h with
  | nil => rfl
  | cons he _ ih => rw [List.map_cons, List.map_cons, he.1, ih]

theorem languageFor? (h : m.IsRespelled m') (extension : String) :
    Option.Rel (fun l l' => IsRespelling l.toList l'.toList) (m.languageFor? extension)
      (m'.languageFor? extension) := by
  unfold IsRespelled at h
  unfold LanguageMap.languageFor?
  generalize m.languages = es at h ⊢
  generalize m'.languages = es' at h ⊢
  induction h with
  | nil => exact .none
  | @cons e e' _ _ he _ ih =>
    rw [List.lookup_cons, List.lookup_cons, he.1]
    split
    · have hname : e'.2 = "" ↔ e.2 = "" := by simpa using he.2.eq_nil_iff
      by_cases hempty : e.2 = ""
      · rw [hempty, hname.mpr hempty]
        exact .none
      · have hempty' : e'.2 ≠ "" := mt hname.mp hempty
        rw [Option.filter_some_pos (by simpa using hempty),
          Option.filter_some_pos (by simpa using hempty')]
        exact .some he.2
    · exact ih

theorem record (h : m.IsRespelled m') {language language' : String}
    (hlanguage : IsRespelling language.toList language'.toList) (extension : String) :
    (m.record extension language).IsRespelled (m'.record extension language') := by
  refine .cons ⟨rfl, hlanguage⟩ (List.rel_filter ?_ h)
  intro e e' he
  show (e.1 != extension) = true ↔ (e'.1 != extension) = true
  rw [he.1]

theorem foldl_record (h : m.IsRespelled m') {language language' : String}
    (hlanguage : IsRespelling language.toList language'.toList) (extensions : List String) :
    (extensions.foldl (fun m e => m.record e language) m).IsRespelled
      (extensions.foldl (fun m e => m.record e language') m') := by
  induction extensions generalizing m m' with
  | nil => exact h
  | cons extension extensions ih => exact ih (h.record hlanguage extension)

end IsRespelled

/-- One entry keeps two maps respelled. -/
theorem exists_addEntry_of_isRespelled {entry entry' : List Char}
    (h : IsRespelledEntry entry entry') (hfault : faultOf? entry = none) {m m' : LanguageMap}
    (hm : m.IsRespelled m') :
    ∃ n n', m.addEntry entry = .ok n ∧ m'.addEntry entry' = .ok n' ∧ n.IsRespelled n' := by
  unfold addEntry
  rw [h.isRespelling.all_isBlank_eq]
  cases hblank : entry.all isBlank with
  | true => exact ⟨m, m', rfl, rfl, hm⟩
  | false =>
    cases hread : readEntry entry with
    | error e =>
      rw [(readEntry_eq_error_iff hblank).mp hread] at hfault
      cases hfault
    | ok r =>
      obtain ⟨language, extensions⟩ := r
      obtain ⟨language', hread', hspelling⟩ := readEntry_of_isRespelledEntry h hread
      rw [hread']
      simp only [Bool.false_eq_true, ↓reduceIte, hspelling.head]
      split
      · exact ⟨m, m', rfl, rfl, hm⟩
      · refine ⟨_, _, rfl, rfl, hm.foldl_record ?_ _⟩
        rw [String.toList_ofList, String.toList_ofList]
        exact hspelling

/-- So do all entries of a specification. -/
theorem exists_addEntries_of_isRespelled {entries entries' : List (List Char)}
    (h : List.Forall₂ IsRespelledEntry entries entries')
    (hfault : ∀ entry ∈ entries, faultOf? entry = none) {m m' : LanguageMap}
    (hm : m.IsRespelled m') :
    ∃ n n', m.addEntries entries = .ok n ∧ m'.addEntries entries' = .ok n' ∧
      n.IsRespelled n' := by
  induction h generalizing m m' with
  | nil => exact ⟨m, m', rfl, rfl, hm⟩
  | cons hentry _ ih =>
    obtain ⟨n, n', hadd, hadd', hn⟩ :=
      exists_addEntry_of_isRespelled hentry (hfault _ List.mem_cons_self) hm
    unfold addEntries
    rw [hadd, hadd']
    exact ih (fun entry hmem => hfault entry (List.mem_cons_of_mem _ hmem)) hn

/-! ## Resolving -/

/-- The outcomes are alike: no grammar is wanted, or it is the same, or none is registered under
the one name that is looked up for both languages. -/
def ResolvedAlike : Except GrammarError (Option Grammar) → Except GrammarError (Option Grammar) →
    Prop
  | .ok grammar, .ok grammar' => grammar' = grammar
  | .error (.unknownGrammar language name), .error (.unknownGrammar language' name') =>
    IsRespelling language.toList language'.toList ∧ name' = name
  | _, _ => False

theorem ofLanguage_of_isRespelling {language language' : String}
    (h : IsRespelling language.toList language'.toList) :
    ResolvedAlike ((Grammar.ofLanguage language).map some)
      ((Grammar.ofLanguage language').map some) := by
  unfold Grammar.ofLanguage
  rw [h.lookupName_eq]
  cases Grammar.ofName? (Grammar.lookupName language) with
  | none => exact ⟨h, rfl⟩
  | some g => exact rfl

/-- Maps that differ in the spelling of languages resolve a path alike. -/
theorem resolve_of_isRespelled {m m' : LanguageMap} (h : m.IsRespelled m') (path : String) :
    ResolvedAlike (m.resolve path) (m'.resolve path) := by
  unfold resolve languageOfPath?
  cases extension? path with
  | none => exact rfl
  | some extension =>
    have hlanguage := h.languageFor? ("." ++ extension)
    rw [Option.bind_some, Option.bind_some]
    revert hlanguage
    generalize m.languageFor? ("." ++ extension) = language
    generalize m'.languageFor? ("." ++ extension) = language'
    intro hlanguage
    cases hlanguage with
    | none => exact rfl
    | some hspelling => exact ofLanguage_of_isRespelling hspelling

/-! ## Specifications -/

/-- The specifications differ at most in the spelling of the languages of their entries. -/
def IsRespelledSpec (spec spec' : String) : Prop :=
  List.Forall₂ IsRespelledEntry (entriesOf spec) (entriesOf spec')

/-- Entry number `i`, counted from 0, is the first faulty one. -/
def FirstFault (spec : String) (i : Nat) (entry : List Char) (e : LanguageMapError) : Prop :=
  ∃ before after, entriesOf spec = before ++ entry :: after ∧ before.length = i ∧
    (∀ b ∈ before, faultOf? b = none) ∧ faultOf? entry = some e

/-- A specification that cannot be read fails at its first faulty entry. -/
theorem parse_eq_error_iff_firstFault {spec : String} {e : LanguageMapError} :
    parse spec = .error e ↔ ∃ i entry, FirstFault spec i entry e := by
  rw [parse_eq_error_iff, List.findSome?_eq_some_iff]
  constructor
  · rintro ⟨before, entry, after, hentries, hfault, hbefore⟩
    exact ⟨before.length, entry, before, after, hentries, rfl, hbefore, hfault⟩
  · rintro ⟨-, entry, before, after, hentries, -, hbefore, hfault⟩
    exact ⟨before, entry, after, hentries, hfault, hbefore⟩

/-- The entries in front of an entry, and those behind it, are respelled one by one. -/
theorem exists_append_of_forall₂ {before after entries' : List (List Char)} {entry : List Char}
    (h : List.Forall₂ IsRespelledEntry (before ++ entry :: after) entries') :
    ∃ before' entry' after', entries' = before' ++ entry' :: after' ∧
      List.Forall₂ IsRespelledEntry before before' ∧ IsRespelledEntry entry entry' := by
  induction before generalizing entries' with
  | nil =>
    obtain ⟨entry', after', hentry, -, rfl⟩ := List.forall₂_cons_left_iff.mp h
    exact ⟨[], entry', after', rfl, .nil, hentry⟩
  | cons b before ih =>
    obtain ⟨b', rest', hb, hrest, rfl⟩ := List.forall₂_cons_left_iff.mp h
    obtain ⟨before', entry', after', rfl, hbefore, hentry⟩ := ih hrest
    exact ⟨b' :: before', entry', after', rfl, .cons hb hbefore, hentry⟩

theorem faultOf?_eq_none_of_forall₂ {entries entries' : List (List Char)}
    (h : List.Forall₂ IsRespelledEntry entries entries')
    (hfault : ∀ entry ∈ entries, faultOf? entry = none) :
    ∀ entry ∈ entries', faultOf? entry = none := by
  induction h with
  | nil => exact hfault
  | cons hentry _ ih =>
    obtain ⟨hfirst, hrest⟩ := List.forall_mem_cons.mp hfault
    refine List.forall_mem_cons.mpr ⟨?_, ih hrest⟩
    rw [faultOf?_of_isRespelling hentry.isRespelling, hfirst, Option.map_none]

/-- The first faulty entry is the same, with the same fault. -/
theorem FirstFault.of_isRespelledSpec {spec spec' : String} (h : IsRespelledSpec spec spec')
    {i : Nat} {entry : List Char} {e : LanguageMapError} (hfirst : FirstFault spec i entry e) :
    ∃ entry', IsRespelledEntry entry entry' ∧
      FirstFault spec' i entry' (e.ofEntry (String.ofList entry')) := by
  obtain ⟨before, after, hentries, hlength, hbefore, hfault⟩ := hfirst
  unfold IsRespelledSpec at h
  rw [hentries] at h
  obtain ⟨before', entry', after', hentries', hrespelled, hentry⟩ := exists_append_of_forall₂ h
  refine ⟨entry', hentry, before', after', hentries', ?_,
    faultOf?_eq_none_of_forall₂ hrespelled hbefore, ?_⟩
  · rw [← hrespelled.length_eq, hlength]
  · rw [faultOf?_of_isRespelling hentry.isRespelling, hfault, Option.map_some]

/-- **The spelling of languages.** If two specifications differ only in the case of ASCII letters
behind the first character of languages, either both fail at the same entry with the same fault, or
both can be read. Their maps then have the same extensions, each for one language up to its
spelling, and every path resolves to the same: to nothing, to one grammar, or to the error that no
grammar is registered under one name. The other characters of the languages can be any. -/
theorem parse_of_isRespelled {spec spec' : String} (h : IsRespelledSpec spec spec') :
    (∃ i entry entry' e, IsRespelledEntry entry entry' ∧
      FirstFault spec i entry e ∧ parse spec = .error e ∧
      FirstFault spec' i entry' (e.ofEntry (String.ofList entry')) ∧
      parse spec' = .error (e.ofEntry (String.ofList entry'))) ∨
    ∃ m m', parse spec = .ok m ∧ parse spec' = .ok m' ∧ m'.extensions = m.extensions ∧
      (∀ extension, Option.Rel (fun l l' => IsRespelling l.toList l'.toList)
        (m.languageFor? extension) (m'.languageFor? extension)) ∧
      ∀ path, ResolvedAlike (m.resolve path) (m'.resolve path) := by
  cases hparse : parse spec with
  | error e =>
    obtain ⟨i, entry, hfirst⟩ := parse_eq_error_iff_firstFault.mp hparse
    obtain ⟨entry', hentry, hfirst'⟩ := hfirst.of_isRespelledSpec h
    exact .inl ⟨i, entry, entry', e, hentry, hfirst, rfl, hfirst',
      parse_eq_error_iff_firstFault.mpr ⟨i, entry', hfirst'⟩⟩
  | ok m =>
    have hempty : empty.IsRespelled empty := .nil
    obtain ⟨n, n', hn, hn', hrespelled⟩ :=
      exists_addEntries_of_isRespelled h (fun _ => faultOf?_eq_none_of_parse hparse) hempty
    obtain rfl : m = n := Except.ok.inj (hparse.symm.trans hn)
    exact .inr ⟨m, n', rfl, hn', hrespelled.extensions_eq, hrespelled.languageFor?,
      resolve_of_isRespelled hrespelled⟩

set_option maxRecDepth 8000 in
/-- Greek languages have ASCII letters too, and a sigma in front of one is not at the end. -/
theorem parse_of_isRespelled_of_capitals :
    let spec := "ΠΣA:.x,PYTHON:.py"
    let spec' := "ΠΣa:.x,Python:.py"
    IsRespelledSpec spec spec' ∧
    ∃ m m', parse spec = .ok m ∧ parse spec' = .ok m' ∧ m' ≠ m ∧
      m'.extensions = [".py", ".x"] ∧ m'.resolve "a.py" = .ok (some .python) ∧
      ∃ language, m'.resolve "b.x" = .error (.unknownGrammar language "πσa") := by
  intro spec spec'
  have hspec : IsRespelledSpec spec spec' := by
    have hentries : entriesOf spec = ["ΠΣA:.x".toList, "PYTHON:.py".toList] := by decide +kernel
    have hentries' : entriesOf spec' = ["ΠΣa:.x".toList, "Python:.py".toList] := by decide +kernel
    rw [IsRespelledSpec, hentries, hentries']
    exact .cons ⟨⟨by decide, by decide⟩, by decide⟩ (.cons ⟨⟨by decide, by decide⟩, by decide⟩ .nil)
  let m : LanguageMap := ⟨[(".py", "PYTHON"), (".x", "ΠΣA")]⟩
  have hm : parse spec = .ok m := by decide +kernel
  have hpython : m.resolve "a.py" = .ok (some .python) := by decide +kernel
  have hgreek : m.resolve "b.x" = .error (.unknownGrammar "ΠΣA" "πσa") := by decide +kernel
  rcases parse_of_isRespelled hspec with ⟨_, _, _, e, -, -, herror, -⟩ |
    ⟨n, m', hn, hm', hextensions, -, hresolve⟩
  · rw [hm] at herror
    cases herror
  · obtain rfl : m = n := Except.ok.inj (hm.symm.trans hn)
    have hne : parse spec' ≠ parse spec := by decide +kernel
    refine ⟨hspec, m, m', hm, hm', ?_, hextensions, ?_, ?_⟩
    · rintro rfl
      exact hne (hm'.trans hm.symm)
    · have halike := hresolve "a.py"
      rw [hpython] at halike
      cases hr : m'.resolve "a.py" with
      | ok g => rw [hr] at halike; exact congrArg _ halike
      | error e => rw [hr] at halike; exact halike.elim
    · have halike := hresolve "b.x"
      rw [hgreek] at halike
      cases hr : m'.resolve "b.x" with
      | ok g => rw [hr] at halike; exact halike.elim
      | error e =>
        rw [hr] at halike
        cases e with
        | unknownGrammar language name => exact ⟨language, by rw [← halike.2]⟩
        | initFailed => exact halike.elim
        | parseFailed => exact halike.elim

end LanguageMap

end CodeTags
