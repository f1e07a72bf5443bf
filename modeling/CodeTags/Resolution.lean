import CodeTags.FileName
import CodeTags.Grammar
import CodeTags.LanguageMap

/-!
# From a path to its grammar

* `LanguageMap.resolve`: the grammar for the extension of a path. An extension without a language
  means that the file has no references; a language without a grammar is an error.
-/

namespace CodeTags

/-- The language of the files that are named like this path. -/
def LanguageMap.languageOfPath? (m : LanguageMap) (path : String) : Option String :=
  (extension? path).bind fun e => m.languageFor? ("." ++ e)

/-- The grammar of a language. -/
def Grammar.ofLanguage (language : String) : Except GrammarError Grammar :=
  match ofName? (lookupName language) with
  | some g => .ok g
  | none => .error (.unknownGrammar language (lookupName language))

/-- The grammar of the files that are named like this path. -/
def LanguageMap.resolve (m : LanguageMap) (path : String) : Except GrammarError (Option Grammar) :=
  match m.languageOfPath? path with
  | none => .ok none
  | some language => (Grammar.ofLanguage language).map some

end CodeTags
