import CodeTags.Text.Lowercase

/-!
# Grammars

The languages whose sources can be parsed.

* `Grammar.name`, `Grammar.ofName?`: the registered names. They are matched exactly.
* `Grammar.lookupName`: the name under which the grammar of a language is looked up. It does not
  depend on the case of the language name, and some languages have another name here.
* `GrammarError`: why a source was not parsed.
-/

namespace CodeTags

/-- The registered grammars. -/
inductive Grammar where
  | c
  | cpp
  | go
  | java
  | javaScript
  | python
  | rust
  | typeScript
  | tsx
deriving DecidableEq, Repr

namespace Grammar

/-- All grammars in the order of the registry. -/
def all : List Grammar := [c, cpp, go, java, javaScript, python, rust, typeScript, tsx]

/-- The registered name. -/
def name : Grammar → String
  | c => "c"
  | cpp => "cpp"
  | go => "go"
  | java => "java"
  | javaScript => "js"
  | python => "python"
  | rust => "rust"
  | typeScript => "ts"
  | tsx => "tsx"

/-- The name for a reader. -/
def displayName : Grammar → String
  | c => "C"
  | cpp => "C++"
  | go => "Go"
  | java => "Java"
  | javaScript => "JavaScript"
  | python => "Python"
  | rust => "Rust"
  | typeScript => "TypeScript"
  | tsx => "TSX"

/-- The grammar registered under a name. -/
def ofName? (s : String) : Option Grammar := all.find? (·.name == s)

/-- Languages that are registered under a shorter name. -/
def aliases : List (String × String) :=
  [("c++", "cpp"), ("golang", "go"), ("javascript", "js"), ("python3", "python"),
   ("typescript", "ts")]

/-- The name under which the grammar of a language is looked up. -/
def lookupName (language : String) : String :=
  (aliases.lookup (lowercase language)).getD (lowercase language)

theorem mem_all (g : Grammar) : g ∈ all := by cases g <;> decide

theorem ofName?_name (g : Grammar) : ofName? g.name = some g := by cases g <;> rfl

end Grammar

/-- Why a source was not parsed. -/
inductive GrammarError where
  | unknownGrammar (language grammar : String)
  | initFailed (grammar reason : String)
  | parseFailed (grammar : String)
deriving DecidableEq, Repr

/-- The text of the error. -/
def GrammarError.message : GrammarError → String
  | unknownGrammar language grammar =>
    "no grammar registered as '" ++ grammar ++ "' (language '" ++ language ++ "')"
  | initFailed grammar reason => "failed to initialize " ++ grammar ++ " grammar: " ++ reason
  | parseFailed grammar => "failed to parse source as " ++ grammar

end CodeTags
