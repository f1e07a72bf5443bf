import CodeTags.Text.Blank
import CodeTags.Text.LetterCase
import CodeTags.Text.Split

/-!
# Language maps

Which language the files with an extension are written in, read from a specification such as
`Python:.py.pyw,C++:.cc.hpp`.

* `LanguageMap.parse`: reads a specification. The first faulty entry is the error; entries of
  languages that begin with a small letter are checked and then left out; the last entry for an
  extension holds.
* `LanguageMap.languageFor?`, `LanguageMap.size`: look into the map.
-/

namespace CodeTags

/-- Why a specification is no language map. -/
inductive LanguageMapError where
  | malformedEntry (entry : String)
  | emptyLanguage (entry : String)
deriving DecidableEq, Repr

/-- The text of the error. -/
def LanguageMapError.message : LanguageMapError → String
  | malformedEntry entry => "malformed langmap entry '" ++ entry ++ "': expected LANG:EXTS"
  | emptyLanguage entry => "langmap entry '" ++ entry ++ "' has an empty language name"

/-- Extensions, each with its dot and at most once, and their languages. -/
structure LanguageMap where
  languages : List (String × String)
deriving DecidableEq, Repr

namespace LanguageMap

/-- No extensions. -/
def empty : LanguageMap := ⟨[]⟩

/-- Gives an extension to a language and takes it from any other. -/
def record (m : LanguageMap) (extension language : String) : LanguageMap :=
  ⟨(extension, language) :: m.languages.filter (·.1 != extension)⟩

/-- The language of an extension, written with its dot. A language without a name does not count. -/
def languageFor? (m : LanguageMap) (extension : String) : Option String :=
  (m.languages.lookup extension).filter (· ≠ "")

/-- The number of extensions. -/
def size (m : LanguageMap) : Nat := m.languages.length

/-- The language name and the extensions of an entry, which one colon keeps apart. -/
def readEntry (entry : List Char) : Except LanguageMapError (List Char × List Char) :=
  match fieldsOf ':' entry with
  | [language, extensions] =>
    if language = [] then .error (.emptyLanguage (String.ofList entry))
    else .ok (language, extensions)
  | _ => .error (.malformedEntry (String.ofList entry))

/-- The pieces between dots that are not empty, each with a dot in front. -/
def extensionsOf (extensions : List Char) : List String :=
  ((fieldsOf '.' extensions).filter (· ≠ [])).map fun e => String.ofList ('.' :: e)

/-- Reads one entry. Blank entries say nothing, and neither do languages that begin with a small
letter. -/
def addEntry (m : LanguageMap) (entry : List Char) : Except LanguageMapError LanguageMap :=
  if entry.all isBlank then .ok m
  else
    match readEntry entry with
    | .error e => .error e
    | .ok (language, extensions) =>
      if language.head?.any isLowercase then .ok m
      else
        .ok ((extensionsOf extensions).foldl
          (fun m e => m.record e (String.ofList language)) m)

/-- Reads entries from left to right. -/
def addEntries (m : LanguageMap) : List (List Char) → Except LanguageMapError LanguageMap
  | [] => .ok m
  | entry :: entries =>
    match m.addEntry entry with
    | .error e => .error e
    | .ok m => m.addEntries entries

/-- Reads a specification, whose entries stand between commas. -/
def parse (spec : String) : Except LanguageMapError LanguageMap :=
  empty.addEntries (fieldsOf ',' spec.toList)

end LanguageMap

end CodeTags
