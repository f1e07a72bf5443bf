import CodeTags.LineIndex
import CodeTags.Resolution
import CodeTags.ScanOptions
import CodeTags.Symbol
import CodeTags.TagSet
import CodeTags.Text.Utf8
import CodeTags.TokenStream

/-!
# References

The names in a source become references: a tag for each symbol and line on which it is named.

* `scanTokens`: the references among tokens.
* `scanSource`: those of a source, through the syntax tree that a parser gives.
* `Scanner.scanPath`: those of a file. A file without a language, one that cannot be read and one
  that is no text have none; only a missing grammar or a parser can fail.
-/

namespace CodeTags

/-- The references found so far, and the line reached. -/
structure ScanProgress where
  cursor : LineCursor
  tags : TagSet

/-- Takes one token. Every name moves the cursor, also one that gives no symbol. -/
def ScanProgress.step (index : LineIndex) (text : String) (options : ScanOptions)
    (progress : ScanProgress) (token : Token) : ScanProgress :=
  if token.tokenClass.isName then
    let (line, cursor) := progress.cursor.lineOf token.offset
    match symbolOf? options.strip token.text with
    | some symbol =>
      ⟨cursor, progress.tags.insert ⟨line, symbol, .reference⟩ (index.lineText text line)⟩
    | none => ⟨cursor, progress.tags⟩
  else progress

/-- The references among the tokens of a text. -/
def scanTokens (path text : String) (tokens : List Token) (options : ScanOptions) : TagSet :=
  let index := LineIndex.ofText text
  (tokens.foldl (ScanProgress.step index text options) ⟨index.cursor, .empty path⟩).tags

/-- Gives the syntax tree of a text, or says why there is none. -/
abbrev TreeSource := Grammar → String → Except GrammarError SyntaxTree

/-- The references of a text. -/
def scanSource (trees : TreeSource) (path text : String) (grammar : Grammar)
    (options : ScanOptions) : Except GrammarError TagSet :=
  (trees grammar text).map fun tree =>
    scanTokens path text (TokenStream.ofTree text tree).toList options

/-- Gives the contents of the file at a path, if it can be read. -/
abbrev FileSource := String → Option (List UInt8)

/-- What a reference scan works with. -/
structure Scanner where
  languages : LanguageMap
  options : ScanOptions
  trees : TreeSource
  files : FileSource

namespace Scanner

/-- The text of the file at a path, if it can be read and is text. -/
def textOf? (scanner : Scanner) (path : String) : Option String :=
  ((scanner.files path).bind Utf8.decode?).map String.ofList

/-- The references of the file at a path. The grammar is looked up before the file is read. -/
def scanPath (scanner : Scanner) (path : String) : Except GrammarError TagSet :=
  match scanner.languages.resolve path with
  | .error e => .error e
  | .ok none => .ok (.empty path)
  | .ok (some grammar) =>
    match scanner.textOf? path with
    | none => .ok (.empty path)
    | some text => scanSource scanner.trees path text grammar scanner.options

end Scanner

end CodeTags
