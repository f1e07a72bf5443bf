import CodeTags.Service

/-!
# Definitions from a table

A definition source whose answers are fixed for each path, and which remembers what it was asked.
-/

namespace CodeTags

/-- The answer for one path. -/
structure DefinitionRow where
  path : String
  answer : Except GeneratorError TagSet

/-- The paths asked for so far, in order. -/
abbrev RequestLog := List String

/-- The answer of the first row for a path. A path without a row has no definitions. -/
def definitionTable (rows : List DefinitionRow) : DefinitionSource RequestLog := fun log path =>
  match rows.find? (·.path == path) with
  | some row => (row.answer, log ++ [path])
  | none => (.ok (.empty path), log ++ [path])

end CodeTags
