import CodeTags.Text.Split
import CodeTags.Text.Trim

/-!
# File names and extensions

* `fileName?`: the last part of a path. Slashes and single dots at the end do not count, and a path
  that then ends with two dots has no file name.
* `extension?`: what follows the last dot of the file name, unless that dot begins the name.
-/

namespace CodeTags

/-- The parts of a path between slashes, without empty ones and single dots at the end. -/
def pathParts (path : List Char) : List (List Char) :=
  trimEnd (fun part => part == [] || part == ['.']) (fieldsOf '/' path)

/-- The last part of a path, if it names a file. -/
def fileName? (path : List Char) : Option (List Char) :=
  (pathParts path).getLast?.filter (· != ['.', '.'])

/-- What follows the last dot of a file name. A dot that begins the name only hides the file. -/
def nameExtension? (name : List Char) : Option (List Char) :=
  match name.reverse.dropWhile (· != '.') with
  | _ :: _ :: _ => some (name.reverse.takeWhile (· != '.')).reverse
  | _ => none

/-- The extension of a path, without its dot. -/
def extension? (path : String) : Option String :=
  ((fileName? path.toList).bind nameExtension?).map String.ofList

end CodeTags
