import CodeTags.ReferenceScan
import CodeTags.SystemError
import CodeTags.Text.Slice
import CodeTags.Text.Split

/-!
# Files and directories

What stands at the places of a file system, and where a path leads.

* `Place.enter`: one part of a path. Empty parts and single dots stay, two dots go up, and a name
  goes down.
* `FileTree.lookup`: walks a path from the root or from the working directory. Only the last part
  can be a file; `nameBound` and `pathBound` limit the lengths.
* `FileTree.read?`: the contents of the file at a path.
-/

namespace CodeTags

/-- The names that lead from the root down to something. -/
abbrev Place := List (List Char)

/-- Where one part of a path leads from a directory. The root is above itself. -/
def Place.enter (place : Place) (part : List Char) : Place :=
  if part = [] ∨ part = ['.'] then place
  else if part = ['.', '.'] then place.dropLast
  else place ++ [part]

/-- What stands at a place. -/
inductive FileEntry where
  | file (contents : List UInt8)
  | directory
deriving DecidableEq, Repr

/-- The things that stand somewhere, and the place from which relative paths lead on. The
directories above those places exist with them, and so does the working directory. -/
structure FileTree where
  entries : List (Place × FileEntry)
  workingDirectory : Place
deriving DecidableEq, Repr

/-- The number of bytes that a name can have. -/
def nameBound : Nat := 255

/-- The number of bytes that a path can have. -/
def pathBound : Nat := 4095

namespace FileTree

/-- The place where a path begins. -/
def base (tree : FileTree) (path : String) : Place :=
  if path.toList.head? = some '/' then [] else tree.workingDirectory

/-- The place that a path spells, whatever stands there. -/
def placeOf (tree : FileTree) (path : String) : Place :=
  (fieldsOf '/' path.toList).foldl Place.enter (tree.base path)

/-- Puts something at the place of a path. It hides what was there. -/
def add (tree : FileTree) (path : String) (entry : FileEntry) : FileTree :=
  { tree with entries := (tree.placeOf path, entry) :: tree.entries }

/-- What stands at a place. -/
def entryAt? (tree : FileTree) (place : Place) : Option FileEntry :=
  match tree.entries.lookup place with
  | some entry => some entry
  | none =>
    if place.isPrefixOf tree.workingDirectory || tree.entries.any (place.isPrefixOf ·.1) then
      some .directory
    else none

/-- Walks on from the directory at `place`. -/
def lookupFrom (tree : FileTree) (place : Place) :
    List (List Char) → Except SystemError FileEntry
  | [] => .ok .directory
  | part :: parts =>
    if nameBound < byteLength part then .error .nameTooLong
    else
      match tree.entryAt? (place.enter part) with
      | none => .error .notFound
      | some .directory => tree.lookupFrom (place.enter part) parts
      | some (.file contents) =>
        if parts = [] then .ok (.file contents) else .error .notDirectory

/-- What a path leads to. -/
def lookup (tree : FileTree) (path : String) : Except SystemError FileEntry :=
  if path = "" then .error .notFound
  else if pathBound < byteLength path.toList then .error .nameTooLong
  else tree.lookupFrom (tree.base path) (fieldsOf '/' path.toList)

/-- The contents of the file at a path. -/
def read? (tree : FileTree) : FileSource := fun path =>
  match tree.lookup path with
  | .ok (.file contents) => some contents
  | _ => none

end FileTree

end CodeTags
