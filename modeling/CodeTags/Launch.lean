import CodeTags.FileTree
import CodeTags.ScriptedGenerator

/-!
# Starting a program

* `FileTree.launchError`: why a program that is no tag generator cannot be started.
* `launchScripted`: starts the scripted generator under one name, and nothing under any other.
-/

namespace CodeTags

/-- Why a program could not be started. -/
inductive LaunchError where
  /-- The name of the program is no name. -/
  | nulInName
  | system (error : SystemError)
deriving DecidableEq, Repr

/-- The text of the error. -/
def LaunchError.message : LaunchError → String
  | nulInName => "nul byte found in provided data"
  | system error => error.message

/-- The reason why a name starts no program. A name with a slash is a path, and nothing in the tree
can be started. Any other name is looked for in the directories of programs, which hold none; but a
dot alone leads to them, or two to the one above. -/
def FileTree.launchError (tree : FileTree) (program : String) : LaunchError :=
  if '\x00' ∈ program.toList then .nulInName
  else if '/' ∈ program.toList then
    match tree.lookup program with
    | .ok _ => .system .denied
    | .error error => .system error
  else if nameBound < byteLength program.toList then .system .nameTooLong
  else if program = "." ∨ program = ".." then .system .denied
  else .system .notFound

/-- Starts the scripted generator if the program has its name. -/
def launchScripted (tree : FileTree) (name : String) (replies : List ScriptedReply)
    (program : String) (arguments : List String) :
    Except String (StartedProgram ScriptedGenerator) :=
  if program = name then .ok ⟨.start arguments replies, true, true⟩
  else .error (tree.launchError program).message

end CodeTags
