import CodeTags.Command

/-!
# The program

Reads what `command` needs from the world, and prints what it gives. No parser is linked in and no
other program can be started from here, so both answer with the reason for that.
-/

namespace CodeTags

/-- The contents of a file, if it can be read. -/
def readContents (path : String) : IO (Option (List UInt8)) := do
  try
    return some (← IO.FS.readBinFile path).toList
  catch _ => return none

/-- The files that the arguments name, with their contents. -/
def readScanned (args : List String) : IO (List (String × Option (List UInt8))) :=
  match Invocation.parse args with
  | .work arguments => arguments.scan.mapM fun path => do return (path, ← readContents path)
  | _ => return []

/-- The values of the environment variables that matter. -/
def readVariables : IO (List (String × Option (List UInt8))) :=
  (logVariable :: ScanOptions.variableNames).mapM fun name => do
    return (name, (← IO.getEnv name).map fun value => Utf8.encode value.toList)

/-- Takes bytes that nobody reads. -/
def noGenerator : Generator Unit where
  send _ _ := ⟨(), [], some (0, .failed "no program is running")⟩
  behind _ := none
  ends _ := true
  patternError? _ := none

/-- The world as it is found when the program starts. -/
def readSurroundings (args : List String) : IO (Surroundings Unit) := do
  let values ← readVariables
  let files ← readScanned args
  return {
    environment := fun name => (values.lookup name).join
    files := fun path => (files.lookup path).join
    trees := fun grammar _ => .error (.initFailed grammar.name "no parser is linked in")
    input := []
    launch := fun _ _ => .error "programs cannot be started from here"
    generator := noGenerator }

end CodeTags

/-- Runs the command, and prints the text of an error apart from the output. As no other program is
started, there is an exit code. -/
def main (args : List String) : IO UInt32 := do
  let outcome := CodeTags.command args (← CodeTags.readSurroundings args)
  let output ← IO.getStdout
  output.write ⟨outcome.output.toArray⟩
  output.flush
  if let some message := outcome.error then IO.eprintln message
  return (outcome.exitCode.getD 1).toUInt32
