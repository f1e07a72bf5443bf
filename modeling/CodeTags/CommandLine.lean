/-!
# The command line

* `Arguments`: what the arguments ask for.
* `Invocation.parse`: reads the arguments from left to right. Asking for help or for the version
  ends the reading at once; all that is not understood is a misuse.
* `helpText`, `versionText`: what is printed on request.
-/

namespace CodeTags

/-- What the arguments ask for. With paths to scan, nothing is served. -/
structure Arguments where
  langmap : String
  generator : String
  withReferences : Bool
  scan : List String
  json : Bool
deriving DecidableEq, Repr

/-- What the command is to do. -/
inductive Invocation where
  | help
  | version
  | misuse
  | work (arguments : Arguments)
deriving DecidableEq, Repr

/-- The options that take values. Only `scan` takes more than one, and can come again. -/
inductive ValueOption where
  | langmap
  | generator
  | scan
deriving DecidableEq, Repr

/-- The arguments read so far. -/
structure PartialArguments where
  langmap : Option String := none
  generator : Option String := none
  withReferences : Bool := false
  scan : List String := []
  json : Bool := false
deriving DecidableEq, Repr

/-- The option to which the next argument belongs, if it is a value. -/
inductive Expected where
  /-- No option waits. -/
  | nothing
  /-- The option has no value yet, and must get one. -/
  | value (option : ValueOption)
  /-- More paths can follow. -/
  | morePaths
deriving DecidableEq, Repr

namespace PartialArguments

/-- Records a value of an option; `none` if the option has one and can have no other. -/
def setValue? (a : PartialArguments) (value : String) : ValueOption → Option PartialArguments
  | .langmap => if a.langmap.isSome then none else some { a with langmap := some value }
  | .generator => if a.generator.isSome then none else some { a with generator := some value }
  | .scan => some { a with scan := a.scan ++ [value] }

/-- Checks at the end: a language map is needed, and JSON only goes with a scan. -/
def complete (a : PartialArguments) : Invocation :=
  match a.langmap with
  | none => .misuse
  | some langmap =>
    if a.json ∧ a.scan = [] then .misuse
    else .work ⟨langmap, a.generator.getD "ctags", a.withReferences, a.scan, a.json⟩

end PartialArguments

/-- An argument by its form. -/
inductive ArgumentForm where
  /-- Two dashes alone: only operands follow. -/
  | endOfOptions
  /-- Two dashes, a name, and maybe a value behind an equals sign. -/
  | long (name : String) (value : Option String)
  /-- A dash and letters. -/
  | short (letters : List Char)
  /-- Anything else, also a single dash. -/
  | value (text : String)
deriving DecidableEq, Repr

/-- The name in front of the first equals sign, and the value behind it. -/
def longForm (cs : List Char) : ArgumentForm :=
  match cs.dropWhile (· != '=') with
  | [] => .long (String.ofList cs) none
  | _ :: value => .long (String.ofList (cs.takeWhile (· != '='))) (some (String.ofList value))

/-- The form of an argument. -/
def ArgumentForm.of (arg : String) : ArgumentForm :=
  match arg.toList with
  | ['-', '-'] => .endOfOptions
  | '-' :: '-' :: cs => longForm cs
  | '-' :: c :: cs => .short (c :: cs)
  | _ => .value arg

/-- The option with a long name. -/
def ValueOption.ofName? : String → Option ValueOption
  | "langmap" => some .langmap
  | "ctags" => some .generator
  | "scan" => some .scan
  | _ => none

namespace Invocation

/-- Reads the arguments that follow those in `a`. -/
def parseFrom (a : PartialArguments) (expected : Expected) : List String → Invocation
  | [] =>
    match expected with
    | .value _ => .misuse
    | _ => a.complete
  | arg :: args =>
    match ArgumentForm.of arg, expected with
    | .value text, .value option =>
      match a.setValue? text option with
      | some a => parseFrom a (if option = .scan then .morePaths else .nothing) args
      | none => .misuse
    | .value text, .morePaths => parseFrom { a with scan := a.scan ++ [text] } .morePaths args
    -- Operands are not taken, and an option that waits for a value cannot do without one.
    | .value _, .nothing => .misuse
    | _, .value _ => .misuse
    | .endOfOptions, _ => if args = [] then a.complete else .misuse
    | .short ('h' :: _), _ => .help
    | .short ('V' :: _), _ => .version
    | .short _, _ => .misuse
    | .long "help" none, _ => .help
    | .long "version" none, _ => .version
    | .long "with-references" none, _ =>
      if a.withReferences then .misuse
      else parseFrom { a with withReferences := true } .nothing args
    | .long "json" none, _ =>
      if a.json then .misuse
      else parseFrom { a with json := true } .nothing args
    | .long name none, _ =>
      match ValueOption.ofName? name with
      | some option => parseFrom a (.value option) args
      | none => .misuse
    | .long name (some text), _ =>
      match (ValueOption.ofName? name).bind (a.setValue? text) with
      | some a => parseFrom a .nothing args
      | none => .misuse

/-- Reads the arguments of the command. -/
def parse (args : List String) : Invocation := parseFrom {} .nothing args

end Invocation

/-- What is printed when the version is asked for. -/
def versionText : String := "tagbridge 0.1.0\n"

/-- What is printed when help is asked for. -/
def helpText : String := String.join <| List.map (· ++ "\n")
  ["Answer tag requests for code indexers using ctags and tree-sitter",
   "",
   "Usage: tagbridge [OPTIONS] --langmap <LANGMAP>",
   "",
   "Options:",
   "      --langmap <LANGMAP>  Language map: Lang1:ext1.ext2,Lang2:ext3 "
     ++ "(lowercase languages are skipped)",
   "      --ctags <CTAGS>      Tag generator program [default: ctags]",
   "      --with-references    Also report lexical references for every requested path",
   "      --scan <SCAN>...     Scan these files once and exit instead of serving requests",
   "      --json               Print scan results as JSON lines",
   "  -h, --help               Print help",
   "  -V, --version            Print version"]

end CodeTags
