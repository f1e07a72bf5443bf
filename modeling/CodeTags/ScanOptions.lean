import CodeTags.Text.Split
import CodeTags.Text.Trim
import CodeTags.Text.Utf8

/-!
# Options of the reference scan

* `ScanOptions.parse`: reads options between commas. Only one option is known, and unknown ones are
  passed over.
* `ScanOptions.ofEnvironment`: the options of both environment variables together.
-/

namespace CodeTags

/-- How names become symbols: with `strip`, marks around a name are left out. -/
structure ScanOptions where
  strip : Bool := false
deriving DecidableEq, Repr

namespace ScanOptions

/-- Both option values together. -/
def combine (a b : ScanOptions) : ScanOptions := ⟨a.strip || b.strip⟩

/-- Reads options between commas; blanks around an option do not count. -/
def parse (value : String) : ScanOptions :=
  ⟨(fieldsOf ',' value.toList).any (trim isBlank · == "stripsymbolchars".toList)⟩

/-- The environment variables that hold options. -/
def variableNames : List String := ["GTAGSPYGMENTSOPTS", "TAGBRIDGE_OPTS"]

/-- The options of one variable. A value that is no text counts as none. -/
def ofVariable (value : Option (List UInt8)) : ScanOptions :=
  match value.bind Utf8.decode? with
  | some cs => parse (String.ofList cs)
  | none => {}

/-- The options of the environment. -/
def ofEnvironment (env : String → Option (List UInt8)) : ScanOptions :=
  variableNames.foldl (fun o name => o.combine (ofVariable (env name))) {}

end ScanOptions

end CodeTags
