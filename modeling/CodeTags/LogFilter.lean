import CodeTags.Text.DecimalDigit
import CodeTags.Text.Numeric
import CodeTags.Text.Slice
import CodeTags.Text.Split
import CodeTags.Text.Trim
import CodeTags.Text.Utf8

/-!
# The log filter

A filter says which messages get into the log. It is a text of directives between commas, each of
the form `target[span{field=value}]=level`, in which everything but one part can be left out.

* `LogLevel.ofText?`: the levels by number or name.
* `LogDirective.parse?`: reads a directive.
* `mostSpecific?`: the directive that decides among those that concern a message.
* `logsErrors`: whether a filter lets the errors of the program through.
-/

namespace CodeTags

/-- How much is logged; each level brings more than the one before. -/
inductive LogLevel where
  | off
  | error
  | warn
  | info
  | debug
  | trace
deriving DecidableEq, Repr

namespace LogLevel

/-- All levels, in the order of their numbers. -/
def all : List LogLevel := [off, error, warn, info, debug, trace]

/-- The name of the level. -/
def name : LogLevel → String
  | off => "off"
  | error => "error"
  | warn => "warn"
  | info => "info"
  | debug => "debug"
  | trace => "trace"

/-- The level with a number. One plus sign can stand before it. -/
def ofNumber? (cs : List Char) : Option LogLevel :=
  (decimalValue? ((dropExact? ['+'] cs).getD cs)).bind (all[·]?)

/-- The level with a name in small or capital letters. -/
def ofName? (cs : List Char) : Option LogLevel :=
  all.find? fun level => level.name.toList == cs.map Char.toLower

/-- The level that a text stands for. -/
def ofText? (cs : List Char) : Option LogLevel := (ofNumber? cs).or (ofName? cs)

end LogLevel

/-- A field that a message must have, and whether a value is asked for. -/
structure FieldCondition where
  name : List Char
  hasValue : Bool
deriving DecidableEq, Repr

/-- Reads a field: its name, and maybe a value behind an equals sign. -/
def FieldCondition.ofText (cs : List Char) : FieldCondition :=
  ⟨cs.takeWhile (· != '='), '=' ∈ cs⟩

/-- The messages that a directive is about, and the level that it sets for them. -/
structure LogDirective where
  target : Option (List Char)
  span : Option (List Char)
  fields : List FieldCondition
  level : LogLevel
deriving DecidableEq, Repr

namespace LogDirective

/-! ## Reading -/

/-- How far a directive has been read; with the place in bytes where a part begins. -/
inductive Stage where
  | start
  | levelOrTarget (first : Nat)
  | span (first : Nat)
  | field (first : Nat)
  | afterFields
  | afterSpan
  | level (first : Nat)
deriving DecidableEq, Repr

/-- Everything about any message is logged, as long as nothing else is said. -/
def initial : LogDirective := ⟨none, none, [], .trace⟩

/-- Reads the character at `place`; the parts are cut out of `text`. -/
def step (text : List Char) (place : Nat) (d : LogDirective) :
    Stage → Char → Option (Stage × LogDirective)
  | .start, c =>
    if c = '[' then some (.span (place + 1), d)
    else if c ∈ ['-', ':', '_'] ∨ isAlphanumeric c then some (.levelOrTarget place, d)
    else none
  | .levelOrTarget first, '=' =>
    (slice? text first place).map fun t => (.level (place + 1), { d with target := some t })
  | .levelOrTarget first, '[' =>
    (slice? text first place).map fun t => (.span (place + 1), { d with target := some t })
  | .span first, ']' =>
    (slice? text first place).map fun s => (.afterSpan, { d with span := some s })
  | .span first, '\x7b' =>
    (slice? text first place).map fun s =>
      (.field (place + 1), { d with span := if s = [] then none else some s })
  | .field first, '\x7d' =>
    (slice? text first place).bind fun f =>
      if f = [] then none
      else some (.afterFields, { d with fields := d.fields ++ [.ofText f] })
  | .afterFields, ']' => some (.afterSpan, d)
  | .afterSpan, '=' => some (.level (place + 1), d)
  | .afterFields, _ | .afterSpan, _ => none
  | stage, _ => some (stage, d)

/-- What the end of the text makes of a directive. A text that is no level is a target. -/
def finish (text : List Char) (d : LogDirective) : Stage → Option LogDirective
  | .levelOrTarget first =>
    (dropBytes? first text).map fun t =>
      match LogLevel.ofText? t with
      | some level => { d with target := none, level := level }
      | none => { d with target := some t, level := .trace }
  | .level first =>
    (dropBytes? first text).bind fun t =>
      if t = [] then some { d with level := .trace }
      else (LogLevel.ofText? t).map fun level => { d with level := level }
  | .afterSpan => some d
  | _ => none

/-- Reads the rest of a directive from `place` on. -/
def parseFrom (text : List Char) (place : Nat) (d : LogDirective) (stage : Stage) :
    List Char → Option LogDirective
  | [] => d.finish text stage
  | c :: cs =>
    (d.step text place stage c).bind fun r => parseFrom text (place + c.utf8Size) r.2 r.1 cs

/-- Reads a directive. Blanks around it are passed over, but the places of its parts are counted
without those in front and looked up in the text with them. -/
def parse? (text : List Char) : Option LogDirective :=
  parseFrom text 0 initial .start (trim isBlank text)

/-! ## Choosing -/

/-- The directive is about a message with this target and these fields, whatever span it is in. -/
def concerns (d : LogDirective) (target : List Char) (fields : List (List Char)) : Bool :=
  d.span.isNone && d.target.all (·.isPrefixOf target)
    && d.fields.all fun f => !f.hasValue && fields.contains f.name

/-- How specific a directive is: a longer target counts first, then more fields. -/
def weight (d : LogDirective) : Nat × Nat :=
  ((d.target.map (byteLength · + 1)).getD 0, d.fields.length)

/-- The directive is as specific as the other or more. -/
def outweighs (d e : LogDirective) : Bool :=
  e.weight.1 < d.weight.1 || (e.weight.1 == d.weight.1 && e.weight.2 ≤ d.weight.2)

end LogDirective

/-- The most specific directive, and the last of those that are equally so. -/
def mostSpecific? (ds : List LogDirective) : Option LogDirective :=
  ds.foldl (fun best d => if best.all d.outweighs then some d else best) none

/-- Reads the directives of a filter. Nothing between two commas is passed over. -/
def readFilter? (text : List Char) : Option (List LogDirective) :=
  ((fieldsOf ',' text).filter (· ≠ [])).mapM LogDirective.parse?

/-! ## The errors of the program -/

/-- The environment variable that holds the filter. -/
def logVariable : String := "TAGBRIDGE_LOG"

/-- Directives let an error of the program through. Without directives all errors get through, and
with some, those that none of them is about do not. -/
def admitErrors (ds : List LogDirective) : Bool :=
  ds.isEmpty ||
    (mostSpecific? (ds.filter (·.concerns "tagbridge".toList ["message".toList]))).any
      (·.level ≠ .off)

/-- The environment lets errors into the log. A filter that is not set or cannot be read holds back
no errors. -/
def logsErrors (environment : String → Option (List UInt8)) : Bool :=
  match ((environment logVariable).bind Utf8.decode?).bind readFilter? with
  | some ds => admitErrors ds
  | none => true

end CodeTags
