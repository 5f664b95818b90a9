import EntityScaffold.Command.FieldPattern
import EntityScaffold.Decimal.Natural

/-! # Log filters

A log filter is a list of directives between commas. A directive is a level, or it names a target, a
span between brackets with a field between braces, or both, and may end with `=` and a level. A field
can have a value after `=`. Only whether a text is a filter matters here, and if not, why.
-/

namespace EntityScaffold.Command.LogFilter

/-- A level by its name in any letter case, or by its number. -/
def isLevel (cs : List Char) : Bool :=
  match Decimal.natural64? cs with
  | some n => n ≤ 5
  | none =>
    ["error", "warn", "info", "debug", "trace", "off"].contains (Text.asciiLower (String.ofList cs))

/-- Why a text is no log filter. -/
inductive Fault where
  /-- A directive does not have the form of one. -/
  | directive
  /-- What stands after `=` is no level. -/
  | level
  /-- The value of a field cannot be used. -/
  | field (fault : FieldPattern.Fault)
deriving DecidableEq, Repr

/-- What is told about a fault. -/
def Fault.message : Fault → String
  | .directive => "invalid filter directive"
  | .level =>
    "error parsing level filter: expected one of \"off\", \"error\", \"warn\", \"info\", \"debug\", " ++
      "\"trace\", or a number 0-5"
  | .field fault => "invalid field filter: " ++ fault.message

/-- The fault of a field: a name and perhaps a value, which goes as far as another `=`. -/
def fieldFault? (cs : List Char) : Option FieldPattern.Fault :=
  match cs.dropWhile (· != '=') with
  | _ :: value => FieldPattern.fault? (value.takeWhile (· != '='))
  | [] => none

/-- What follows a span whose bracket is open. There is a field if there are braces. -/
def afterSpan (cs : List Char) : Except Fault (List Char) :=
  match cs.dropWhile fun c => c != ']' && c != '\x7b' with
  | ']' :: rest => .ok rest
  | '\x7b' :: rest =>
    let field := rest.takeWhile (· != '\x7d')
    match rest.dropWhile (· != '\x7d'), field.isEmpty, fieldFault? field with
    | '\x7d' :: _, false, some fault => .error (.field fault)
    | '\x7d' :: ']' :: rest, false, none => .ok rest
    | _, _, _ => .error .directive
  | _ => .error .directive

/-- The first character of a level or a target. -/
def startsTarget (c : Char) : Bool := c == '-' || c == ':' || c == '_' || Text.isAlphanumeric c

/-- What follows the target and the span of a directive. A level that stands alone reads as a target. -/
def afterSubject : List Char → Except Fault (List Char)
  | [] => .error .directive
  | '[' :: rest => afterSpan rest
  | c :: rest =>
    if startsTarget c then
      match rest.dropWhile fun c => c != '=' && c != '[' with
      | '[' :: rest => afterSpan rest
      | rest => .ok rest
    else .error .directive

/-- The fault of a directive. Blanks around it do not matter unless it ends with `=`; then they count as
part of the level. -/
def directiveFault? (cs : List Char) : Option Fault :=
  match afterSubject (Text.trim cs) with
  | .error fault => some fault
  | .ok [] => none
  | .ok ('=' :: level) =>
    if (level.isEmpty || isLevel level) && Text.trim cs == cs then none else some .level
  | .ok _ => some .directive

/-- The fault of a text, unless it is a log filter: that of its first directive with one. -/
def fault? (text : String) : Option Fault :=
  (Text.splitAt ',' text.toList).findSome? fun directive =>
    if directive.isEmpty then none else directiveFault? directive

end EntityScaffold.Command.LogFilter
