import EntityScaffold.Template.Basic

/-! # Why rendering fails

A failure has a cause, the place of the innermost tag that failed, and the name of the innermost named
template around it.
-/

namespace EntityScaffold.Template

/-- Why a tag fails. -/
inductive Cause where
  /-- A name is neither a helper nor a value. -/
  | unresolved (name : String)
  /-- A helper reports an error of its own. -/
  | helper (name : String) (message : String)
  | argumentMissing (helper : String) (index : Nat)
  | namedArgumentMissing (helper argument : String)
  /-- An argument is no integer of 64 bits. -/
  | integerExpected (helper argument : String)
  /-- An item of an array is asked for by something that is no number. -/
  | arrayKey (key : String)
  | logLevel (level : String)
  /-- There is no template of that name to render. -/
  | templateMissing (name : String)
  /-- There is no template of that name to include. -/
  | inclusionMissing (name : String)
  | decoratorMissing (name : String)
  /-- A template includes itself. -/
  | selfInclusion
  /-- The name of a section is no string. -/
  | nameExpected
  /-- A decorator that names a section has none. -/
  | sectionRequired
  /-- The evaluation is cut off, since inclusions are nested deeper than the stack of any process is. No rendering
  that comes to an end meets this: a process that gets there has been aborted long before. -/
  | cutOff
deriving DecidableEq, Repr

/-- What is told about a cause. -/
def Cause.message : Cause → String
  | .unresolved name => "Helper not found " ++ name
  | .helper name message => "helper '" ++ name ++ "' failed: " ++ message
  | .argumentMissing name index =>
    "Helper/Decorator " ++ name ++ " param at index " ++ toString index ++
      " required but not found"
  | .namedArgumentMissing name argument =>
    "Helper/Decorator " ++ name ++ " param with name " ++ argument ++ " required but not found"
  | .integerExpected name argument =>
    "Helper/Decorator " ++ name ++ " param with name " ++ argument ++ " type mismatch for i64"
  | .arrayKey key => "Cannot access array/vector with string index, " ++ key
  | .logLevel level => "Invalid logging level: " ++ level
  | .templateMissing name => "Template not found " ++ name
  | .inclusionMissing name => "Partial not found " ++ name
  | .decoratorMissing name => "Decorator not found " ++ name
  | .selfInclusion => "Can not include current template in partial"
  | .nameExpected => "Invalid param type, String expected"
  | .sectionRequired => "Block content required"
  | .cutOff => "Evaluation cut off"

/-- A cause with the place where it arose. -/
structure Failure where
  cause : Cause
  position : Option Position
  template : Option String
deriving DecidableEq, Repr

namespace Failure

/-- A failure whose place is not known yet. -/
def of (cause : Cause) : Failure := ⟨cause, none, none⟩

/-- The failure seen from an element around it: a place or a name that is known already stays. -/
def within (failure : Failure) (position : Option Position) (template : Option String) : Failure :=
  { failure with
    position := failure.position.or position
    template := failure.template.or template }

/-- What is told about a failure. -/
def message (failure : Failure) : String :=
  match failure.position with
  | some p =>
    "Error rendering \"" ++ failure.template.getD "Unnamed template" ++ "\" line " ++
      toString p.line ++ ", col " ++ toString p.column ++ ": " ++ failure.cause.message
  | none => failure.cause.message

end Failure

end EntityScaffold.Template
