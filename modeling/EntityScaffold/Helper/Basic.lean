import EntityScaffold.Template.Failure
import EntityScaffold.Json.Printer

/-! # Helpers

An inline helper makes a text from the whole data and the positional arguments of a tag. A block helper
also decides how often the section of its tag, or the alternative section, is rendered and with which
value as the current one. What it does is a plan: a step of the plan renders a section once, and the
helper goes on with the text or the failure that came of it.
-/

namespace EntityScaffold

open Template (Failure)

/-- Makes a text from the whole data and the arguments, or reports an error. The error is a text only, told
as the failure of the helper: there is no section to render here, so no failure of one to pass on. A helper
that makes up an error of the template engine itself, which would then be passed on as it is, is left out. -/
abbrev InlineHelper := Json → List Json → Except String String

/-- Why a block helper fails. -/
inductive HelperError where
  /-- An error of its own. -/
  | message (text : String)
  /-- A failure of a section, passed on. -/
  | failure (failure : Failure)
deriving DecidableEq, Repr

/-- What a block helper does. -/
inductive BlockPlan where
  /-- Write a text. -/
  | write (text : String)
  | fail (error : HelperError)
  /-- Render the section, or the alternative one; `data` becomes the current value. -/
  | render (inverse : Bool) (data : Option Json) (next : Except Failure String → BlockPlan)

namespace BlockPlan

/-- Render a section and go on with its text; its failure is passed on. -/
def thenWith (inverse : Bool) (data : Option Json) (next : String → BlockPlan) : BlockPlan :=
  .render inverse data fun
    | .ok text => next text
    | .error failure => .fail (.failure failure)

/-- Render a section once for each value and go on with the joined texts. -/
def forEach (inverse : Bool) (values : List Json) (next : String → BlockPlan) : BlockPlan :=
  go values ""
where
  /-- The values left and the text so far. -/
  go : List Json → String → BlockPlan
    | [], text => next text
    | value :: rest, text => thenWith inverse (some value) fun more => go rest (text ++ more)

end BlockPlan

/-- The tag that a block helper is called by. -/
structure BlockCall where
  /-- The name that it is called under. -/
  name : String
  /-- The named arguments in ascending order of their names. -/
  named : List (String × Json)
  /-- There is an alternative section. -/
  hasInverse : Bool
  /-- The whole data. -/
  context : Json
  /-- The positional arguments. -/
  arguments : List Json

namespace BlockCall

/-- The text of diagnostics. -/
def inspect (call : BlockCall) : String :=
  Text.openRecordText "BlockOptions"
    [("name", Text.quoted call.name), ("hash", Text.dictionaryText (Json.inspectFields call.named))]

end BlockCall

/-- Plans what is done with the sections of a tag. -/
abbrev BlockHelper := BlockCall → BlockPlan

/-- Names that templates keep for themselves; no helper can take them. -/
def reservedNames : List String :=
  ["if", "unless", "each", "with", "lookup", "raw", "log", "helperMissing", "blockHelperMissing"]

/-- Whether templates keep a name for themselves. -/
def isReserved (name : String) : Bool := reservedNames.contains name

end EntityScaffold
