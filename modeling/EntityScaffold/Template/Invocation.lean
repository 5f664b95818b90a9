import EntityScaffold.Template.Scope
import EntityScaffold.Helper.Basic
import EntityScaffold.Helper.Comparison

/-! # Calling helpers

Rendering makes a text or fails, and changes the scope either way. A tag calls the helper of its name:
one that templates know, or one from the tables of inline and block helpers. Which table is asked
depends on the tag alone. A block that templates know stays on the stack when its section fails; a block
that a block helper enters is left in any case.
-/

namespace EntityScaffold.Template

/-- Makes a value or fails, and changes the scope either way. -/
abbrev Render := ExceptT Failure (StateM Scope)

namespace Render

/-- Fail for a cause. -/
def failWith {α : Type} (cause : Cause) : Render α := throw (.of cause)

/-- The result of a computation that does not depend on the scope. -/
def ofExcept {α : Type} : Except Cause α → Render α
  | .ok a => return a
  | .error cause => failWith cause

/-- The outcome of a computation, failed or not, as a value. -/
def attempt {α : Type} (render : Render α) : Render (Except Failure α) :=
  fun scope => let (result, scope) := render.run scope; (.ok result, scope)

/-- Render with a copy of the scope that is dropped afterwards. -/
def isolated {α : Type} (change : Scope → Scope) (render : Render α) : Render α :=
  fun scope => ((render.run (change scope)).1, scope)

/-- Render several times and join the texts. -/
def concat {α : Type} (render : α → Render String) : List α → Render String
  | [] => return ""
  | a :: rest => do
    let text ← render a
    return text ++ (← concat render rest)

end Render

/-! ## Environments -/

/-- What stays the same while a template is rendered. -/
structure Environment where
  /-- The whole data. -/
  data : Json
  inline : List (String × InlineHelper)
  block : List (String × BlockHelper)
  /-- The named templates. -/
  templates : List (String × Body)

namespace Environment

/-- The blocks and calls that templates know and that no helper replaces. -/
def ownNames : List String := ["if", "unless", "each", "with", "lookup", "raw", "log"]

/-- Whether helpers of either kind are registered under a name. -/
def isRegistered (env : Environment) (name : String) : Bool :=
  (env.inline.lookup name).isSome || (env.block.lookup name).isSome

/-- Whether a tag of this name is a call, even without arguments. -/
def knows (env : Environment) (name : String) : Bool :=
  ownNames.contains name || name == "helperMissing" || env.isRegistered name ||
    (Operator.named? name).isSome

end Environment

/-! ## Invocations -/

/-- A call with the values of its arguments. A call that is no block has neither section. -/
structure Invocation where
  name : String
  arguments : List Found
  named : List (String × Found)
  binders : Binders
  isBlock : Bool
  body : Option (Render String)
  inverse : Option (Render String)

namespace Invocation

/-- The argument at a place, which the helper `name` needs. -/
def argument (call : Invocation) (name : String) (index : Nat) : Render Found :=
  match call.arguments[index]? with
  | some found => return found
  | none => .failWith (.argumentMissing name index)

/-- The text of a section, empty if it is missing. -/
def textOf : Option (Render String) → Render String
  | some render => render
  | none => return ""

/-! ### Conditions -/

/-- The section if the first argument is true, or false for `unless`; else the alternative. -/
def ifElse (call : Invocation) (wanted : Bool) : Render String := do
  let found ← call.argument "if" 0
  let zero := ((call.named.lookup "includeZero").bind (·.value.bool?)).getD false
  textOf (if found.value.isTrue zero == wanted then call.body else call.inverse)

/-! ### Repetition -/

/-- The block of a value: its place in the data, or the value. -/
def blockOf (found : Found) : Block :=
  match found.path? with
  | some path => .ofPath path
  | none => .ofValue found.value

/-- What the first bound name of a block stands for. -/
def boundValue (path : Option (List String)) (value : Json) : Bound :=
  if path.isSome then .place else .value value

/-- The names bound in one turn. -/
def boundNames (binders : Binders) (path : Option (List String)) (place value : Json) :
    List (String × Bound) :=
  match binders with
  | .none => []
  | .one name => [(name, boundValue path value)]
  | .two name placeName =>
    insertEntry placeName (.value place) [(name, boundValue path value)]

/-- Move a block on to an item: the first item extends the place, later ones replace its last step. -/
def moveTo (base : Option (List String)) (isFirst : Bool) (step : String) (value : Json)
    (block : Block) : Block :=
  match base with
  | some path =>
    if isFirst then { block with path := path ++ [step] }
    else if block.path.isEmpty then block
    else { block with path := block.path.dropLast ++ [step] }
  | none => { block with value := some value }

/-- One turn of a repetition. -/
structure Turn where
  /-- The variable that holds the place of the item. -/
  counter : String
  /-- The place of the item. -/
  place : Json
  step : String
  value : Json

/-- The turns for the items of an array. -/
def arrayTurns (items : List Json) : List Turn :=
  items.zipIdx.map fun (value, i) => ⟨"index", .integer i, toString i, value⟩

/-- The turns for the fields of an object. -/
def objectTurns (fields : List (String × Json)) : List Turn :=
  fields.map fun (key, value) => ⟨"key", .string key, key, value⟩

/-- Prepare the innermost block for a turn. -/
def Turn.enter (turn : Turn) (binders : Binders) (base : Option (List String)) (isFirst isLast : Bool)
    (block : Block) : Block :=
  let block := block.setLocal "first" (.bool isFirst)
  let block := block.setLocal "last" (.bool isLast)
  let block := block.setLocal turn.counter turn.place
  let block := moveTo base isFirst turn.step turn.value block
  match binders with
  | .none => block
  | binders => { block with bound := boundNames binders base turn.place turn.value }

/-- Render the section for each turn. -/
def turns (binders : Binders) (base : Option (List String)) (body : Render String) (isFirst : Bool) :
    List Turn → Render String
  | [] => return ""
  | turn :: rest => do
    modify (Scope.updateBlock (turn.enter binders base isFirst rest.isEmpty))
    let text ← body
    return text ++ (← turns binders base body false rest)

/-- The section for each item of an array or field of an object. The alternative stands for empty
values and for values without items. -/
def each (call : Invocation) : Render String := do
  let found ← call.argument "each" 0
  match call.body with
  | none => return ""
  | some body =>
    let all? := match found.value with
      | .array items => some (arrayTurns items)
      | .object fields => some (objectTurns fields)
      | _ => none
    match all?, call.inverse with
    | some [], some inverse | none, some inverse => inverse
    | none, none => return ""
    | some all, _ =>
      modify (·.push (blockOf found))
      let text ← turns call.binders found.path? body true all
      modify Scope.pop
      return text

/-- The section with the first argument as the current value if it is true; else the alternative. -/
def withValue (call : Invocation) : Render String := do
  let found ← call.argument "with" 0
  if found.value.isTrue false then
    let block := blockOf found
    let block := match call.binders with
      | .one name => { block with bound := [(name, boundValue found.path? found.value)] }
      | _ => block
    modify (·.push block)
    let text ← textOf call.body
    modify Scope.pop
    return text
  else textOf call.inverse

/-! ### Other calls -/

/-- The item or field of the first argument that the second names, or null. -/
def lookupValue (call : Invocation) : Render Json := do
  let collection ← call.argument "lookup" 0
  let key ← call.argument "lookup" 1
  return match collection.value with
    | .array items => (key.value.natural?.bind (items[·]?)).getD .null
    | .object fields => (key.value.string?.bind (fields.lookup ·)).getD .null
    | _ => .null

/-- The levels that a template can log at. -/
def logLevels : List String := ["error", "warn", "info", "debug", "trace"]

/-- Logging leaves no text, but the level must exist. -/
def logged (call : Invocation) : Render String :=
  let level := ((call.named.lookup "level").bind (·.value.string?)).getD "info"
  if logLevels.contains (Text.asciiLower level) then return ""
  else .failWith (.logLevel level)

/-! ### Registered helpers -/

/-- Render a section as a block helper asks for it: with data in a block of its own, which is left
afterwards in any case. -/
def renderSection (section? : Option (Render String)) (data : Option Json) :
    Render (Except Failure String) :=
  match section?, data with
  | none, _ => return .ok ""
  | some render, none => render.attempt
  | some render, some data => do
    modify (·.push (.ofValue data))
    let result ← render.attempt
    modify Scope.pop
    return result

/-- Carry out the plan of a block helper. -/
def carryOut (call : Invocation) : BlockPlan → Render String
  | .write text => return text
  | .fail (.message text) => .failWith (.helper call.name text)
  | .fail (.failure failure) => throw failure
  | .render inverse data next => do
    let result ← renderSection (if inverse then call.inverse else call.body) data
    carryOut call (next result)

/-- Call a registered helper of the kind that the tag asks for. -/
def registered (call : Invocation) (env : Environment) : Render String :=
  let arguments := call.arguments.map Found.value
  if call.isBlock then
    match env.block.lookup call.name with
    | some helper =>
      carryOut call (helper
        ⟨call.name, call.named.map fun (name, found) => (name, found.value),
          call.inverse.isSome, env.data, arguments⟩)
    | none => .failWith (.unresolved call.name)
  else
    match env.inline.lookup call.name with
    | some helper => match helper env.data arguments with
      | .ok text => return text
      | .error text => .failWith (.helper call.name text)
    | none => .failWith (.unresolved call.name)

/-- The outcome of a call: a value, or a text. -/
inductive Outcome where
  | value (value : Json)
  | text (text : String)

/-- The printed text of an outcome. -/
def Outcome.printed : Outcome → String
  | .value v => v.printed
  | .text s => s

/-- The value of an outcome. -/
def Outcome.toJson : Outcome → Json
  | .value v => v
  | .text s => .string s

/-- Call the helper of a name. -/
def run (call : Invocation) (env : Environment) : Render Outcome :=
  match call.name with
  | "if" => return .text (← call.ifElse true)
  | "unless" => return .text (← call.ifElse false)
  | "each" => return .text (← call.each)
  | "with" => return .text (← call.withValue)
  | "lookup" => return .value (← call.lookupValue)
  | "raw" => return .text (← textOf call.body)
  | "log" => return .text (← call.logged)
  | name =>
    if env.isRegistered name then return .text (← call.registered env)
    else match Operator.named? name with
      | some op => return .value (← .ofExcept (op.apply name (call.arguments.map Found.value)))
      | none => .failWith (.unresolved name)

end Invocation

end EntityScaffold.Template
