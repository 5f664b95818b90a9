import EntityScaffold.Template.Failure
import EntityScaffold.Decimal.Natural

/-! # Scopes

While a template is rendered, a stack of blocks says what paths mean: a block stands for a place in the
data or for a value of its own, and carries variables and bound names. The scope also holds the
sections that were given names, the sections handed to included templates, and the indent of the
included lines.
-/

namespace EntityScaffold.Template

/-! ## Blocks -/

/-- What a block binds to a name. -/
inductive Bound where
  | value (value : Json)
  /-- The place that the block stands for. -/
  | place
deriving Repr

/-- A block on the stack. -/
structure Block where
  /-- The place in the data that the block stands for, unless it has a value. -/
  path : List String
  value : Option Json
  locals : List (String × Json)
  bound : List (String × Bound)

namespace Block

/-- A block that stands for a place. -/
def ofPath (path : List String) : Block := ⟨path, none, [], []⟩

/-- A block that stands for a value. -/
def ofValue (value : Json) : Block := ⟨[], some value, [], []⟩

/-- Set a variable. -/
def setLocal (block : Block) (name : String) (value : Json) : Block :=
  { block with locals := insertEntry name value block.locals }

end Block

/-- What is known while a template is rendered. -/
structure Scope where
  /-- The innermost block first. -/
  blocks : List Block
  /-- Sections that were given names. -/
  inlined : List (String × Body)
  /-- Sections handed to included templates, the innermost first. -/
  sections : List Body
  /-- Which of these sections is meant now. -/
  depth : Nat
  /-- The name of the template whose elements are rendered, if it has one. -/
  current : Option String
  /-- What is put in front of the lines of an included template. -/
  indent : Option String

namespace Scope

/-- The scope of a template that is rendered on its own. -/
def start : Scope := ⟨[.ofPath []], [], [], 0, none, none⟩

/-- Enter a block. -/
def push (scope : Scope) (block : Block) : Scope := { scope with blocks := block :: scope.blocks }

/-- Leave the innermost block. -/
def pop (scope : Scope) : Scope := { scope with blocks := scope.blocks.tail }

/-- Change the innermost block. -/
def updateBlock (f : Block → Block) (scope : Scope) : Scope :=
  match scope.blocks with
  | [] => scope
  | block :: rest => { scope with blocks := f block :: rest }

end Scope

/-! ## Values -/

/-- What a path or another operand denotes. -/
inductive Found where
  | missing
  | derived (value : Json)
  /-- A value at a place in the data. -/
  | located (value : Json) (path : List String)

namespace Found

/-- The value; what is missing is null. -/
def value : Found → Json
  | .missing => .null
  | .derived value => value
  | .located value _ => value

/-- The place in the data. -/
def path? : Found → Option (List String)
  | .located _ path => some path
  | _ => none

end Found

/-- Follow keys into a value. -/
def follow : Option Json → List String → Except Cause (Option Json)
  | value, [] => .ok value
  | value, key :: keys =>
    match value with
    | some (.array items) => match Decimal.natural64? key.toList with
      | some i => follow items[i]? keys
      | none => .error (.arrayKey key)
    | some (.object fields) => follow (fields.lookup key) keys
    | _ => follow none keys

/-- The value at a place in the data. -/
def locate (data : Json) (path : List String) : Except Cause Found :=
  (follow (some data) path).map fun
    | some value => .located value path
    | none => .missing

/-- The value that keys lead to from a value without a place. -/
def derive (value : Json) (keys : List String) : Except Cause Found :=
  (follow (some value) keys).map fun
    | some value => .derived value
    | none => .missing

/-- The keys to follow from the value of the bound name that a path starts with. A path that first goes
outwards has the name itself among them. -/
def Path.keysBeyondName (path : Path) : List String :=
  if path.ups = 0 then path.keys.tail else path.keys

namespace Scope

/-- What a name is bound to, and the place of the block that binds it. The innermost block wins. -/
def bound? (name : String) : List Block → Option (Bound × List String)
  | [] => none
  | block :: rest => match block.bound.lookup name with
    | some bound => some (bound, block.path)
    | none => bound? name rest

/-- What keys lead to from a block; without a block, from the whole data. -/
def fromBlock (data : Json) (block : Option Block) (keys : List String) : Except Cause Found :=
  match block with
  | some ⟨_, some value, _, _⟩ => derive value keys
  | some ⟨path, none, _, _⟩ => locate data (path ++ keys)
  | none => locate data keys

/-- What a path without variables denotes. Bound names come first, even after steps outwards; more
steps outwards than there are blocks lead to the innermost one. -/
def lookupData (scope : Scope) (data : Json) (path : Path) : Except Cause Found :=
  if path.fromRoot then locate data path.keys
  else
    match path.keys.head?.bind (bound? · scope.blocks) with
    | some (.value value, _) => derive value path.keysBeyondName
    | some (.place, base) => locate data (base ++ path.keysBeyondName)
    | none => fromBlock data (scope.blocks[path.ups]?.or scope.blocks.head?) path.keys

/-- What a path denotes. A variable belongs to the block that many steps outwards; a path that names
none denotes the current value. -/
def lookup (scope : Scope) (data : Json) (path : Path) : Except Cause Found :=
  match path.isLocal && !path.fromRoot, path.keys with
  | true, name :: _ =>
    match scope.blocks[path.ups]?.bind (·.locals.lookup name) with
    | some value => .ok (.derived value)
    | none => .ok .missing
  | true, [] => fromBlock data scope.blocks.head? []
  | false, _ => scope.lookupData data path

end Scope

end EntityScaffold.Template
