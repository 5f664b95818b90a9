import EntityScaffold.Json.Basic

/-! # Templates

A template is a sequence of elements: text that is copied, expressions that print a value or call a
helper, blocks that hand a section to a helper, decorators that act on the scope, and inclusions of
other templates. An element written as a tag knows where the tag stands.
-/

namespace EntityScaffold.Template

/-- A place in a source text, counted from one; columns are characters. -/
structure Position where
  line : Nat
  column : Nat
deriving DecidableEq, Repr

namespace Position

/-- The first character of a text. -/
def start : Position := ⟨1, 1⟩

/-- The place after one character. -/
def next (p : Position) (c : Char) : Position :=
  if c = '\n' then ⟨p.line + 1, 1⟩ else ⟨p.line, p.column + 1⟩

/-- The place after some characters. -/
def advance (p : Position) (cs : List Char) : Position := cs.foldl next p

end Position

/-! ## Operands -/

/-- A path to a value: `../a.b`, `@root/a`, `@index`. -/
structure Path where
  /-- The path as it is written. -/
  written : String
  /-- Starts at the whole data. -/
  fromRoot : Bool
  /-- Names a variable of a block instead of data. -/
  isLocal : Bool
  /-- How many blocks the path goes outwards first. -/
  ups : Nat
  /-- The names to follow; `this` is none. -/
  keys : List String
deriving DecidableEq, Repr

mutual

/-- Something that has a value. -/
inductive Operand where
  | literal (value : Json)
  | path (path : Path)
  | call (call : Call)

/-- A callee with positional and named arguments. -/
inductive Call where
  | mk (callee : Callee) (arguments : List Operand) (named : List (String × Operand))

/-- What is called: a helper by its name, a path that may name a helper or a value, or a name that a
call computes. -/
inductive Callee where
  | word (name : String)
  | path (path : Path)
  | computed (call : Call)

end

namespace Call

/-- What is called. -/
def callee : Call → Callee | .mk callee _ _ => callee

/-- The positional arguments. -/
def arguments : Call → List Operand | .mk _ arguments _ => arguments

/-- The named arguments, in ascending order of their names. -/
def named : Call → List (String × Operand) | .mk _ _ named => named

/-- A callee alone. -/
def isBare (call : Call) : Bool := call.arguments.isEmpty && call.named.isEmpty

end Call

/-- The name under which a callee is written, unless it is computed. -/
def Callee.writtenName? : Callee → Option String
  | .word name => some name
  | .path p => some p.written
  | .computed _ => none

/-- Names that a block gives to the value of its turn and to its place. -/
inductive Binders where
  | none
  | one (value : String)
  | two (value place : String)
deriving DecidableEq, Repr

/-! ## Elements -/

mutual

/-- One element of a template. -/
inductive Element where
  /-- Text that is copied. -/
  | text (content : String)
  /-- A tag that prints a value or what a helper writes. -/
  | expression (call : Call)
  /-- A call with a section and possibly an alternative section. -/
  | block (call : Call) (binders : Binders) (body : Body) (inverse : Branch)
  /-- A call that acts on the scope. -/
  | decorator (call : Call) (body : Branch)
  /-- Another template at this place, each of its lines indented. -/
  | inclusion (call : Call) (indent : Option String) (body : Branch)

/-- A sequence of elements, those of tags with their place. -/
inductive Body where
  | nil
  | cons (position : Option Position) (element : Element) (rest : Body)

/-- A section that may be missing. -/
inductive Branch where
  | absent
  | present (body : Body)

end

namespace Body

/-- The body of the elements in a list. -/
def ofList : List (Option Position × Element) → Body
  | [] => .nil
  | (position, element) :: rest => .cons position element (ofList rest)

end Body

/-- Whether there is a section. -/
def Branch.isPresent : Branch → Bool
  | .absent => false
  | .present _ => true

/-! ## Why a text is no template -/

/-- The tags that open something by a name and close it by the same name. -/
inductive BlockKind where
  | helper
  | decorator
deriving DecidableEq, Repr

/-- Why a text is no template. -/
inductive SourceError where
  /-- Tags are misspelled, or do not open and close in order. -/
  | malformed
  /-- A closing tag names another block than the one that is open. -/
  | mismatch (kind : BlockKind) (opened closed : String)
  /-- A literal is no JSON value. -/
  | invalidLiteral (written : String)
deriving DecidableEq, Repr

end EntityScaffold.Template
