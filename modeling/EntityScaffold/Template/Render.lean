import EntityScaffold.Template.Invocation

/-! # Rendering

The evaluator follows the structure of a template. Templates found by name while rendering are rendered
through `expand`, which counts how deep inclusions are nested.
-/

namespace EntityScaffold.Template

/-! ## Text -/

/-- Put the indent after every line break but one at the very end. -/
def indentLines (indent : List Char) : List Char → List Char
  | [] => []
  | [c] => [c]
  | c :: rest => if c = '\n' then c :: indent ++ indentLines indent rest else c :: indentLines indent rest

/-- A text or printed value with the indent of the template around it. -/
def indented (text : String) : Render String := do
  match (← get).indent with
  | some indent => return String.ofList (indentLines indent.toList text.toList)
  | none => return text

/-! ## Operands -/

/-- The value that a path denotes. -/
def Path.eval (env : Environment) (path : Path) : Render Found := do
  .ofExcept ((← get).lookup env.data path)

mutual

/-- The value of an operand. -/
def Operand.eval (env : Environment) : Operand → Render Found
  | .literal value => return .derived value
  | .path p => p.eval env
  | .call c => return .derived (← c.eval env)

/-- The value of a call: what the helper computes, or the text that it writes. -/
def Call.eval (env : Environment) : Call → Render Json
  | .mk callee arguments named => do
    let name ← callee.name env
    let arguments ← evalArguments env arguments
    let named ← evalNamed env named
    return (← Invocation.run ⟨name, arguments, named, .none, false, none, none⟩ env).toJson

/-- The name that is called. -/
def Callee.name (env : Environment) : Callee → Render String
  | .word name => return name
  | .path p => return p.written
  | .computed c => return (← c.eval env).printed

/-- The values of the positional arguments, from left to right. -/
def evalArguments (env : Environment) : List Operand → Render (List Found)
  | [] => return []
  | operand :: rest => do
    let found ← operand.eval env
    return found :: (← evalArguments env rest)

/-- The values of the named arguments. -/
def evalNamed (env : Environment) : List (String × Operand) → Render (List (String × Found))
  | [] => return []
  | (name, operand) :: rest => do
    let found ← operand.eval env
    return (name, found) :: (← evalNamed env rest)

end

/-- The value of what a tag names. -/
def Callee.eval (env : Environment) : Callee → Render Found
  | .word _ => return .missing
  | .path p => p.eval env
  | .computed c => return .derived (← c.eval env)

/-- Call the helper that a tag names, with the sections of the tag. -/
def Call.invoke (env : Environment) (call : Call) (binders : Binders) (isBlock : Bool)
    (body inverse : Option (Render String)) : Render String := do
  let name ← call.callee.name env
  let arguments ← evalArguments env call.arguments
  let named ← evalNamed env call.named
  return (← Invocation.run ⟨name, arguments, named, binders, isBlock, body, inverse⟩ env).printed

/-- The text of a tag that prints. A name alone is a call if a helper has that name, and else a value;
it must be one of them. -/
def Call.print (env : Environment) (call : Call) : Render String := do
  if call.isBare then
    let name ← call.callee.name env
    if env.knows name then call.invoke env .none false none none
    else match ← call.callee.eval env with
      | .missing => .failWith (.unresolved name)
      | found => indented found.value.printed
  else call.invoke env .none false none none

/-! ## Decorators -/

/-- Act on the scope: `inline` gives its section a name. -/
def Call.decorate (env : Environment) (call : Call) (body : Branch) : Render Unit := do
  let name ← call.callee.name env
  let arguments ← evalArguments env call.arguments
  let _ ← evalNamed env call.named
  if name = "inline" then
    match arguments with
    | [] => .failWith (.argumentMissing "inline" 0)
    | found :: _ => match found.value.string?, body with
      | none, _ => .failWith .nameExpected
      | some _, .absent => .failWith .sectionRequired
      | some title, .present body =>
        modify fun scope => { scope with inlined := insertEntry title body scope.inlined }
  else .failWith (.decoratorMissing name)

/-- Carry out only the decorators among the elements of a section. -/
def Body.declare (env : Environment) : Body → Render Unit
  | .nil => return ()
  | .cons position element rest => do
    match element with
    | .decorator call body =>
      tryCatch (call.decorate env body) fun failure => throw (failure.within position none)
    | _ => pure ()
    declare env rest

/-! ## Inclusions -/

/-- The section that was handed to the template around. -/
def sectionName : String := "@partial-block"

/-- The template that an inclusion names: the section handed on, a section with a name, a registered
template, or the section of the inclusion itself. -/
def findIncluded (env : Environment) (scope : Scope) (name : String) (own : Branch) :
    Option (Option String × Body) :=
  let inScope := if name = sectionName then scope.sections[scope.depth]?
    else scope.inlined.lookup name
  match inScope, env.templates.lookup name, own with
  | some body, _, _ => some (none, body)
  | none, some body, _ => some (some name, body)
  | none, none, .present body => some (none, body)
  | none, none, .absent => none

/-- The block of an included template: the place of its first argument if that has one, and the named
arguments on top of the fields of the current value. -/
def enterIncluded (data : Json) (arguments : List Found) (named : List (String × Found))
    (scope : Scope) : Except Cause Scope :=
  let scope := match arguments.head?.bind Found.path? with
    | some path => { scope with blocks := [.ofPath path] }
    | none => scope
  if named.isEmpty then .ok scope
  else do
    let block := scope.blocks.head?.getD (.ofPath [])
    let current ← Scope.fromBlock data (some block) []
    let fields := match current.value with
      | .object fields => fields
      | _ => []
    let merged := named.foldl (fun fields (name, found) => insertEntry name found.value fields) fields
    return { scope with blocks := [{ block with value := some (.object merged) }] }

/-- Hand the section of an inclusion on to the included template. -/
def handSection (own : Branch) (scope : Scope) : Scope :=
  match own with
  | .present body => { scope with sections := body :: scope.sections }
  | .absent => scope

/-- The scope for an included template, or why there is none. -/
def includedScope (env : Environment) (name : String) (arguments : List Found)
    (named : List (String × Found)) (indent : Option String) (own : Branch) (scope : Scope) :
    Except Cause Scope := do
  let depth := if name = sectionName then scope.depth + 1 else scope.depth - 1
  let scope ← enterIncluded env.data arguments named { scope with depth := depth }
  return { handSection own scope with indent := indent }

/-- Include the template of a name. Everything but the decorators of the own section happens in a copy
of the scope. -/
def Call.expandInclusion (env : Environment) (expand : Option String → Body → Render String)
    (call : Call) (indent : Option String) (own : Branch) : Render String := do
  let name ← call.callee.name env
  let arguments ← evalArguments env call.arguments
  let named ← evalNamed env call.named
  match own with
  | .present body => body.declare env
  | .absent => pure ()
  let scope ← get
  if scope.current = some name then .failWith .selfInclusion
  else match findIncluded env scope name own with
    | none => .failWith (.inclusionMissing name)
    | some (title, body) =>
      let inner ← .ofExcept (includedScope env name arguments named indent own scope)
      Render.isolated (fun _ => inner) (expand title body)

/-! ## Elements -/

/-- Render the elements of a section, which is no template of a name. -/
def anonymous (elements : Render String) : Render String := do
  modify fun scope => { scope with current := none }
  elements

mutual

/-- The text of an element. -/
def Element.render (env : Environment) (expand : Option String → Body → Render String) :
    Element → Render String
  | .text content => indented content
  | .expression call => call.print env
  | .block call binders body inverse =>
    call.invoke env binders true (some (anonymous (body.render env expand none)))
      (inverse.render env expand)
  | .decorator call body => do
    call.decorate env body
    return ""
  | .inclusion call indent body => call.expandInclusion env expand indent body

/-- The text of a sequence of elements; `name` is the name of the template that they are. -/
def Body.render (env : Environment) (expand : Option String → Body → Render String)
    (name : Option String) : Body → Render String
  | .nil => return ""
  | .cons position element rest => do
    let text ← tryCatch (element.render env expand) fun failure =>
      throw (failure.within position name)
    return text ++ (← rest.render env expand name)

/-- How a section is rendered, if there is one. -/
def Branch.render (env : Environment) (expand : Option String → Body → Render String) :
    Branch → Option (Render String)
  | .absent => none
  | .present body => some (anonymous (body.render env expand none))

end

/-- Render a template that is included at some depth. Where the depth is used up the evaluation is cut off. -/
def expand (env : Environment) : Nat → Option String → Body → Render String
  | 0, _, _ => .failWith .cutOff
  | fuel + 1, name, body => do
    modify fun scope => { scope with current := name }
    body.render env (expand env fuel) name

/-- How deep inclusions may be nested. Each of them takes some of the stack, of which there is no more than there
are addresses. So templates that include each other without end use up the stack first: the process is aborted, and
nothing is made of what the evaluator gives for them. -/
def inclusionLimit : Nat := UInt64.size

/-- The text of a template for the data of an environment. -/
def Body.renderAlone (env : Environment) (name : Option String) (body : Body) :
    Except Failure String :=
  ((expand env inclusionLimit name body).run .start).1

end EntityScaffold.Template
