import EntityScaffold.Proofs.Template.Plans

/-! # Steps of an evaluation

Rendering a template evaluates its parts one after another, each in the scope that the parts before it
leave, until a part fails. `Starts` says which parts an evaluation comes to, `Performs` which steps it
takes itself: calls of helpers, names that must stand for a value, and sections that are given names.
Since parts are smaller, what holds of an evaluation if it holds of its parts holds of every evaluation.
-/

namespace EntityScaffold.Template

/-! ## Calls in two halves -/

/-- A call with the values of its arguments, without sections. -/
def Call.prepare (env : Environment) (call : Call) : Render Invocation := do
  let name ← call.callee.name env
  let arguments ← evalArguments env call.arguments
  let named ← evalNamed env call.named
  return ⟨name, arguments, named, .none, false, none, none⟩

/-- The sections of a tag for a call. -/
def Invocation.withSections (call : Invocation) (binders : Binders) (isBlock : Bool)
    (body inverse : Option (Render String)) : Invocation :=
  { call with binders := binders, isBlock := isBlock, body := body, inverse := inverse }

/-- Call the helper that a tag names, with the sections of the tag. -/
def Call.outcome (env : Environment) (call : Call) (binders : Binders) (isBlock : Bool)
    (body inverse : Option (Render String)) : Render Invocation.Outcome := do
  let prepared ← call.prepare env
  (prepared.withSections binders isBlock body inverse).run env

theorem Call.eval_eq (env : Environment) (call : Call) :
    call.eval env = (do return (← call.outcome env .none false none none).toJson) := by
  obtain ⟨callee, arguments, named⟩ := call
  simp only [Call.eval, Call.outcome, Call.prepare, Call.callee, Call.arguments, Call.named,
    Invocation.withSections, bind_assoc, pure_bind]

theorem Call.invoke_eq (env : Environment) (call : Call) (binders : Binders) (isBlock : Bool)
    (body inverse : Option (Render String)) :
    call.invoke env binders isBlock body inverse = (do
      return (← call.outcome env binders isBlock body inverse).printed) := by
  simp only [Call.invoke, Call.outcome, Call.prepare, Invocation.withSections, bind_assoc, pure_bind]

/-- Print a name alone that is a call, or the value that it stands for. -/
theorem Call.print_eq_of_bare (env : Environment) {call : Call} (hbare : call.isBare = true) :
    call.print env = (do
      let name ← call.callee.name env
      if env.knows name then call.invoke env .none false none none
      else match ← call.callee.eval env with
        | .missing => .failWith (.unresolved name)
        | found => indented found.value.printed) := if_pos hbare

theorem Call.print_eq_of_not_bare (env : Environment) {call : Call} (hbare : call.isBare = false) :
    call.print env = call.invoke env .none false none none :=
  if_neg (Bool.eq_false_iff.mp hbare)

theorem evalNamed_eq (env : Environment) (named : List (String × Operand)) :
    evalNamed env named = (do
      return (named.map Prod.fst).zip (← evalArguments env (named.map Prod.snd))) := by
  induction named with
  | nil => rfl
  | cons entry rest ih =>
    simp only [evalNamed, ih, List.map_cons, evalArguments, bind_assoc, pure_bind, List.zip_cons_cons]

/-- What a decorator does once its arguments have values. -/
def Invocation.decorate (prepared : Invocation) (body : Branch) : Render Unit :=
  if prepared.name = "inline" then
    match prepared.arguments with
    | [] => .failWith (.argumentMissing "inline" 0)
    | found :: _ => match found.value.string?, body with
      | none, _ => .failWith .nameExpected
      | some _, .absent => .failWith .sectionRequired
      | some title, .present body =>
        modify fun scope => { scope with inlined := insertEntry title body scope.inlined }
  else .failWith (.decoratorMissing prepared.name)

theorem Call.decorate_eq (env : Environment) (call : Call) (body : Branch) :
    call.decorate env body = (do (← call.prepare env).decorate body) := by
  simp only [Call.prepare, bind_assoc, pure_bind]
  rfl

/-- Carry out an element if it is a decorator. -/
def Element.declare (env : Environment) : Element → Render Unit
  | .decorator call body => call.decorate env body
  | _ => return ()

theorem Body.declare_cons (env : Environment) (position : Option Position) (element : Element)
    (rest : Body) : (Body.cons position element rest).declare env = (do
      tryCatch (element.declare env) fun failure => throw (failure.within position none)
      rest.declare env) := by
  cases element with
  | decorator call body => rfl
  | _ => rfl

/-- Carry out only the decorators of a section. -/
def Branch.declare (env : Environment) : Branch → Render Unit
  | .absent => return ()
  | .present body => body.declare env

/-- Include a template once the arguments have values and the own section is declared. -/
def Invocation.include (env : Environment) (expand : Option String → Body → Render String)
    (prepared : Invocation) (indent : Option String) (own : Branch) : Render String := do
  let scope ← get
  if scope.current = some prepared.name then .failWith .selfInclusion
  else match findIncluded env scope prepared.name own with
    | none => .failWith (.inclusionMissing prepared.name)
    | some (title, body) =>
      let inner ← .ofExcept
        (includedScope env prepared.name prepared.arguments prepared.named indent own scope)
      Render.isolated (fun _ => inner) (expand title body)

theorem Call.expandInclusion_eq (env : Environment) (expand : Option String → Body → Render String)
    (call : Call) (indent : Option String) (own : Branch) :
    call.expandInclusion env expand indent own = (do
      let prepared ← call.prepare env
      own.declare env
      prepared.include env expand indent own) := by
  simp only [Call.expandInclusion, Call.prepare, Invocation.include, bind_assoc, pure_bind]
  cases own with
  | absent => rfl
  | present body => rfl

/-! ## Parts -/

/-- A part of a template that is evaluated. -/
inductive Task where
  | callee (callee : Callee)
  | operands (operands : List Operand)
  /-- The callee and the arguments of a call. -/
  | parts (call : Call)
  | tag (call : Call) (binders : Binders) (isBlock : Bool) (body inverse : Branch)
  | section (branch : Branch)
  | element (element : Element)
  | body (name : Option String) (body : Body)
  /-- The decorators of a section alone. -/
  | declarations (body : Body)

namespace Task

/-- What an evaluation gives. -/
def Value : Task → Type
  | .callee _ => String
  | .operands _ => List Found
  | .parts _ => Invocation
  | .declarations _ => Unit
  | _ => String

/-- Evaluate a part where inclusions may be nested to some depth. -/
def run (env : Environment) (limit : Nat) : (task : Task) → Render task.Value
  | .callee c => c.name env
  | .operands os => evalArguments env os
  | .parts c => c.prepare env
  | .tag c binders isBlock b inverse =>
    c.invoke env binders isBlock (b.render env (expand env limit))
      (inverse.render env (expand env limit))
  | .section branch => Invocation.textOf (branch.render env (expand env limit))
  | .element e => e.render env (expand env limit)
  | .body name b => b.render env (expand env limit) name
  | .declarations b => b.declare env

variable {env : Environment} {limit : Nat} {call : Call} {own : Branch}

theorem run_expression : run env limit (.element (.expression call)) = call.print env := by
  rw [run, Element.render]

theorem run_decorator : run env limit (.element (.decorator call own)) = (do
    call.decorate env own
    return "") := by
  rw [run, Element.render]

theorem run_inclusion {indent : Option String} :
    run env limit (.element (.inclusion call indent own)) = (do
      let prepared ← call.prepare env
      own.declare env
      prepared.include env (expand env limit) indent own) := by
  rw [run, Element.render, Call.expandInclusion_eq]

theorem run_declarations {position : Option Position} {element : Element} {rest : Body} :
    run env limit (.declarations (.cons position element rest)) = (do
      tryCatch (element.declare env) fun failure => throw (failure.within position none)
      rest.declare env) := by
  rw [run, Body.declare_cons]

end Task

/-- A part that is evaluated in a scope, where inclusions may be nested to some depth. -/
structure Evaluation where
  limit : Nat
  task : Task
  scope : Scope

/-- The scope that an evaluation leaves, failed or not. -/
def Evaluation.after (env : Environment) (evaluation : Evaluation) : Scope :=
  (evaluation.task.run env evaluation.limit evaluation.scope).2

/-! ## Steps -/

/-- A step of an evaluation. -/
inductive Step where
  /-- A helper is called in a scope. -/
  | call (call : Invocation) (scope : Scope)
  /-- A name that is no call stands for what was found. -/
  | bare (name : String) (found : Found)
  /-- A section is given a name in a scope. -/
  | define (title : String) (body : Body) (scope : Scope)

/-- The call of a tag. -/
def Invocation.ofTag (env : Environment) (limit : Nat) (prepared : Invocation) (binders : Binders)
    (isBlock : Bool) (body inverse : Branch) : Invocation :=
  prepared.withSections binders isBlock (body.render env (expand env limit))
    (inverse.render env (expand env limit))

/-- The call renders a section in a scope: the alternative one if the flag is set. -/
def Invocation.Enters (env : Environment) (call : Invocation) : Scope → Bool → Scope → Prop :=
  (call.plan env).Enters call.body call.inverse

/-- The section that a call renders. -/
def Invocation.sectionOf (call : Invocation) (useInverse : Bool) : Render String :=
  textOf (if useInverse then call.inverse else call.body)

namespace Evaluation

/-- The first evaluation comes to the second one: what is evaluated before succeeds. Included templates
count only if the flag `within` is set. -/
inductive Starts (env : Environment) (within : Bool) : Evaluation → Evaluation → Prop
  /-- The name of a call is computed by another call. -/
  | computed {limit : Nat} {call : Call} {scope : Scope} :
    Starts env within ⟨limit, .callee (.computed call), scope⟩
      ⟨limit, .tag call .none false .absent .absent, scope⟩
  /-- An operand is a call. -/
  | operand {limit : Nat} {call : Call} {rest : List Operand} {scope : Scope} :
    Starts env within ⟨limit, .operands (.call call :: rest), scope⟩
      ⟨limit, .tag call .none false .absent .absent, scope⟩
  | operands {limit : Nat} {operand : Operand} {rest : List Operand} {found : Found}
    {scope after : Scope} : operand.eval env scope = (.ok found, after) →
      Starts env within ⟨limit, .operands (operand :: rest), scope⟩ ⟨limit, .operands rest, after⟩
  | callee {limit : Nat} {call : Call} {scope : Scope} :
    Starts env within ⟨limit, .parts call, scope⟩ ⟨limit, .callee call.callee, scope⟩
  | arguments {limit : Nat} {call : Call} {name : String} {scope after : Scope} :
    call.callee.name env scope = (.ok name, after) →
      Starts env within ⟨limit, .parts call, scope⟩ ⟨limit, .operands call.arguments, after⟩
  | named {limit : Nat} {call : Call} {name : String} {arguments : List Found}
    {scope after later : Scope} : call.callee.name env scope = (.ok name, after) →
      evalArguments env call.arguments after = (.ok arguments, later) →
        Starts env within ⟨limit, .parts call, scope⟩
          ⟨limit, .operands (call.named.map Prod.snd), later⟩
  | parts {limit : Nat} {call : Call} {binders : Binders} {isBlock : Bool} {body inverse : Branch}
    {scope : Scope} : Starts env within ⟨limit, .tag call binders isBlock body inverse, scope⟩
      ⟨limit, .parts call, scope⟩
  /-- The helper of a tag renders one of its sections. -/
  | section {limit : Nat} {call : Call} {binders : Binders} {isBlock : Bool} {body inverse : Branch}
    {prepared : Invocation} {useInverse : Bool} {scope after inner : Scope} :
    call.prepare env scope = (.ok prepared, after) →
      (prepared.ofTag env limit binders isBlock body inverse).Enters env after useInverse inner →
        Starts env within ⟨limit, .tag call binders isBlock body inverse, scope⟩
          ⟨limit, .section (if useInverse then inverse else body), inner⟩
  | anonymous {limit : Nat} {body : Body} {scope : Scope} :
    Starts env within ⟨limit, .section (.present body), scope⟩
      ⟨limit, .body none body, { scope with current := none }⟩
  | bareCallee {limit : Nat} {call : Call} {scope : Scope} : call.isBare = true →
    Starts env within ⟨limit, .element (.expression call), scope⟩ ⟨limit, .callee call.callee, scope⟩
  /-- A name alone is a call if a helper has that name. -/
  | bareCall {limit : Nat} {call : Call} {name : String} {scope after : Scope} :
    call.isBare = true → call.callee.name env scope = (.ok name, after) → env.knows name = true →
      Starts env within ⟨limit, .element (.expression call), scope⟩
        ⟨limit, .tag call .none false .absent .absent, after⟩
  /-- A name that is computed and that no helper has is computed again for its value. -/
  | bareValue {limit : Nat} {call : Call} {name : String} {scope after : Scope} :
    call.isBare = true → call.callee.name env scope = (.ok name, after) → env.knows name = false →
      Starts env within ⟨limit, .element (.expression call), scope⟩ ⟨limit, .callee call.callee, after⟩
  | expression {limit : Nat} {call : Call} {scope : Scope} : call.isBare = false →
    Starts env within ⟨limit, .element (.expression call), scope⟩
      ⟨limit, .tag call .none false .absent .absent, scope⟩
  | block {limit : Nat} {call : Call} {binders : Binders} {body : Body} {inverse : Branch}
    {scope : Scope} : Starts env within ⟨limit, .element (.block call binders body inverse), scope⟩
      ⟨limit, .tag call binders true (.present body) inverse, scope⟩
  | decorator {limit : Nat} {call : Call} {own : Branch} {scope : Scope} :
    Starts env within ⟨limit, .element (.decorator call own), scope⟩ ⟨limit, .parts call, scope⟩
  | inclusion {limit : Nat} {call : Call} {indent : Option String} {own : Branch} {scope : Scope} :
    Starts env within ⟨limit, .element (.inclusion call indent own), scope⟩ ⟨limit, .parts call, scope⟩
  | declarations {limit : Nat} {call : Call} {indent : Option String} {body : Body}
    {prepared : Invocation} {scope after : Scope} : call.prepare env scope = (.ok prepared, after) →
      Starts env within ⟨limit, .element (.inclusion call indent (.present body)), scope⟩
        ⟨limit, .declarations body, after⟩
  /-- An included template is rendered in a scope of its own. -/
  | included {limit : Nat} {call : Call} {indent : Option String} {own : Branch}
    {prepared : Invocation} {title : Option String} {body : Body}
    {scope after later inner : Scope} : within = true →
      call.prepare env scope = (.ok prepared, after) → own.declare env after = (.ok (), later) →
        later.current ≠ some prepared.name →
          findIncluded env later prepared.name own = some (title, body) →
            includedScope env prepared.name prepared.arguments prepared.named indent own later =
                .ok inner →
              Starts env within ⟨limit + 1, .element (.inclusion call indent own), scope⟩
                ⟨limit, .body title body, { inner with current := title }⟩
  | declaration {limit : Nat} {position : Option Position} {call : Call} {own : Branch} {rest : Body}
    {scope : Scope} :
    Starts env within ⟨limit, .declarations (.cons position (.decorator call own) rest), scope⟩
      ⟨limit, .element (.decorator call own), scope⟩
  | declared {limit : Nat} {position : Option Position} {element : Element} {rest : Body}
    {scope after : Scope} : element.declare env scope = (.ok (), after) →
      Starts env within ⟨limit, .declarations (.cons position element rest), scope⟩
        ⟨limit, .declarations rest, after⟩
  | first {limit : Nat} {name : Option String} {position : Option Position} {element : Element}
    {rest : Body} {scope : Scope} :
    Starts env within ⟨limit, .body name (.cons position element rest), scope⟩
      ⟨limit, .element element, scope⟩
  | rest {limit : Nat} {name : Option String} {position : Option Position} {element : Element}
    {rest : Body} {text : String} {scope after : Scope} :
    element.render env (expand env limit) scope = (.ok text, after) →
      Starts env within ⟨limit, .body name (.cons position element rest), scope⟩
        ⟨limit, .body name rest, after⟩

/-- An evaluation takes a step once the parts before it succeed. -/
inductive Performs (env : Environment) : Evaluation → Step → Prop
  /-- A helper is called once its arguments have values. -/
  | call {limit : Nat} {call : Call} {binders : Binders} {isBlock : Bool} {body inverse : Branch}
    {prepared : Invocation} {scope after : Scope} :
    call.prepare env scope = (.ok prepared, after) →
      Performs env ⟨limit, .tag call binders isBlock body inverse, scope⟩
        (.call (prepared.ofTag env limit binders isBlock body inverse) after)
  /-- A name alone that no helper has must stand for a value. -/
  | bare {limit : Nat} {call : Call} {name : String} {found : Found} {scope after later : Scope} :
    call.isBare = true → call.callee.name env scope = (.ok name, after) → env.knows name = false →
      call.callee.eval env after = (.ok found, later) →
        Performs env ⟨limit, .element (.expression call), scope⟩ (.bare name found)
  | define {limit : Nat} {call : Call} {body : Body} {prepared : Invocation} {found : Found}
    {rest : List Found} {title : String} {scope after : Scope} :
    call.prepare env scope = (.ok prepared, after) → prepared.name = "inline" →
      prepared.arguments = found :: rest → found.value.string? = some title →
        Performs env ⟨limit, .element (.decorator call (.present body)), scope⟩
          (.define title body after)

/-- An evaluation, or one that it comes to, takes a step. -/
inductive Reaches (env : Environment) (within : Bool) : Evaluation → Step → Prop
  | here {evaluation : Evaluation} {step : Step} : evaluation.Performs env step →
    Reaches env within evaluation step
  | part {evaluation part : Evaluation} {step : Step} : evaluation.Starts env within part →
    Reaches env within part step → Reaches env within evaluation step

end Evaluation

/-! ## Parts are smaller -/

namespace Call

theorem sizeOf_pos (call : Call) : 0 < sizeOf call := by
  cases call
  simp only [mk.sizeOf_spec]
  omega

theorem sizeOf_callee_lt (call : Call) : sizeOf call.callee < sizeOf call := by
  cases call
  simp only [callee, mk.sizeOf_spec]
  omega

theorem sizeOf_arguments_lt (call : Call) : sizeOf call.arguments < sizeOf call := by
  cases call
  simp only [arguments, mk.sizeOf_spec]
  omega

theorem sizeOf_map_snd_le (named : List (String × Operand)) :
    sizeOf (named.map Prod.snd) ≤ sizeOf named := by
  induction named with
  | nil => exact Nat.le_refl _
  | cons entry rest ih =>
    obtain ⟨name, operand⟩ := entry
    simp only [List.map_cons, List.cons.sizeOf_spec, Prod.mk.sizeOf_spec]
    omega

theorem sizeOf_named_lt (call : Call) : sizeOf (call.named.map Prod.snd) < sizeOf call := by
  obtain ⟨callee, arguments, entries⟩ := call
  have := sizeOf_map_snd_le entries
  simp only [named, mk.sizeOf_spec]
  omega

end Call

/-- The size of what is evaluated. Tags and sections count more than what they consist of, and a missing
section counts nothing. -/
noncomputable def Task.size : Task → Nat
  | .callee c => 2 * sizeOf c
  | .operands os => 2 * sizeOf os
  | .parts c => 2 * sizeOf c
  | .tag c _ _ b inverse => 2 * (sizeOf c + (sizeOf b - 1) + (sizeOf inverse - 1)) + 1
  | .section branch => 2 * (sizeOf branch - 1) + 1
  | .element e => 2 * sizeOf e
  | .body _ b => 2 * sizeOf b
  | .declarations b => 2 * sizeOf b

namespace Evaluation

variable {env : Environment} {within : Bool} {evaluation part : Evaluation}

/-- A part of an evaluation is nested less deep in inclusions, or else smaller. -/
theorem Starts.smaller (hstarts : evaluation.Starts env within part) :
    Prod.Lex (· < ·) (· < ·) (part.limit, part.task.size) (evaluation.limit, evaluation.task.size) := by
  cases hstarts with
  | included => exact .left _ _ (Nat.lt_succ_self _)
  | @«section» _ call _ _ _ _ _ useInverse =>
    refine .right _ ?_
    have := call.sizeOf_pos
    cases useInverse <;> simp only [Task.size, if_true, Bool.false_eq_true, if_false] <;> omega
  | @computed _ call | @operand _ call | @callee _ call | @arguments _ call | @named _ call | @parts _ call
  | @bareCallee _ call | @bareCall _ call | @bareValue _ call | @expression _ call | @block _ call
  | @decorator _ call | @inclusion _ call | @declarations _ call =>
    refine .right _ ?_
    have := call.sizeOf_callee_lt
    have := call.sizeOf_arguments_lt
    have := call.sizeOf_named_lt
    simp [Task.size]
    omega
  | _ =>
    refine .right _ ?_
    simp [Task.size] <;> omega

/-- What holds of an evaluation if it holds of its parts holds of every evaluation. -/
theorem induction (env : Environment) (within : Bool) {property : Evaluation → Prop}
    (step : ∀ evaluation, (∀ part, evaluation.Starts env within part → property part) →
      property evaluation) (evaluation : Evaluation) : property evaluation :=
  step evaluation fun part _ => induction env within step part
termination_by (evaluation.limit, evaluation.task.size)
decreasing_by exact Starts.smaller ‹_›

end Evaluation

end EntityScaffold.Template
