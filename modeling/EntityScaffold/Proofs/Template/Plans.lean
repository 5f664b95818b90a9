import EntityScaffold.Template.Render

/-! # What calls do

Blocks that templates know and helpers that callers register use their sections in the same few ways:
they enter a block, move it on, leave it, or render one of the sections. Written as such a plan, every call
has one semantics, and what holds of all calls is proved by induction on the plan.
-/

namespace EntityScaffold.Template

namespace Render

variable {α β : Type} {x : Render α} {f : α → Render β} {scope scope' : Scope}

/-! ## Running a computation -/

theorem bind_ok {a : α} (h : x scope = (.ok a, scope')) : (x >>= f) scope = f a scope' := by
  change ExceptT.bindCont f (x scope).1 (x scope).2 = f a scope'
  rw [h]
  rfl

theorem bind_error {failure : Failure} (h : x scope = (.error failure, scope')) :
    (x >>= f) scope = (.error failure, scope') := by
  change ExceptT.bindCont f (x scope).1 (x scope).2 = _
  rw [h]
  rfl

theorem attempt_eq {result : Except Failure α} (h : x scope = (result, scope')) :
    x.attempt scope = (.ok result, scope') := by
  change ((.ok (x scope).1 : Except Failure _), (x scope).2) = _
  rw [h]

/-- A failure seen from around is the same failure with its place, and the scope after it is the same. -/
theorem run_within (x : Render α) (position : Option Position) (name : Option String) (scope : Scope) :
    (tryCatch x fun failure => throw (failure.within position name)) scope =
      ((x scope).1.mapError (·.within position name), (x scope).2) := by
  change ExceptT.tryCatch x _ scope = _
  dsimp only [ExceptT.tryCatch, ExceptT.mk, Bind.bind, StateT.bind]
  rcases x scope with ⟨_ | a, after⟩
  · rfl
  · rfl

theorem within_eq_ok {a : α} {position : Option Position} {name : Option String} :
    (tryCatch x fun failure => throw (failure.within position name)) scope = (.ok a, scope') ↔
      x scope = (.ok a, scope') := by
  rw [run_within]
  rcases x scope with ⟨failure | b, after⟩
  · constructor <;> intro h <;> cases h
  · rfl

/-- What a computation gives that neither reads nor changes the scope. -/
def result (x : Render α) : Except Failure α := (x .start).1

/-- A computation that neither reads nor changes the scope. -/
def IsConstant (x : Render α) : Prop := ∀ scope, x scope = (x.result, scope)

theorem IsConstant.of_result {result : Except Failure α} (h : ∀ scope, x scope = (result, scope)) :
    IsConstant x := by
  intro scope
  rw [Render.result, h .start, h scope]

theorem IsConstant.pure (a : α) : IsConstant (pure a) := fun _ => rfl

theorem IsConstant.failWith (cause : Cause) : IsConstant (failWith cause : Render α) := fun _ => rfl

theorem IsConstant.ofExcept (result : Except Cause α) : IsConstant (ofExcept result) := by
  intro scope
  cases result <;> rfl

theorem IsConstant.bind (hx : IsConstant x) (hf : ∀ a, IsConstant (f a)) : IsConstant (x >>= f) := by
  cases h : x.result with
  | ok a => exact .of_result fun scope => by rw [bind_ok (h ▸ hx scope), hf a scope]
  | error failure => exact .of_result fun scope => bind_error (h ▸ hx scope)

end Render

/-! ## Plans -/

/-- What a call does with the scope and with its sections. -/
inductive CallPlan where
  | finish (result : Except Failure Invocation.Outcome)
  | enter (block : Block) (next : CallPlan)
  /-- Change the innermost block. -/
  | move (change : Block → Block) (next : CallPlan)
  | leave (next : CallPlan)
  /-- Render the section, or the alternative one, and go on with what came of it. -/
  | render (inverse : Bool) (next : Except Failure String → CallPlan)

namespace CallPlan

/-- Carry out a plan with the sections of a call. -/
def run (body inverse : Option (Render String)) : CallPlan → Render Invocation.Outcome
  | .finish result => fun scope => (result, scope)
  | .enter block next => do
    modify (·.push block)
    next.run body inverse
  | .move change next => do
    modify (Scope.updateBlock change)
    next.run body inverse
  | .leave next => do
    modify Scope.pop
    next.run body inverse
  | .render useInverse next => do
    let result ← (Invocation.textOf (if useInverse then inverse else body)).attempt
    (next result).run body inverse

/-- Render a section and go on with its text; its failure ends the plan. -/
def thenWith (inverse : Bool) (next : String → CallPlan) : CallPlan :=
  .render inverse fun
    | .ok text => next text
    | .error failure => .finish (.error failure)

/-- Finish with a text. -/
def write (text : String) : CallPlan := .finish (.ok (.text text))

/-- Render a section for each turn and go on with the joined texts. -/
def repeated (binders : Binders) (base : Option (List String)) :
    Bool → List Invocation.Turn → (String → CallPlan) → CallPlan
  | _, [], next => next ""
  | isFirst, turn :: rest, next =>
    .move (turn.enter binders base isFirst rest.isEmpty) <|
      thenWith false fun text => repeated binders base false rest fun more => next (text ++ more)

/-- The plan of a block helper as the plan of the call `name`. -/
def ofHelper (name : String) : BlockPlan → CallPlan
  | .write text => write text
  | .fail (.message text) => .finish (.error (.of (.helper name text)))
  | .fail (.failure failure) => .finish (.error failure)
  | .render inverse none next => .render inverse fun result => ofHelper name (next result)
  | .render inverse (some data) next =>
    .enter (.ofValue data) <| .render inverse fun result => .leave (ofHelper name (next result))

variable {body inverse : Option (Render String)} {scope scope' : Scope}

theorem run_enter (block : Block) (next : CallPlan) :
    (enter block next).run body inverse scope = next.run body inverse (scope.push block) := rfl

theorem run_move (change : Block → Block) (next : CallPlan) :
    (move change next).run body inverse scope = next.run body inverse (scope.updateBlock change) := rfl

theorem run_leave (next : CallPlan) :
    (leave next).run body inverse scope = next.run body inverse scope.pop := rfl

theorem run_render (useInverse : Bool) (next : Except Failure String → CallPlan) :
    (render useInverse next).run body inverse scope =
      let rendered := Invocation.textOf (if useInverse then inverse else body) scope
      (next rendered.1).run body inverse rendered.2 := rfl

theorem run_thenWith (useInverse : Bool) (next : String → CallPlan) :
    (thenWith useInverse next).run body inverse =
      (Invocation.textOf (if useInverse then inverse else body) >>= fun text =>
        (next text).run body inverse) := by
  funext scope
  rw [thenWith, run_render]
  rcases h : Invocation.textOf (if useInverse then inverse else body) scope with ⟨_ | text, after⟩
  · rw [Render.bind_error h]
    rfl
  · rw [Render.bind_ok h]

/-- The plan of a call, carried out from a scope, renders a section in another scope: the alternative one
if the flag is set. -/
inductive Enters (body inverse : Option (Render String)) : CallPlan → Scope → Bool → Scope → Prop
  | enter {block : Block} {next : CallPlan} {useInverse : Bool} {scope inner : Scope} :
    Enters body inverse next (scope.push block) useInverse inner →
      Enters body inverse (.enter block next) scope useInverse inner
  | move {change : Block → Block} {next : CallPlan} {useInverse : Bool} {scope inner : Scope} :
    Enters body inverse next (scope.updateBlock change) useInverse inner →
      Enters body inverse (.move change next) scope useInverse inner
  | leave {next : CallPlan} {useInverse : Bool} {scope inner : Scope} :
    Enters body inverse next scope.pop useInverse inner →
      Enters body inverse (.leave next) scope useInverse inner
  /-- A section is rendered in the scope that the plan has come to. -/
  | here {next : Except Failure String → CallPlan} {useInverse : Bool} {scope : Scope} :
    Enters body inverse (.render useInverse next) scope useInverse scope
  /-- The plan goes on after a section, in the scope that the section leaves. -/
  | later {next : Except Failure String → CallPlan} {first useInverse : Bool} {scope inner : Scope} :
    Enters body inverse (next (Invocation.textOf (if first then inverse else body) scope).1)
        (Invocation.textOf (if first then inverse else body) scope).2 useInverse inner →
      Enters body inverse (.render first next) scope useInverse inner

end CallPlan

namespace Invocation

/-- Go on with an argument, or fail because it is missing. -/
def withArgument (call : Invocation) (name : String) (index : Nat) (next : Found → CallPlan) :
    CallPlan :=
  match call.arguments[index]? with
  | some found => next found
  | none => .finish (.error (.of (.argumentMissing name index)))

/-- The plan of a condition. -/
def conditionPlan (call : Invocation) (wanted : Bool) : CallPlan :=
  call.withArgument "if" 0 fun found =>
    let zero := ((call.named.lookup "includeZero").bind (·.value.bool?)).getD false
    .thenWith (!(found.value.isTrue zero == wanted)) .write

/-- The turns for the items of a value, if it can have any. -/
def turns? : Json → Option (List Turn)
  | .array items => some (arrayTurns items)
  | .object fields => some (objectTurns fields)
  | _ => none

/-- The plan of a repetition. -/
def eachPlan (call : Invocation) : CallPlan :=
  call.withArgument "each" 0 fun found =>
    match call.body, turns? found.value, call.inverse with
    | none, _, _ => .write ""
    | some _, some [], some _ | some _, none, some _ => .thenWith true .write
    | some _, none, none => .write ""
    | some _, some all, _ =>
      .enter (blockOf found) <|
        .repeated call.binders found.path? true all fun text => .leave (.write text)

/-- The block that `with` enters for its argument. -/
def withBlock (call : Invocation) (found : Found) : Block :=
  match call.binders with
  | .one name => { blockOf found with bound := [(name, boundValue found.path? found.value)] }
  | _ => blockOf found

/-- The plan of `with`. -/
def withPlan (call : Invocation) : CallPlan :=
  call.withArgument "with" 0 fun found =>
    if found.value.isTrue false then
      .enter (call.withBlock found) <| .thenWith false fun text => .leave (.write text)
    else .thenWith true .write

/-- The tag that a block helper sees. -/
def blockCall (call : Invocation) (env : Environment) : BlockCall :=
  ⟨call.name, call.named.map fun (name, found) => (name, found.value), call.inverse.isSome, env.data,
    call.arguments.map Found.value⟩

/-- What a block helper plans for a call, if the call asks for a block helper and there is one. -/
def helperPlan? (call : Invocation) (env : Environment) : Option BlockPlan :=
  if call.isBlock then (env.block.lookup call.name).map (· (call.blockCall env)) else none

/-- What a call does. Calls without sections only have a result. -/
def plan (call : Invocation) (env : Environment) : CallPlan :=
  match call.name with
  | "if" => call.conditionPlan true
  | "unless" => call.conditionPlan false
  | "each" => call.eachPlan
  | "with" => call.withPlan
  | "raw" => .thenWith false .write
  | "lookup" | "log" => .finish (call.run env).result
  | _ => match call.helperPlan? env with
    | some plan => .ofHelper call.name plan
    | none => .finish (call.run env).result

end Invocation

/-! ## Names that templates keep -/

theorem Environment.mem_ownNames {name : String} : name ∈ Environment.ownNames ↔
    name = "if" ∨ name = "unless" ∨ name = "each" ∨ name = "with" ∨ name = "lookup" ∨ name = "raw" ∨
      name = "log" := by
  simp only [ownNames, List.mem_cons, List.not_mem_nil, or_false]

theorem Environment.notMem_ownNames {name : String} : name ∉ Environment.ownNames ↔
    name ≠ "if" ∧ name ≠ "unless" ∧ name ≠ "each" ∧ name ≠ "with" ∧ name ≠ "lookup" ∧ name ≠ "raw" ∧
      name ≠ "log" := by
  simp only [mem_ownNames, not_or]

namespace Invocation

variable {env : Environment} {call : Invocation}

theorem run_withArgument {α : Type} (name : String) (index : Nat) {next : Found → CallPlan}
    {render : Found → Render α} {make : α → Outcome}
    (hsame : ∀ found, (return make (← render found)) = (next found).run call.body call.inverse) :
    (do return make (← (do render (← call.argument name index)))) =
      (call.withArgument name index next).run call.body call.inverse := by
  unfold argument withArgument
  cases call.arguments[index]? with
  | none => rfl
  | some found => exact hsame found

theorem run_conditionPlan (wanted : Bool) :
    (return Outcome.text (← call.ifElse wanted)) =
      (call.conditionPlan wanted).run call.body call.inverse := by
  refine run_withArgument "if" 0 fun found => ?_
  rw [CallPlan.run_thenWith]
  dsimp only
  cases found.value.isTrue _ == wanted
  · rfl
  · rfl

theorem run_repeated (binders : Binders) (base : Option (List String)) (body : Render String)
    (inverse : Option (Render String)) (isFirst : Bool) (all : List Turn) (next : String → CallPlan) :
    (turns binders base body isFirst all >>= fun text => (next text).run (some body) inverse) =
      (CallPlan.repeated binders base isFirst all next).run (some body) inverse := by
  induction all generalizing isFirst next with
  | nil => rfl
  | cons turn rest ih =>
    simp only [turns, CallPlan.repeated, CallPlan.run, CallPlan.run_thenWith, bind_assoc, pure_bind, ← ih]
    rfl

theorem run_alternative (body : Option (Render String)) (inverse : Render String) :
    (return Outcome.text (← inverse)) =
      (CallPlan.thenWith true .write).run body (some inverse) := by
  rw [CallPlan.run_thenWith]
  rfl

theorem run_repetition (binders : Binders) (found : Found) (body : Render String)
    (inverse : Option (Render String)) (all : List Turn) :
    ((do
        modify (Scope.push · (blockOf found))
        let text ← turns binders found.path? body true all
        modify Scope.pop
        return text : Render String) >>= fun text => return Outcome.text text) =
      (CallPlan.enter (blockOf found) (.repeated binders found.path? true all
        fun text => .leave (.write text))).run (some body) inverse := by
  simp only [CallPlan.run, ← run_repeated, bind_assoc, pure_bind]
  rfl

theorem each_eq : call.each = (do
    let found ← call.argument "each" 0
    match call.body, turns? found.value, call.inverse with
    | none, _, _ => return ""
    | some _, some [], some inverse | some _, none, some inverse => inverse
    | some _, none, none => return ""
    | some body, some all, _ => do
      modify (Scope.push · (blockOf found))
      let text ← turns call.binders found.path? body true all
      modify Scope.pop
      return text) := by
  unfold each
  congr 1
  funext found
  cases call.body with
  | none => rfl
  | some body =>
    unfold turns?
    cases found.value with
    | array items =>
      dsimp only
      generalize arrayTurns items = all
      cases all <;> cases call.inverse <;> rfl
    | object fields =>
      dsimp only
      generalize objectTurns fields = all
      cases all <;> cases call.inverse <;> rfl
    | _ => cases call.inverse <;> rfl

/-- What a repetition does depends on its sections only in whether they are there. -/
theorem eachPlan_eq {found : Found} (hpresent : call.arguments[0]? = some found) :
    call.eachPlan = match call.body.isSome, turns? found.value, call.inverse.isSome with
      | false, _, _ => .write ""
      | true, some [], true | true, none, true => .thenWith true .write
      | true, none, false => .write ""
      | true, some all, _ => .enter (blockOf found) <|
        .repeated call.binders found.path? true all fun text => .leave (.write text) := by
  rw [eachPlan, withArgument, hpresent]
  dsimp only
  cases call.body <;> cases call.inverse <;> rcases turns? found.value with _ | _ | _ <;> rfl

theorem run_eachPlan :
    (return Outcome.text (← call.each)) = call.eachPlan.run call.body call.inverse := by
  rw [each_eq]
  refine run_withArgument "each" 0 fun found => ?_
  rcases call.body with _ | body
  · rfl
  rcases turns? found.value with _ | _ | _ <;> rcases call.inverse with _ | inverse
  · rfl
  · exact run_alternative _ inverse
  · exact run_repetition ..
  · exact run_alternative _ inverse
  · exact run_repetition ..
  · exact run_repetition ..

theorem run_withPlan :
    (return Outcome.text (← call.withValue)) = call.withPlan.run call.body call.inverse := by
  refine run_withArgument "with" 0 fun found => ?_
  cases found.value.isTrue false with
  | false =>
    simp only [Bool.false_eq_true, if_false, CallPlan.run_thenWith]
    rfl
  | true =>
    simp only [if_true, CallPlan.run_thenWith, CallPlan.run, bind_assoc, pure_bind]
    rfl

theorem renderSection_none (section? : Option (Render String)) :
    renderSection section? none = (textOf section?).attempt := by
  cases section? with
  | none => rfl
  | some render => rfl

/-- Entering and leaving a block around a section that is missing changes nothing. -/
theorem renderSection_some (section? : Option (Render String)) (data : Json) :
    renderSection section? (some data) = (do
      modify (Scope.push · (.ofValue data))
      let result ← (textOf section?).attempt
      modify Scope.pop
      return result) := by
  cases section? with
  | none => rfl
  | some render => rfl

theorem run_ofHelper (plan : BlockPlan) :
    (return Outcome.text (← call.carryOut plan)) =
      (CallPlan.ofHelper call.name plan).run call.body call.inverse := by
  induction plan with
  | write text => rfl
  | fail error => cases error <;> rfl
  | render inverse data next ih =>
    cases data with
    | none =>
      simp only [carryOut, renderSection_none, bind_assoc, ih, CallPlan.ofHelper, CallPlan.run]
    | some data =>
      simp only [carryOut, renderSection_some, bind_assoc, pure_bind, ih, CallPlan.ofHelper, CallPlan.run]

theorem isConstant_argument (name : String) (index : Nat) : (call.argument name index).IsConstant := by
  unfold argument
  split
  · exact .pure _
  · exact .failWith _

theorem isConstant_lookupValue : call.lookupValue.IsConstant :=
  (isConstant_argument "lookup" 0).bind fun _ => (isConstant_argument "lookup" 1).bind fun _ => .pure _

theorem isConstant_logged : call.logged.IsConstant := by
  unfold logged
  dsimp only
  split
  · exact .pure _
  · exact .failWith _

theorem helperPlan?_eq_some {plan : BlockPlan} : call.helperPlan? env = some plan ↔
    call.isBlock = true ∧
      ∃ helper, env.block.lookup call.name = some helper ∧ helper (call.blockCall env) = plan := by
  unfold helperPlan?
  split
  next hblock => simp only [Option.map_eq_some_iff, hblock, true_and]
  next hnoBlock => simp only [hnoBlock, false_and, reduceCtorEq]

/-- A call that a block helper plans is carried out by the plan. -/
theorem registered_eq {plan : BlockPlan} (hplanned : call.helperPlan? env = some plan) :
    call.registered env = call.carryOut plan := by
  obtain ⟨hblock, helper, hfound, rfl⟩ := helperPlan?_eq_some.mp hplanned
  unfold registered
  rw [if_pos hblock, hfound]
  rfl

theorem isRegistered_of_helperPlan? {plan : BlockPlan} (hplanned : call.helperPlan? env = some plan) :
    env.isRegistered call.name = true := by
  obtain ⟨-, helper, hfound, -⟩ := helperPlan?_eq_some.mp hplanned
  rw [Environment.isRegistered, hfound, Option.isSome_some, Bool.or_true]

/-- Without a block helper, the result of a registered helper depends on the arguments alone. -/
theorem isConstant_registered (hunplanned : call.helperPlan? env = none) :
    (call.registered env).IsConstant := by
  unfold registered
  dsimp only
  split
  next hblock =>
    rw [helperPlan?, if_pos hblock, Option.map_eq_none_iff] at hunplanned
    rw [hunplanned]
    exact .failWith _
  next =>
    split
    · split
      · exact .pure _
      · exact .failWith _
    · exact .failWith _

theorem plan_if (hown : call.name = "if") : call.plan env = call.conditionPlan true := by
  unfold plan
  rw [hown]
  rfl

theorem plan_unless (hown : call.name = "unless") : call.plan env = call.conditionPlan false := by
  unfold plan
  rw [hown]
  rfl

theorem plan_each (hown : call.name = "each") : call.plan env = call.eachPlan := by
  unfold plan
  rw [hown]
  rfl

theorem plan_with (hown : call.name = "with") : call.plan env = call.withPlan := by
  unfold plan
  rw [hown]
  rfl

theorem plan_raw (hown : call.name = "raw") : call.plan env = .thenWith false .write := by
  unfold plan
  rw [hown]
  rfl

theorem run_lookup (hown : call.name = "lookup") : call.run env = (do return .value (← call.lookupValue)) := by
  unfold run
  rw [hown]
  rfl

theorem run_log (hown : call.name = "log") : call.run env = (do return .text (← call.logged)) := by
  unfold run
  rw [hown]
  rfl

/-- A call whose name templates do not keep goes to the registered helpers, and else to an operator. -/
theorem run_of_notMem (hfree : call.name ∉ Environment.ownNames) :
    call.run env =
      if env.isRegistered call.name then return .text (← call.registered env)
      else match Operator.named? call.name with
        | some op =>
          return .value (← .ofExcept (op.apply call.name (call.arguments.map Found.value)))
        | none => .failWith (.unresolved call.name) := by
  unfold run
  split
  case h_8 => rfl
  all_goals
    next hown =>
      rw [hown] at hfree
      exact absurd (by decide) hfree

/-- Such a call is planned by its block helper, and else only has a result. -/
theorem plan_of_notMem (hfree : call.name ∉ Environment.ownNames) :
    call.plan env = match call.helperPlan? env with
      | some plan => .ofHelper call.name plan
      | none => .finish (call.run env).result := by
  unfold plan
  split
  case h_8 => rfl
  all_goals
    next hown =>
      rw [hown] at hfree
      exact absurd (by decide) hfree

theorem isConstant_run (hfree : call.name ∉ Environment.ownNames)
    (hunplanned : call.helperPlan? env = none) : (call.run env).IsConstant := by
  rw [run_of_notMem hfree]
  split
  · exact (isConstant_registered hunplanned).bind fun _ => .pure _
  · split
    · exact (Render.IsConstant.ofExcept _).bind fun _ => .pure _
    · exact .failWith _

theorem run_finish {x : Render Outcome} {body inverse : Option (Render String)} (h : x.IsConstant) :
    x = (CallPlan.finish x.result).run body inverse := funext h

/-- Every call does what its plan says. -/
theorem run_plan : call.run env = (call.plan env).run call.body call.inverse := by
  unfold plan
  split
  next hown => unfold run; rw [hown]; exact run_conditionPlan true
  next hown => unfold run; rw [hown]; exact run_conditionPlan false
  next hown => unfold run; rw [hown]; exact run_eachPlan
  next hown => unfold run; rw [hown]; exact run_withPlan
  next hown =>
    unfold run
    rw [hown, CallPlan.run_thenWith]
    rfl
  next hown =>
    unfold run
    rw [hown]
    exact run_finish (isConstant_lookupValue.bind fun _ => .pure _)
  next hown =>
    unfold run
    rw [hown]
    exact run_finish (isConstant_logged.bind fun _ => .pure _)
  next hif hunless heach hwith hraw hlookup hlog =>
    have hfree := Environment.notMem_ownNames.2 ⟨hif, hunless, heach, hwith, hlookup, hraw, hlog⟩
    split
    next plan hplanned =>
      rw [run_of_notMem hfree, if_pos (isRegistered_of_helperPlan? hplanned), registered_eq hplanned]
      exact run_ofHelper plan
    next hunplanned => exact run_finish (isConstant_run hfree hunplanned)

end Invocation

end EntityScaffold.Template
