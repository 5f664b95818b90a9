import EntityScaffold.Proofs.Template.Evaluation

/-! # Failures end an evaluation

If block helpers pass on the failures of their sections, then a reached step that fails ends the whole
evaluation, and with the same cause. A call that fails for a cause that is not its own has rendered a
section that failed for it.
-/

namespace EntityScaffold

/-- A block helper gives up once a section fails, and with the failure of the section. -/
def BlockPlan.PassesOn : BlockPlan → Prop
  | .write _ => True
  | .fail _ => True
  | .render _ _ next =>
    (∀ failure, next (.error failure) = .fail (.failure failure)) ∧ ∀ text, (next (.ok text)).PassesOn

theorem BlockPlan.passesOn_thenWith {inverse : Bool} {data : Option Json} {next : String → BlockPlan}
    (hpasses : ∀ text, (next text).PassesOn) : (BlockPlan.thenWith inverse data next).PassesOn :=
  ⟨fun _ => rfl, hpasses⟩

/-- While its sections succeed, a block helper fails only with certain errors. -/
def BlockPlan.FailsOnlyWith (own : HelperError → Prop) : BlockPlan → Prop
  | .write _ => True
  | .fail error => own error
  | .render _ _ next => ∀ text, (next (.ok text)).FailsOnlyWith own

/-- The cause of an error of the block helper `name`. -/
def HelperError.cause (name : String) : HelperError → Template.Cause
  | .message text => .helper name text
  | .failure given => given.cause

theorem BlockPlan.failsOnlyWith_true (plan : BlockPlan) : plan.FailsOnlyWith fun _ => True := by
  induction plan with
  | write text => trivial
  | fail error => trivial
  | render inverse data next ih => exact fun text => ih (.ok text)

namespace Template

/-! ## Failing for a cause -/

namespace Render

variable {α β : Type} {x : Render α} {f : α → Render β} {scope scope' : Scope} {cause : Cause}

/-- A computation fails for a cause. -/
def Fails (x : Render α) (scope : Scope) (cause : Cause) : Prop :=
  ∃ failure after, x scope = (.error failure, after) ∧ failure.cause = cause

theorem fails_failWith : Fails (failWith cause : Render α) scope cause := ⟨.of cause, scope, rfl, rfl⟩

theorem Fails.unique {other : Cause} (hfails : x.Fails scope cause) (hfails' : x.Fails scope other) :
    cause = other := by
  obtain ⟨failure, after, hran, rfl⟩ := hfails
  obtain ⟨failure', after', hran', rfl⟩ := hfails'
  rw [hran] at hran'
  cases hran'
  rfl

theorem fails_congr {y : Render α} (hsame : x scope = y scope') :
    x.Fails scope cause ↔ y.Fails scope' cause := by
  unfold Fails
  rw [hsame]

theorem Fails.bind (hfails : x.Fails scope cause) : (x >>= f).Fails scope cause := by
  obtain ⟨failure, after, hran, rfl⟩ := hfails
  exact ⟨failure, after, bind_error hran, rfl⟩

theorem Fails.after {a : α} (hran : x scope = (.ok a, scope')) (hfails : (f a).Fails scope' cause) :
    (x >>= f).Fails scope cause := by
  obtain ⟨failure, after, hran', rfl⟩ := hfails
  exact ⟨failure, after, (bind_ok hran).trans hran', rfl⟩

/-- Of two computations that fail, the first one does, or else the second one where the first has come to. -/
theorem Fails.of_bind (hfails : (x >>= f).Fails scope cause) :
    x.Fails scope cause ∨ ∃ a after, x scope = (.ok a, after) ∧ (f a).Fails after cause := by
  obtain ⟨failure, last, hran, rfl⟩ := hfails
  rcases h : x scope with ⟨given | a, after⟩
  · rw [bind_error h] at hran
    cases hran
    exact .inl ⟨failure, last, h, rfl⟩
  · rw [bind_ok h] at hran
    exact .inr ⟨a, after, rfl, failure, last, hran, rfl⟩

/-- A computation that only changes the value of another one fails with it. -/
theorem fails_bind_pure {g : α → β} :
    (x >>= fun a => pure (g a)).Fails scope cause ↔ x.Fails scope cause := by
  constructor
  · intro hfails
    rcases hfails.of_bind with hfails | ⟨_, _, -, _, _, ⟨⟩, -⟩
    exact hfails
  · exact fun hfails => hfails.bind

/-- The place of a failure is added, its cause stays. -/
theorem fails_within {position : Option Position} {name : Option String} :
    Fails (tryCatch x fun failure => throw (failure.within position name)) scope cause ↔
      x.Fails scope cause := by
  unfold Fails
  rw [run_within]
  rcases x scope with ⟨failure | a, after⟩
  · constructor
    · rintro ⟨_, _, ⟨⟩, rfl⟩
      exact ⟨failure, after, rfl, rfl⟩
    · rintro ⟨_, _, ⟨⟩, rfl⟩
      exact ⟨failure.within position name, after, rfl, rfl⟩
  · constructor <;> rintro ⟨_, _, ⟨⟩, -⟩

theorem fails_isolated {change : Scope → Scope} :
    (isolated change x).Fails scope cause ↔ x.Fails (change scope) cause := by
  change (∃ failure after, ((x (change scope)).1, scope) = (.error failure, after) ∧ _) ↔ _
  constructor
  · rintro ⟨failure, _, hran, rfl⟩
    obtain ⟨hfailed, -⟩ := Prod.mk.inj hran
    exact ⟨failure, _, Prod.ext hfailed rfl, rfl⟩
  · rintro ⟨failure, after, hran, rfl⟩
    exact ⟨failure, scope, by rw [hran], rfl⟩

end Render

/-! ## Plans that pass failures on -/

namespace CallPlan

/-- A plan that renders nothing more and fails for a cause. -/
def FailsWith (cause : Cause) : CallPlan → Prop
  | .finish result => ∃ failure, result = .error failure ∧ failure.cause = cause
  | .enter _ next | .move _ next | .leave next => next.FailsWith cause
  | .render _ _ => False

/-- A plan that fails for the cause of the first section that fails, and else only for causes of its
own. -/
def PassesOn (own : Cause → Prop) : CallPlan → Prop
  | .finish result => ∀ failure, result = .error failure → own failure.cause
  | .enter _ next | .move _ next | .leave next => next.PassesOn own
  | .render _ next =>
    (∀ failure, (next (.error failure)).FailsWith failure.cause) ∧ ∀ text, (next (.ok text)).PassesOn own

variable {own : Cause → Prop} {plan : CallPlan} {body inverse : Option (Render String)}
  {scope inner : Scope} {cause : Cause} {useInverse : Bool}

theorem FailsWith.run (hfails : plan.FailsWith cause) : (plan.run body inverse).Fails scope cause := by
  induction plan generalizing scope with
  | finish result =>
    obtain ⟨failure, rfl, hsame⟩ := hfails
    exact ⟨failure, scope, rfl, hsame⟩
  | enter block next ih => exact .after rfl (ih hfails)
  | move change next ih => exact .after rfl (ih hfails)
  | leave next ih => exact .after rfl (ih hfails)
  | render inverse next ih => exact hfails.elim

theorem FailsWith.not_enters (hfails : plan.FailsWith cause) :
    ¬ plan.Enters body inverse scope useInverse inner := by
  intro henters
  induction henters with
  | enter _ ih => exact ih hfails
  | move _ ih => exact ih hfails
  | leave _ ih => exact ih hfails
  | here => exact hfails
  | later => exact hfails

/-- A section that fails ends the plan, for the cause of the section. -/
theorem PassesOn.run_fails (hpasses : plan.PassesOn own)
    (henters : plan.Enters body inverse scope useInverse inner)
    (hfails : (Invocation.textOf (if useInverse then inverse else body)).Fails inner cause) :
    (plan.run body inverse).Fails scope cause := by
  induction henters with
  | enter _ ih => exact .after rfl (ih hpasses hfails)
  | move _ ih => exact .after rfl (ih hpasses hfails)
  | leave _ ih => exact .after rfl (ih hpasses hfails)
  | here =>
    obtain ⟨failure, after, hran, rfl⟩ := hfails
    exact .after (Render.attempt_eq hran) (hpasses.1 failure).run
  | @later next first useInverse scope inner hentered ih =>
    refine .after rfl (ih ?_ hfails)
    rcases h : (Invocation.textOf (if first then inverse else body) scope).1 with failure | text
    · rw [h] at hentered
      exact absurd hentered (hpasses.1 failure).not_enters
    · exact hpasses.2 text

/-- A plan that fails for a cause that is not its own has rendered a section that fails for it. -/
theorem PassesOn.exists_enters (hpasses : plan.PassesOn own) (hother : ¬ own cause)
    (hfails : (plan.run body inverse).Fails scope cause) : ∃ useInverse inner,
      plan.Enters body inverse scope useInverse inner ∧
        (Invocation.textOf (if useInverse then inverse else body)).Fails inner cause := by
  induction plan generalizing scope with
  | finish result =>
    obtain ⟨failure, after, hran, rfl⟩ := hfails
    exact absurd (hpasses failure (congrArg Prod.fst hran)) hother
  | enter block next ih =>
    obtain ⟨useInverse, inner, henters, hfails⟩ := ih hpasses hfails
    exact ⟨useInverse, inner, .enter henters, hfails⟩
  | move change next ih =>
    obtain ⟨useInverse, inner, henters, hfails⟩ := ih hpasses hfails
    exact ⟨useInverse, inner, .move henters, hfails⟩
  | leave next ih =>
    obtain ⟨useInverse, inner, henters, hfails⟩ := ih hpasses hfails
    exact ⟨useInverse, inner, .leave henters, hfails⟩
  | render first next ih =>
    rcases hran : Invocation.textOf (if first then inverse else body) scope with ⟨failure | text, after⟩
    · have hgiven : (CallPlan.render first next).run body inverse scope =
          (next (.error failure)).run body inverse after := by rw [run_render, hran]
      rw [Render.fails_congr hgiven] at hfails
      exact ⟨first, scope, .here, failure, after, hran, (hpasses.1 failure).run.unique hfails⟩
    · have hgiven : (CallPlan.render first next).run body inverse scope =
          (next (.ok text)).run body inverse after := by rw [run_render, hran]
      rw [Render.fails_congr hgiven] at hfails
      obtain ⟨useInverse, inner, henters, hfails⟩ := ih (.ok text) (hpasses.2 text) hfails
      refine ⟨useInverse, inner, .later ?_, hfails⟩
      rw [hran]
      exact henters

theorem passesOn_write (text : String) : (write text).PassesOn own := fun _ hgiven => nomatch hgiven

theorem passesOn_thenWith {next : String → CallPlan} (inverse : Bool)
    (hpasses : ∀ text, (next text).PassesOn own) : (thenWith inverse next).PassesOn own :=
  ⟨fun failure => ⟨failure, rfl, rfl⟩, hpasses⟩

theorem passesOn_repeated {next : String → CallPlan} (binders : Binders) (base : Option (List String))
    (isFirst : Bool) (turns : List Invocation.Turn) (hpasses : ∀ text, (next text).PassesOn own) :
    (repeated binders base isFirst turns next).PassesOn own := by
  induction turns generalizing isFirst next with
  | nil => exact hpasses ""
  | cons turn rest ih => exact passesOn_thenWith false fun text => ih false fun more => hpasses _

theorem passesOn_ofHelper {plan : BlockPlan} (name : String) (hpasses : plan.PassesOn)
    (honly : plan.FailsOnlyWith fun error => own (error.cause name)) :
    (ofHelper name plan).PassesOn own := by
  induction plan with
  | write text => exact passesOn_write text
  | fail error =>
    cases error with
    | message text =>
      have hblamed : own (.helper name text) := honly
      rintro _ ⟨⟩
      exact hblamed
    | failure given =>
      have hblamed : own given.cause := honly
      rintro _ ⟨⟩
      exact hblamed
  | render inverse data next ih =>
    have hfailing (failure : Failure) : FailsWith failure.cause (ofHelper name (next (.error failure))) := by
      rw [hpasses.1 failure]
      exact ⟨failure, rfl, rfl⟩
    cases data with
    | none => exact ⟨hfailing, fun text => ih _ (hpasses.2 text) (honly text)⟩
    | some data => exact ⟨hfailing, fun text => ih _ (hpasses.2 text) (honly text)⟩

end CallPlan

/-- All registered block helpers pass the failures of sections on. -/
def Environment.PassesOn (env : Environment) : Prop :=
  ∀ ⦃name helper⦄, env.block.lookup name = some helper → ∀ tag, (helper tag).PassesOn

namespace Invocation

variable {env : Environment} {call : Invocation} {own : Cause → Prop}

/-- The block helper of a call, if it has one, passes the failures of sections on. -/
def PassesOn (env : Environment) (call : Invocation) : Prop :=
  ∀ plan, call.helperPlan? env = some plan → plan.PassesOn

theorem PassesOn.of_all (hpasses : env.PassesOn) (call : Invocation) : call.PassesOn env := by
  intro plan hplanned
  obtain ⟨-, helper, hfound, rfl⟩ := helperPlan?_eq_some.mp hplanned
  exact hpasses hfound _

/-- The blocks that templates know. -/
def sectionNames : List String := ["if", "unless", "each", "with", "raw"]

/-- The call has no use for sections. -/
def IsPlain (env : Environment) (call : Invocation) : Prop :=
  call.name ∉ sectionNames ∧ (call.name ∈ Environment.ownNames ∨ call.helperPlan? env = none)

theorem passesOn_withArgument {name : String} {index : Nat} {next : Found → CallPlan}
    (hmissing : own (.argumentMissing name index)) (hpasses : ∀ found, (next found).PassesOn own) :
    (call.withArgument name index next).PassesOn own := by
  unfold withArgument
  split
  · exact hpasses _
  · rintro _ ⟨⟩
    exact hmissing

theorem passesOn_eachPlan (hmissing : own (.argumentMissing "each" 0)) : call.eachPlan.PassesOn own := by
  refine passesOn_withArgument hmissing fun found => ?_
  split
  · exact CallPlan.passesOn_write ""
  · exact CallPlan.passesOn_thenWith true CallPlan.passesOn_write
  · exact CallPlan.passesOn_thenWith true CallPlan.passesOn_write
  · exact CallPlan.passesOn_write ""
  · exact CallPlan.passesOn_repeated _ _ _ _ CallPlan.passesOn_write

theorem passesOn_withPlan (hmissing : own (.argumentMissing "with" 0)) : call.withPlan.PassesOn own := by
  refine passesOn_withArgument hmissing fun found => ?_
  split
  · exact CallPlan.passesOn_thenWith false CallPlan.passesOn_write
  · exact CallPlan.passesOn_thenWith true CallPlan.passesOn_write

/-- Whatever a template calls passes failures on unless it is a block helper that does not. On its own, it fails
because an argument is missing, or else for a cause of the helper. -/
theorem passesOn_plan (hpasses : call.PassesOn env) (hmissing : ∀ name, own (.argumentMissing name 0))
    (hplanned : call.name ∉ Environment.ownNames → ∀ plan, call.helperPlan? env = some plan →
      plan.FailsOnlyWith fun error => own (error.cause call.name))
    (hplain : call.IsPlain env → ∀ failure, (call.run env).result = .error failure → own failure.cause) :
    (call.plan env).PassesOn own := by
  unfold plan
  split
  · exact passesOn_withArgument (hmissing "if") fun _ => CallPlan.passesOn_thenWith _ CallPlan.passesOn_write
  · exact passesOn_withArgument (hmissing "if") fun _ => CallPlan.passesOn_thenWith _ CallPlan.passesOn_write
  · exact passesOn_eachPlan (hmissing "each")
  · exact passesOn_withPlan (hmissing "with")
  · exact CallPlan.passesOn_thenWith false CallPlan.passesOn_write
  next hname => exact hplain ⟨by rw [hname]; decide, .inl (by rw [hname]; decide)⟩
  next hname => exact hplain ⟨by rw [hname]; decide, .inl (by rw [hname]; decide)⟩
  next hif hunless heach hwith hraw hlookup hlog =>
    split
    next plan hgiven =>
      have hfree := Environment.notMem_ownNames.2 ⟨hif, hunless, heach, hwith, hlookup, hraw, hlog⟩
      exact CallPlan.passesOn_ofHelper _ (hpasses plan hgiven) (hplanned hfree plan hgiven)
    next hunplanned =>
      refine hplain ⟨?_, .inr hunplanned⟩
      simp only [sectionNames, List.mem_cons, List.not_mem_nil, or_false, not_or]
      exact ⟨hif, hunless, heach, hwith, hraw⟩

/-- A section that fails ends the call that renders it. -/
theorem run_fails (hpasses : call.PassesOn env) {scope inner : Scope} {useInverse : Bool} {cause : Cause}
    (henters : call.Enters env scope useInverse inner)
    (hfails : (textOf (if useInverse then call.inverse else call.body)).Fails inner cause) :
    (call.run env).Fails scope cause := by
  rw [run_plan]
  have hany : (call.plan env).PassesOn fun _ => True :=
    passesOn_plan hpasses (fun _ => trivial) (fun _ plan _ => plan.failsOnlyWith_true)
      fun _ _ _ => trivial
  exact hany.run_fails henters hfails

end Invocation

/-! ## Steps that fail -/

/-- A step fails for a cause. -/
def Step.FailsWith (env : Environment) (cause : Cause) : Step → Prop
  | .call invocation scope => (invocation.run env).Fails scope cause
  | .bare name found => found = .missing ∧ cause = .unresolved name
  | .define _ _ _ => False

section

variable {env : Environment} {call : Call} {scope after : Scope} {cause : Cause}

theorem Call.fails_invoke {binders : Binders} {isBlock : Bool} {body inverse : Option (Render String)} :
    (call.invoke env binders isBlock body inverse).Fails scope cause ↔
      (call.outcome env binders isBlock body inverse).Fails scope cause := by
  rw [Call.invoke_eq, Render.fails_bind_pure]

theorem Call.fails_eval :
    (call.eval env).Fails scope cause ↔ (call.invoke env .none false none none).Fails scope cause := by
  rw [Call.fails_invoke, Call.eval_eq, Render.fails_bind_pure]

/-- Evaluating what a tag names fails where evaluating its name does: both run the same call. -/
theorem Callee.fails_eval {callee : Callee} (hfails : (callee.name env).Fails scope cause) :
    (callee.eval env).Fails scope cause := by
  cases callee with
  | word name =>
    obtain ⟨failure, after, hran, -⟩ := hfails
    cases hran
  | path p =>
    obtain ⟨failure, after, hran, -⟩ := hfails
    cases hran
  | computed call => exact Render.fails_bind_pure.mpr (Render.fails_bind_pure.mp hfails)

theorem fails_expand {limit : Nat} {name : Option String} {body : Body} :
    (expand env (limit + 1) name body).Fails scope cause ↔
      (body.render env (expand env limit) name).Fails { scope with current := name } cause := Iff.rfl

namespace Evaluation

variable {within : Bool} {evaluation part : Evaluation} {step : Step}

/-- An evaluation fails for a cause. -/
def Fails (env : Environment) (evaluation : Evaluation) (cause : Cause) : Prop :=
  (evaluation.task.run env evaluation.limit).Fails evaluation.scope cause

/-- What an evaluation calls itself passes the failures of sections on. -/
def PassesOn (env : Environment) (evaluation : Evaluation) : Prop :=
  ∀ call scope, evaluation.Performs env (.call call scope) → call.PassesOn env

theorem PassesOn.of_all (hpasses : env.PassesOn) (evaluation : Evaluation) : evaluation.PassesOn env :=
  fun call _ _ => .of_all hpasses call

/-- A part that fails ends the evaluation that has come to it. -/
theorem Starts.fails (hpasses : evaluation.PassesOn env) (hstarts : evaluation.Starts env within part)
    (hfails : part.Fails env cause) : evaluation.Fails env cause := by
  unfold Fails at hfails ⊢
  cases hstarts with
  | computed => exact (Call.fails_eval.mpr hfails).bind
  | operand => exact (Render.Fails.bind (Call.fails_eval.mpr hfails)).bind
  | operands hevaluated => exact .after hevaluated hfails.bind
  | callee => exact hfails.bind
  | arguments hnamed => exact .after hnamed hfails.bind
  | named hnamed hevaluated =>
    refine .after hnamed (.after hevaluated (.bind ?_))
    rw [evalNamed_eq]
    exact hfails.bind
  | parts => exact Call.fails_invoke.mpr hfails.bind
  | @«section» _ _ _ _ _ _ _ useInverse _ _ _ hprepared henters =>
    refine Call.fails_invoke.mpr (.after hprepared (Invocation.run_fails (hpasses _ _ (.call hprepared)) henters ?_))
    cases useInverse with
    | true => exact hfails
    | false => exact hfails
  | anonymous => exact .after rfl hfails
  | bareCallee hbare =>
    rw [Task.run_expression, Call.print_eq_of_bare env hbare]
    exact hfails.bind
  | bareCall hbare hnamed hknows =>
    rw [Task.run_expression, Call.print_eq_of_bare env hbare]
    refine .after hnamed ?_
    rw [if_pos hknows]
    exact hfails
  | bareValue hbare hnamed hunknown =>
    rw [Task.run_expression, Call.print_eq_of_bare env hbare]
    refine .after hnamed ?_
    rw [if_neg (Bool.eq_false_iff.mp hunknown)]
    exact (Callee.fails_eval hfails).bind
  | expression hbare =>
    rw [Task.run_expression, Call.print_eq_of_not_bare env hbare]
    exact hfails
  | block => exact hfails
  | decorator =>
    rw [Task.run_decorator, Call.decorate_eq]
    exact hfails.bind.bind
  | inclusion =>
    rw [Task.run_inclusion]
    exact hfails.bind
  | declarations hprepared =>
    rw [Task.run_inclusion]
    exact .after hprepared hfails.bind
  | included _ hprepared hdeclared hother hfound hentered =>
    rw [Task.run_inclusion]
    refine .after hprepared (.after hdeclared (.after rfl ?_))
    rw [if_neg hother, hfound]
    refine .after (congrFun (congrArg Render.ofExcept hentered) _) (Render.fails_isolated.mpr ?_)
    exact fails_expand.mpr hfails
  | declaration =>
    rw [Task.run_decorator] at hfails
    rw [Task.run_declarations]
    exact (Render.fails_within.mpr (Render.fails_bind_pure.mp hfails)).bind
  | declared hdeclared =>
    rw [Task.run_declarations]
    exact .after (Render.within_eq_ok.mpr hdeclared) hfails
  | first => exact (Render.fails_within.mpr hfails).bind
  | rest hrendered => exact .after (Render.within_eq_ok.mpr hrendered) hfails.bind

/-- The first evaluation comes to the second one through parts of parts, and everything that is called around the
second one passes the failures of its sections on. -/
inductive Encloses (env : Environment) : Evaluation → Evaluation → Prop
  | refl (evaluation : Evaluation) : Encloses env evaluation evaluation
  | part {evaluation part inner : Evaluation} : evaluation.PassesOn env → evaluation.Starts env true part →
    Encloses env part inner → Encloses env evaluation inner

/-- The innermost failure is that of every evaluation around it. -/
theorem Encloses.fails {inner : Evaluation} (hencloses : evaluation.Encloses env inner)
    (hfails : inner.Fails env cause) : evaluation.Fails env cause := by
  induction hencloses with
  | refl => exact hfails
  | part hpasses hstarts _ ih => exact hstarts.fails hpasses (ih hfails)

theorem Encloses.reaches {inner : Evaluation} (hencloses : evaluation.Encloses env inner)
    (hperforms : inner.Performs env step) : evaluation.Reaches env true step := by
  induction hencloses with
  | refl => exact .here hperforms
  | part _ hstarts _ ih => exact .part hstarts (ih hperforms)

/-- A step that fails ends the evaluation that takes it. -/
theorem Performs.fails (hperforms : evaluation.Performs env step) (hfails : step.FailsWith env cause) :
    evaluation.Fails env cause := by
  unfold Fails
  cases hperforms with
  | call hprepared => exact Call.fails_invoke.mpr (.after hprepared hfails)
  | bare hbare hnamed hunknown hevaluated =>
    obtain ⟨rfl, rfl⟩ := hfails
    rw [Task.run_expression, Call.print_eq_of_bare env hbare]
    refine .after hnamed ?_
    rw [if_neg (Bool.eq_false_iff.mp hunknown)]
    exact .after hevaluated Render.fails_failWith
  | define => exact hfails.elim

/-- A reached step that fails ends the whole evaluation, with its cause. -/
theorem Reaches.fails (hpasses : env.PassesOn) (hreaches : evaluation.Reaches env within step)
    (hfails : step.FailsWith env cause) : evaluation.Fails env cause := by
  induction hreaches with
  | here hperforms => exact hperforms.fails hfails
  | part hstarts _ ih => exact hstarts.fails (.of_all hpasses _) (ih hfails)

end Evaluation

end

end Template

end EntityScaffold
