import EntityScaffold.Proofs.Template.Unresolved

/-! # Where errors of helpers come from

Values are looked up, operators applied and templates included without asking for a helper, so what fails
there is no helper. If block helpers make up no failures, then an evaluation that ends with an unresolved name has
come to a step that does not resolve it, and one that ends with an error of a helper has come to the call whose
helper reports it.
-/

namespace EntityScaffold

namespace Template

variable {α β : Type}

/-! ## Other causes -/

/-- A helper is missing or reports an error. -/
def Cause.IsOfHelper : Cause → Prop
  | .unresolved _ | .helper _ _ => True
  | _ => False

/-- A result that is no failure of a helper. -/
def IsHelperless (result : Except Cause α) : Prop := ∀ cause, cause.IsOfHelper → result ≠ .error cause

namespace IsHelperless

theorem ok (a : α) : IsHelperless (.ok a) := fun _ _ hgiven => nomatch hgiven

theorem error {cause : Cause} (hother : ¬ cause.IsOfHelper) : IsHelperless (.error cause : Except Cause α) := by
  rintro _ hhelper ⟨⟩
  exact hother hhelper

theorem bind {result : Except Cause α} {next : α → Except Cause β} (hhelperless : IsHelperless result)
    (hrest : ∀ a, IsHelperless (next a)) : IsHelperless (result >>= next) := by
  intro cause hhelper hgiven
  cases result with
  | error other => exact hhelperless cause hhelper (by cases hgiven; rfl)
  | ok a => exact hrest a cause hhelper hgiven

theorem map {result : Except Cause α} (f : α → β) (hhelperless : IsHelperless result) :
    IsHelperless (result.map f) := by
  intro cause hhelper hgiven
  cases result with
  | error other => exact hhelperless cause hhelper (by cases hgiven; rfl)
  | ok a => cases hgiven

theorem follow (value : Option Json) (keys : List String) : IsHelperless (Template.follow value keys) := by
  induction keys generalizing value with
  | nil => exact ok value
  | cons key keys ih =>
    unfold Template.follow
    split
    · split
      · exact ih _
      · exact .error id
    · exact ih _
    · exact ih _

theorem locate (data : Json) (path : List String) : IsHelperless (Template.locate data path) :=
  (follow (some data) path).map _

theorem derive (value : Json) (keys : List String) : IsHelperless (Template.derive value keys) :=
  (follow (some value) keys).map _

theorem fromBlock (data : Json) (block : Option Block) (keys : List String) :
    IsHelperless (Scope.fromBlock data block keys) := by
  unfold Scope.fromBlock
  split
  · exact derive _ _
  · exact locate _ _
  · exact locate _ _

/-- Looking a path up fails for other reasons than names. -/
theorem lookup (scope : Scope) (data : Json) (path : Path) : IsHelperless (scope.lookup data path) := by
  unfold Scope.lookup
  split
  · split
    · exact ok _
    · exact ok _
  · exact fromBlock _ _ _
  · unfold Scope.lookupData
    split
    · exact locate _ _
    · split
      · exact derive _ _
      · exact locate _ _
      · exact fromBlock _ _ _

theorem argument (name parameter : String) (index : Nat) (arguments : List Json) :
    IsHelperless (Operator.argument name parameter index arguments) := by
  unfold Operator.argument
  split
  · exact ok _
  · exact .error id

theorem integerArgument (name parameter : String) (index : Nat) (arguments : List Json) :
    IsHelperless (Operator.integerArgument name parameter index arguments) := by
  refine (argument name parameter index arguments).bind fun value => ?_
  split
  · exact ok _
  · exact .error id

theorem apply (name : String) (operator : Operator) (arguments : List Json) :
    IsHelperless (operator.apply name arguments) := by
  cases operator with
  | unary value => exact (argument _ _ _ _).bind fun _ => ok _
  | binary value => exact (argument _ _ _ _).bind fun _ => (argument _ _ _ _).bind fun _ => ok _
  | comparison holds =>
    exact (integerArgument _ _ _ _).bind fun _ => (integerArgument _ _ _ _).bind fun _ => ok _

theorem includedScope (env : Environment) (name : String) (arguments : List Found)
    (named : List (String × Found)) (indent : Option String) (own : Branch) (scope : Scope) :
    IsHelperless (Template.includedScope env name arguments named indent own scope) := by
  refine bind ?_ fun _ => ok _
  unfold enterIncluded
  dsimp only
  split
  · exact ok _
  · exact (fromBlock _ _ _).bind fun _ => ok _

end IsHelperless

namespace Render

variable {x : Render α} {f : α → Render β} {scope : Scope} {name : String}

theorem fails_ofExcept {result : Except Cause α} {cause : Cause} :
    (ofExcept result).Fails scope cause ↔ result = .error cause := by
  cases result with
  | ok a =>
    constructor
    · rintro ⟨_, _, ⟨⟩, -⟩
    · intro hgiven
      cases hgiven
  | error cause =>
    constructor
    · rintro ⟨_, _, ⟨⟩, rfl⟩
      rfl
    · rintro ⟨⟩
      exact fails_failWith

theorem ofExcept_eq_ok {result : Except Cause α} {a : α} {after : Scope}
    (hgiven : ofExcept result scope = (.ok a, after)) : result = .ok a := by
  cases result with
  | ok b => cases hgiven; rfl
  | error cause => cases hgiven

/-- A computation that never fails because of a helper. -/
def IsHelperless (x : Render α) : Prop := ∀ scope cause, cause.IsOfHelper → ¬ x.Fails scope cause

theorem IsHelperless.pure (a : α) : IsHelperless (pure a : Render α) := by
  rintro scope cause - ⟨_, _, ⟨⟩, -⟩

theorem IsHelperless.get : IsHelperless (get : Render Scope) := by
  rintro scope cause - ⟨_, _, ⟨⟩, -⟩

theorem IsHelperless.modify (change : Scope → Scope) : IsHelperless (modify change : Render Unit) := by
  rintro scope cause - ⟨_, _, ⟨⟩, -⟩

theorem IsHelperless.failWith {cause : Cause} (hother : ¬ cause.IsOfHelper) :
    IsHelperless (failWith cause : Render α) := by
  intro scope _ hhelper hfails
  cases fails_failWith.unique hfails
  exact hother hhelper

theorem IsHelperless.ofExcept {result : Except Cause α} (hhelperless : Template.IsHelperless result) :
    IsHelperless (ofExcept result) :=
  fun _ cause hhelper hfails => hhelperless cause hhelper (fails_ofExcept.mp hfails)

theorem IsHelperless.bind (hhelperless : x.IsHelperless) (hrest : ∀ a, (f a).IsHelperless) :
    (x >>= f).IsHelperless := by
  intro scope cause hhelper hfails
  rcases hfails.of_bind with hfails | ⟨a, after, -, hfails⟩
  · exact hhelperless scope cause hhelper hfails
  · exact hrest a after cause hhelper hfails

end Render

theorem isHelperless_indented (text : String) : (indented text).IsHelperless := by
  refine Render.IsHelperless.get.bind fun scope => ?_
  split
  · exact .pure _
  · exact .pure _

theorem Path.isHelperless_eval (env : Environment) (path : Path) : (path.eval env).IsHelperless :=
  Render.IsHelperless.get.bind fun scope => .ofExcept (.lookup scope env.data path)

/-! ## Errors that helpers report -/

namespace Invocation

variable {env : Environment} {call : Invocation} {scope : Scope} {text : String} {cause : Cause}

/-- Carrying out the plan of a block helper comes, after some sections, to an error of its own. -/
inductive Reports (call : Invocation) : BlockPlan → Scope → String → Prop
  | now {text : String} {scope : Scope} : Reports call (.fail (.message text)) scope text
  | later {inverse : Bool} {data : Option Json} {next : Except Failure String → BlockPlan}
    {result : Except Failure String} {text : String} {scope after : Scope} :
    renderSection (if inverse then call.inverse else call.body) data scope = (.ok result, after) →
      Reports call (next result) after text → Reports call (.render inverse data next) scope text

theorem Reports.fails {plan : BlockPlan} (hreports : call.Reports plan scope text) :
    (call.carryOut plan).Fails scope (.helper call.name text) := by
  induction hreports with
  | now => exact Render.fails_failWith
  | later hrendered _ ih => exact .after hrendered ih

/-- A block helper that renders a section enters it, and goes on in the scope after it. -/
theorem exists_renderSection (call : Invocation) (useInverse : Bool) (data : Option Json)
    (next : Except Failure String → BlockPlan) (scope : Scope) : ∃ inner later,
      renderSection (if useInverse then call.inverse else call.body) data scope =
        (.ok (call.sectionOf useInverse inner).1, later) ∧
      (CallPlan.ofHelper call.name (.render useInverse data next)).Enters call.body call.inverse scope
        useInverse inner ∧
      ∀ other last, (CallPlan.ofHelper call.name (next (call.sectionOf useInverse inner).1)).Enters call.body
          call.inverse later other last →
        (CallPlan.ofHelper call.name (.render useInverse data next)).Enters call.body call.inverse scope
          other last := by
  cases data with
  | none =>
    refine ⟨scope, (call.sectionOf useInverse scope).2, ?_, .here, fun _ _ henters => .later henters⟩
    rw [renderSection_none]
    rfl
  | some data =>
    let inner := scope.push (.ofValue data)
    refine ⟨inner, (call.sectionOf useInverse inner).2.pop, ?_, .enter .here,
      fun _ _ henters => .enter (.later (.leave henters))⟩
    rw [renderSection_some]
    rfl

/-- A plan that passes failures on fails because a section does, or else with an error that it reports. -/
theorem reports_or_enters {plan : BlockPlan} (hpasses : plan.PassesOn)
    (hwords : plan.FailsOnlyWith fun error => ∃ text, error = .message text)
    (hfails : (call.carryOut plan).Fails scope cause) :
    (∃ text, cause = .helper call.name text ∧ call.Reports plan scope text) ∨
    ∃ useInverse inner, (CallPlan.ofHelper call.name plan).Enters call.body call.inverse scope useInverse inner ∧
      (call.sectionOf useInverse).Fails inner cause := by
  induction plan generalizing scope with
  | write text => obtain ⟨_, _, ⟨⟩, -⟩ := hfails
  | fail error =>
    obtain ⟨text, rfl⟩ := hwords
    exact .inl ⟨text, (Render.fails_failWith.unique hfails).symm, .now⟩
  | render useInverse data next ih =>
    obtain ⟨inner, later, hrendered, hentersHere, hgoesOn⟩ :=
      call.exists_renderSection useInverse data next scope
    have hfails := (Render.fails_congr (Render.bind_ok hrendered)).mp hfails
    rcases hran : call.sectionOf useInverse inner with ⟨failure | text, after⟩
    · -- the plan gives up with the failure of the section
      rw [hran] at hrendered hfails
      have hfails : (call.carryOut (next (.error failure))).Fails later cause := hfails
      rw [hpasses.1 failure] at hfails
      obtain ⟨_, _, ⟨⟩, rfl⟩ := hfails
      exact .inr ⟨useInverse, inner, hentersHere, failure, after, hran, rfl⟩
    · -- the plan goes on after the section, and so does the induction
      rw [hran] at hrendered hfails hgoesOn
      rcases ih (.ok text) (hpasses.2 text) (hwords text) hfails with
        ⟨own, hsame, hreports⟩ | ⟨other, last, henters, hfailed⟩
      · exact .inl ⟨own, hsame, .later hrendered hreports⟩
      · exact .inr ⟨other, last, hgoesOn other last henters, hfailed⟩

/-- A registered helper is called unless templates keep its name for themselves. -/
theorem fails_of_registered (hfree : call.name ∉ Environment.ownNames)
    (hregistered : env.isRegistered call.name = true) :
    (call.run env).Fails scope cause ↔ (call.registered env).Fails scope cause := by
  rw [run_of_notMem hfree, if_pos hregistered]
  exact Render.fails_bind_pure

theorem plan_of_planned {plan : BlockPlan} (hfree : call.name ∉ Environment.ownNames)
    (hplanned : call.helperPlan? env = some plan) : call.plan env = .ofHelper call.name plan := by
  rw [plan_of_notMem hfree, hplanned]

theorem registered_of_inline {helper : InlineHelper} (hinline : call.isBlock = false)
    (hfound : env.inline.lookup call.name = some helper) :
    call.registered env = .ofExcept
      ((helper env.data (call.arguments.map Found.value)).mapError (Cause.helper call.name)) := by
  unfold registered
  dsimp only
  rw [if_neg (Bool.eq_false_iff.mp hinline), hfound]
  dsimp only
  cases helper env.data (call.arguments.map Found.value) with
  | error text => rfl
  | ok text => rfl

end Invocation

/-- What goes wrong in a step itself: nothing resolves its name, or the helper that it calls reports an error. -/
inductive Step.Raises (env : Environment) : Step → Cause → Prop
  | unresolved {step : Step} : ¬ step.IsResolved env → Raises env step (.unresolved step.name)
  | inlineHelper {call : Invocation} {scope : Scope} {helper : InlineHelper} {text : String} :
    call.name ∉ Environment.ownNames → call.isBlock = false → env.inline.lookup call.name = some helper →
      helper env.data (call.arguments.map Found.value) = .error text →
        Raises env (.call call scope) (.helper call.name text)
  | blockHelper {call : Invocation} {scope : Scope} {helper : BlockHelper} {text : String} :
    call.name ∉ Environment.ownNames → call.isBlock = true → env.block.lookup call.name = some helper →
      call.Reports (helper (call.blockCall env)) scope text →
        Raises env (.call call scope) (.helper call.name text)

theorem Step.Raises.fails {env : Environment} {step : Step} {cause : Cause} (hraises : step.Raises env cause) :
    step.FailsWith env cause := by
  cases hraises with
  | unresolved hunresolved => exact step.fails_of_not_isResolved hunresolved
  | @inlineHelper call scope helper text hfree hinline hfound hreports =>
    have hregistered : env.isRegistered call.name = true := by
      rw [Environment.isRegistered, hfound, Option.isSome_some, Bool.true_or]
    refine (Invocation.fails_of_registered hfree hregistered).mpr ?_
    rw [Invocation.registered_of_inline hinline hfound, hreports]
    exact Render.fails_failWith
  | @blockHelper call scope helper text hfree hblock hfound hreports =>
    have hplanned : call.helperPlan? env = some (helper (call.blockCall env)) :=
      Invocation.helperPlan?_eq_some.mpr ⟨hblock, helper, hfound, rfl⟩
    refine (Invocation.fails_of_registered hfree (Invocation.isRegistered_of_helperPlan? hplanned)).mpr ?_
    rw [Invocation.registered_eq hplanned]
    exact hreports.fails

/-- The registered block helpers fail on their own only with messages. -/
def Environment.FailsInWords (env : Environment) : Prop :=
  ∀ ⦃name helper⦄, env.block.lookup name = some helper → ∀ tag,
    (helper tag).FailsOnlyWith fun error => ∃ text, error = .message text

theorem Environment.hasHelper_of_not_isRegistered {env : Environment} {isBlock : Bool} {name : String}
    (hunregistered : ¬ env.isRegistered name = true) : env.hasHelper isBlock name = false := by
  obtain ⟨hinline, hblock⟩ := Bool.or_eq_false_iff.mp (Bool.eq_false_iff.mpr hunregistered)
  cases isBlock with
  | true => exact hblock
  | false => exact hinline

namespace Invocation

variable {env : Environment} {call : Invocation} {scope : Scope} {cause : Cause}

theorem isHelperless_argument (name : String) (index : Nat) : (call.argument name index).IsHelperless := by
  unfold argument
  split
  · exact .pure _
  · exact .failWith id

theorem isHelperless_lookupValue : call.lookupValue.IsHelperless :=
  (isHelperless_argument "lookup" 0).bind fun _ => (isHelperless_argument "lookup" 1).bind fun _ => .pure _

theorem isHelperless_logged : call.logged.IsHelperless := by
  unfold logged
  dsimp only
  split
  · exact .pure _
  · exact .failWith id

/-- A call without sections that templates keep for themselves does not fail because of a helper. -/
theorem IsPlain.isHelperless_run (hplain : call.IsPlain env) (hown : call.name ∈ Environment.ownNames) :
    (call.run env).IsHelperless := by
  have hnoSection := hplain.1
  simp only [Environment.ownNames, sectionNames, List.mem_cons, List.not_mem_nil, or_false,
    not_or] at hown hnoSection
  obtain ⟨hif, hunless, heach, hwith, hraw⟩ := hnoSection
  have hcases : call.name = "lookup" ∨ call.name = "log" := by
    simpa only [hif, hunless, heach, hwith, hraw, false_or] using hown
  unfold run
  rcases hcases with hlookup | hlog
  · rw [hlookup]
    exact isHelperless_lookupValue.bind fun _ => .pure _
  · rw [hlog]
    exact isHelperless_logged.bind fun _ => .pure _

/-- A registered helper of the kind that the tag asks for, but without a plan, fails with what it reports. -/
theorem raises_of_registered (hfree : call.name ∉ Environment.ownNames)
    (hhelper : env.hasHelper call.isBlock call.name = true) (hunplanned : call.helperPlan? env = none)
    (hfails : (call.registered env).Fails scope cause) : (Step.call call scope).Raises env cause := by
  cases hkind : call.isBlock with
  | true =>
    rw [helperPlan?, if_pos hkind, Option.map_eq_none_iff] at hunplanned
    rw [Environment.hasHelper, if_pos hkind, hunplanned] at hhelper
    cases hhelper
  | false =>
    rw [Environment.hasHelper, if_neg (Bool.eq_false_iff.mp hkind)] at hhelper
    obtain ⟨inlineHelper, hfound⟩ := Option.isSome_iff_exists.mp hhelper
    rw [registered_of_inline hkind hfound, Render.fails_ofExcept] at hfails
    cases hgiven : inlineHelper env.data (call.arguments.map Found.value) with
    | ok text => rw [hgiven] at hfails; cases hfails
    | error text =>
      rw [hgiven] at hfails
      cases hfails
      exact .inlineHelper hfree hkind hfound hgiven

/-- A call that is answered, but not by a block helper, fails because of a helper only with what that reports. -/
theorem raises_of_unplanned (hfree : call.name ∉ Environment.ownNames) (hunplanned : call.helperPlan? env = none)
    (hanswered : env.answers call.isBlock call.name = true) (hhelper : cause.IsOfHelper)
    (hfails : (call.run env).Fails scope cause) : (Step.call call scope).Raises env cause := by
  have hforeign : Environment.ownNames.contains call.name = false := by simpa using hfree
  cases hregistered : env.isRegistered call.name with
  | true =>
    rw [Environment.answers, hforeign, hregistered, Bool.false_or, Bool.not_true, Bool.false_and,
      Bool.or_false] at hanswered
    exact raises_of_registered hfree hanswered hunplanned ((fails_of_registered hfree hregistered).mp hfails)
  | false =>
    have hunregistered := Bool.eq_false_iff.mp hregistered
    rw [Environment.answers, hforeign, Environment.hasHelper_of_not_isRegistered hunregistered,
      Bool.false_or, Bool.false_or, Bool.and_eq_true] at hanswered
    obtain ⟨op, hnamed⟩ := Option.isSome_iff_exists.mp hanswered.2
    rw [run_of_notMem hfree, if_neg hunregistered, hnamed] at hfails
    have hhelperless : (Render.ofExcept (op.apply call.name (call.arguments.map Found.value))).IsHelperless :=
      .ofExcept (.apply _ op _)
    exact absurd (Render.fails_bind_pure.mp hfails) (hhelperless scope cause hhelper)

/-- What templates keep for themselves fails because of a helper only if a section does. -/
theorem exists_enters_of_mem (hpasses : env.PassesOn) (hown : call.name ∈ Environment.ownNames)
    (hhelper : cause.IsOfHelper) (hfails : (call.run env).Fails scope cause) : ∃ useInverse inner,
      call.Enters env scope useInverse inner ∧ (call.sectionOf useInverse).Fails inner cause := by
  have hhelperless : (call.plan env).PassesOn fun cause => ¬ cause.IsOfHelper := by
    refine passesOn_plan (.of_all hpasses call) (fun _ => id) (fun hfree => absurd hown hfree) ?_
    intro hplain failure hgiven hhelper
    exact hplain.isHelperless_run hown .start failure.cause hhelper ⟨failure, _, Prod.ext hgiven rfl, rfl⟩
  rw [run_plan] at hfails
  exact hhelperless.exists_enters (fun hother => hother hhelper) hfails

/-- A call fails because of a helper only with what goes wrong in the call itself, or if a section fails so. -/
theorem raises_or_enters (hpasses : env.PassesOn) (hwords : env.FailsInWords) (hhelper : cause.IsOfHelper)
    (hfails : (call.run env).Fails scope cause) : (Step.call call scope).Raises env cause ∨
      ∃ useInverse inner, call.Enters env scope useInverse inner ∧
        (call.sectionOf useInverse).Fails inner cause := by
  by_cases hown : call.name ∈ Environment.ownNames
  · exact .inr (exists_enters_of_mem hpasses hown hhelper hfails)
  cases hplanned : call.helperPlan? env with
  | none =>
    cases hanswered : env.answers call.isBlock call.name with
    | false =>
      cases (fails_of_not_answers scope hanswered).unique hfails
      exact .inl (.unresolved (Bool.eq_false_iff.mp hanswered))
    | true => exact .inl (raises_of_unplanned hown hplanned hanswered hhelper hfails)
  | some plan =>
    obtain ⟨hblock, helper, hfound, rfl⟩ := helperPlan?_eq_some.mp hplanned
    rw [fails_of_registered hown (isRegistered_of_helperPlan? hplanned), registered_eq hplanned] at hfails
    rw [Enters, plan_of_planned hown hplanned]
    rcases reports_or_enters (hpasses hfound _) (hwords hfound _) hfails with ⟨text, rfl, hreports⟩ | hentered
    · exact .inl (.blockHelper hown hblock hfound hreports)
    · exact .inr hentered

theorem isHelperless_decorate (prepared : Invocation) (body : Branch) :
    (prepared.decorate body).IsHelperless := by
  unfold decorate
  split
  · split
    · exact .failWith id
    · split
      · exact .failWith id
      · exact .failWith id
      · exact .modify _
  · exact .failWith id

end Invocation

/-- What a tag names has no value because its name is not computed. -/
theorem Callee.fails_name {env : Environment} {callee : Callee} {scope : Scope} {cause : Cause}
    (hhelper : cause.IsOfHelper) (hfails : (callee.eval env).Fails scope cause) :
    (callee.name env).Fails scope cause := by
  cases callee with
  | word called => exact absurd hfails (Render.IsHelperless.pure _ scope cause hhelper)
  | path p => exact absurd hfails (p.isHelperless_eval env scope cause hhelper)
  | computed call => exact Render.fails_bind_pure.mpr (Render.fails_bind_pure.mp hfails)

namespace Evaluation

variable {env : Environment} {evaluation : Evaluation} {cause : Cause} {limit : Nat} {scope : Scope}

/-- A part fails for a cause, or a step goes wrong for it. -/
def Traces (env : Environment) (evaluation : Evaluation) (cause : Cause) : Prop :=
  (∃ part, evaluation.Starts env true part ∧ part.Fails env cause) ∨
    ∃ step, evaluation.Performs env step ∧ step.Raises env cause

theorem traces_expression {call : Call}
    (hhelper : cause.IsOfHelper)
    (hfails : Evaluation.Fails env ⟨limit, .element (.expression call), scope⟩ cause) :
    Evaluation.Traces env ⟨limit, .element (.expression call), scope⟩ cause := by
  rw [Evaluation.Fails, Task.run_expression] at hfails
  cases hbare : call.isBare with
  | false =>
    rw [Call.print_eq_of_not_bare env hbare] at hfails
    exact .inl ⟨_, .expression hbare, hfails⟩
  | true =>
    rw [Call.print_eq_of_bare env hbare] at hfails
    rcases hfails.of_bind with hfails | ⟨called, after, hnamed, hfails⟩
    · exact .inl ⟨_, .bareCallee hbare, hfails⟩
    cases hknown : env.knows called with
    | true =>
      rw [if_pos hknown] at hfails
      exact .inl ⟨_, .bareCall hbare hnamed hknown, hfails⟩
    | false =>
      rw [if_neg (Bool.eq_false_iff.mp hknown)] at hfails
      rcases hfails.of_bind with hfails | ⟨found, later, hevaluated, hfails⟩
      · exact .inl ⟨_, .bareValue hbare hnamed hknown, Callee.fails_name hhelper hfails⟩
      · split at hfails
        · cases Render.fails_failWith.unique hfails
          exact .inr ⟨_, .bare hbare hnamed hknown hevaluated, .unresolved fun hresolved => hresolved rfl⟩
        · exact absurd hfails (isHelperless_indented _ later cause hhelper)

theorem traces_inclusion {call : Call} {indent : Option String} {own : Branch}
    (hhelper : cause.IsOfHelper)
    (hfails : Evaluation.Fails env ⟨limit, .element (.inclusion call indent own), scope⟩ cause) :
    Evaluation.Traces env ⟨limit, .element (.inclusion call indent own), scope⟩ cause := by
  rw [Evaluation.Fails, Task.run_inclusion] at hfails
  rcases hfails.of_bind with hfails | ⟨prepared, after, hgiven, hfails⟩
  · exact .inl ⟨_, .inclusion, hfails⟩
  rcases hfails.of_bind with hfails | ⟨⟨⟩, later, hdeclared, hfails⟩
  · cases own with
    | absent => exact absurd hfails (Render.IsHelperless.pure _ after cause hhelper)
    | present body => exact .inl ⟨_, .declarations hgiven, hfails⟩
  rcases hfails.of_bind with hfails | ⟨current, last, ⟨⟩, hfails⟩
  · exact absurd hfails (Render.IsHelperless.get later cause hhelper)
  split at hfails
  · exact absurd hfails (Render.IsHelperless.failWith id later cause hhelper)
  next hother =>
    split at hfails
    · exact absurd hfails (Render.IsHelperless.failWith id later cause hhelper)
    next title body hfound =>
      rcases hfails.of_bind with hfails | ⟨inner, last, hentered, hfails⟩
      · exact absurd hfails (Render.IsHelperless.ofExcept (.includedScope _ _ _ _ _ _ _) later cause hhelper)
      have hfails : (expand env limit title body).Fails inner cause :=
        Render.fails_isolated.mp hfails
      cases limit with
      | zero => exact absurd hfails (Render.IsHelperless.failWith id inner cause hhelper)
      | succ limit =>
        exact .inl ⟨_, .included rfl hgiven hdeclared hother hfound (Render.ofExcept_eq_ok hentered), hfails⟩

theorem traces_of_fails (hpasses : env.PassesOn) (hwords : env.FailsInWords) (hhelper : cause.IsOfHelper)
    (hfails : evaluation.Fails env cause) : evaluation.Traces env cause := by
  obtain ⟨limit, task, scope⟩ := evaluation
  cases task with
  | callee callee =>
    cases callee with
    | word called => exact absurd hfails (Render.IsHelperless.pure _ scope cause hhelper)
    | path p => exact absurd hfails (Render.IsHelperless.pure _ scope cause hhelper)
    | computed call => exact .inl ⟨_, .computed, Call.fails_eval.mp (Render.fails_bind_pure.mp hfails)⟩
  | operands operands =>
    cases operands with
    | nil => exact absurd hfails (Render.IsHelperless.pure _ scope cause hhelper)
    | cons operand rest =>
      rcases Render.Fails.of_bind hfails with hfails | ⟨found, after, hevaluated, hfails⟩
      · cases operand with
        | literal value => exact absurd hfails (Render.IsHelperless.pure _ scope cause hhelper)
        | path p => exact absurd hfails (p.isHelperless_eval env scope cause hhelper)
        | call c => exact .inl ⟨_, .operand, Call.fails_eval.mp (Render.fails_bind_pure.mp hfails)⟩
      · exact .inl ⟨_, .operands hevaluated, Render.fails_bind_pure.mp hfails⟩
  | parts call =>
    rcases Render.Fails.of_bind hfails with hfails | ⟨called, after, hnamed, hfails⟩
    · exact .inl ⟨_, .callee, hfails⟩
    rcases Render.Fails.of_bind hfails with hfails | ⟨arguments, later, hevaluated, hfails⟩
    · exact .inl ⟨_, .arguments hnamed, hfails⟩
    rw [evalNamed_eq] at hfails
    exact .inl ⟨_, .named hnamed hevaluated, Render.fails_bind_pure.mp (Render.fails_bind_pure.mp hfails)⟩
  | tag call binders isBlock body inverse =>
    rcases (Call.fails_invoke.mp hfails).of_bind with hfails | ⟨prepared, after, hgiven, hfails⟩
    · exact .inl ⟨_, .parts, hfails⟩
    rcases Invocation.raises_or_enters hpasses hwords hhelper hfails with
      hraises | ⟨useInverse, inner, henters, hfails⟩
    · exact .inr ⟨_, .call hgiven, hraises⟩
    · refine .inl ⟨_, .section hgiven henters, ?_⟩
      cases useInverse with
      | true => exact hfails
      | false => exact hfails
  | «section» branch =>
    cases branch with
    | absent => exact absurd hfails (Render.IsHelperless.pure _ scope cause hhelper)
    | present body => exact .inl ⟨_, .anonymous, hfails⟩
  | element element =>
    cases element with
    | text content => exact absurd hfails (isHelperless_indented content scope cause hhelper)
    | expression call => exact traces_expression hhelper hfails
    | block call binders body inverse => exact .inl ⟨_, .block, hfails⟩
    | decorator call own =>
      rw [Evaluation.Fails, Task.run_decorator, Call.decorate_eq] at hfails
      rcases (Render.fails_bind_pure.mp hfails).of_bind with hfails | ⟨prepared, after, hgiven, hfails⟩
      · exact .inl ⟨_, .decorator, hfails⟩
      · exact absurd hfails (prepared.isHelperless_decorate own after cause hhelper)
    | inclusion call indent own => exact traces_inclusion hhelper hfails
  | body title body =>
    cases body with
    | nil => exact absurd hfails (Render.IsHelperless.pure _ scope cause hhelper)
    | cons position element rest =>
      rcases Render.Fails.of_bind hfails with hfails | ⟨text, after, hrendered, hfails⟩
      · exact .inl ⟨_, .first, Render.fails_within.mp hfails⟩
      · exact .inl ⟨_, .rest (Render.within_eq_ok.mp hrendered), Render.fails_bind_pure.mp hfails⟩
  | declarations body =>
    cases body with
    | nil => exact absurd hfails (Render.IsHelperless.pure _ scope cause hhelper)
    | cons position element rest =>
      rw [Evaluation.Fails, Task.run_declarations] at hfails
      rcases hfails.of_bind with hfails | ⟨⟨⟩, after, hdeclared, hfails⟩
      · rw [Render.fails_within] at hfails
        cases element with
        | decorator call own =>
          refine .inl ⟨_, .declaration, ?_⟩
          rw [Evaluation.Fails, Task.run_decorator]
          exact Render.fails_bind_pure.mpr hfails
        | _ => exact absurd hfails (Render.IsHelperless.pure _ scope cause hhelper)
      · exact .inl ⟨_, .declared (Render.within_eq_ok.mp hdeclared), hfails⟩

/-- An evaluation fails although none of its parts does. -/
def Raises (env : Environment) (evaluation : Evaluation) (cause : Cause) : Prop :=
  evaluation.Fails env cause ∧ ∀ part other, evaluation.Starts env true part → ¬ part.Fails env other

/-- Where failures are passed on, each arises in an evaluation that no part of it makes fail. -/
theorem exists_raises (hpasses : env.PassesOn) (hfails : evaluation.Fails env cause) :
    ∃ inner, evaluation.Encloses env inner ∧ inner.Raises env cause := by
  induction evaluation using Evaluation.induction env true with
  | step evaluation ih =>
    have hpassesHere : evaluation.PassesOn env := .of_all hpasses evaluation
    by_cases hdeeper : ∃ part other, evaluation.Starts env true part ∧ part.Fails env other
    · -- a part that fails ends the evaluation, so its cause is the same
      obtain ⟨part, other, hstarts, hfailsDeeper⟩ := hdeeper
      obtain rfl : other = cause := (hstarts.fails hpassesHere hfailsDeeper).unique hfails
      obtain ⟨inner, hencloses, hraises⟩ := ih part hstarts hfailsDeeper
      exact ⟨inner, .part hpassesHere hstarts hencloses, hraises⟩
    · exact ⟨evaluation, .refl evaluation, hfails, fun part other hstarts hfailsDeeper =>
        hdeeper ⟨part, other, hstarts, hfailsDeeper⟩⟩

/-- An error of a helper arises in a step that goes wrong. -/
theorem Raises.exists_step (hpasses : env.PassesOn) (hwords : env.FailsInWords) (hhelper : cause.IsOfHelper)
    (hraises : evaluation.Raises env cause) : ∃ step, evaluation.Performs env step ∧ step.Raises env cause := by
  rcases traces_of_fails hpasses hwords hhelper hraises.1 with ⟨part, hstarts, hfails⟩ | horigin
  · exact absurd hfails (hraises.2 part cause hstarts)
  · exact horigin

/-- What ends with an error of a helper has come to a step that goes wrong for it. -/
theorem exists_reached (hpasses : env.PassesOn) (hwords : env.FailsInWords) (hhelper : cause.IsOfHelper)
    (hfails : evaluation.Fails env cause) :
    ∃ step, evaluation.Reaches env true step ∧ step.Raises env cause := by
  obtain ⟨inner, hencloses, hraises⟩ := exists_raises hpasses hfails
  obtain ⟨step, hperforms, horigin⟩ := hraises.exists_step hpasses hwords hhelper
  exact ⟨step, hencloses.reaches hperforms, horigin⟩

end Evaluation

end Template

open Template

namespace Renderer

/-- The block helpers fail on their own only with messages. -/
def FailsInWords (renderer : Renderer) : Prop :=
  ∀ ⦃name helper⦄, renderer.block.get? name = some helper → ∀ tag,
    (helper tag).FailsOnlyWith fun error => ∃ text, error = .message text

theorem cause_of_errorOf {template helper : String} {failure : Failure}
    (htold : errorOf template failure = .unresolvedHelper helper template) :
    failure.cause = .unresolved helper := by
  unfold errorOf at htold
  split at htold
  next hunresolved => cases htold; exact hunresolved
  next => cases htold

/-- A name is reported as unresolved exactly if the rendering comes to a step that does not resolve it. -/
theorem renderBody_eq_unresolved_iff {renderer : Renderer} (hpasses : renderer.PassesOn)
    (hwords : renderer.FailsInWords) (template : String) (name : Option String) (body : Body) (data : Json)
    (unresolved : String) :
    renderer.renderBody template name body data = .error (.unresolvedHelper unresolved template) ↔
      ∃ step, renderer.Reaches name body data step ∧
        ¬ step.IsResolved (renderer.environment data) ∧ step.name = unresolved := by
  constructor
  · intro hgiven
    obtain ⟨failure, htold, hfails⟩ := exists_fails_of_renderBody hgiven
    have hpasses : (renderer.environment data).PassesOn := hpasses
    rw [cause_of_errorOf htold.symm] at hfails
    have hhelper : (Cause.unresolved unresolved).IsOfHelper := trivial
    obtain ⟨step, hreaches, hraises⟩ := Evaluation.exists_reached hpasses hwords hhelper hfails
    cases hraises with
    | unresolved hunresolved => exact ⟨step, hreaches, hunresolved, rfl⟩
  · rintro ⟨step, hreaches, hunresolved, rfl⟩
    exact renderBody_of_reaches hpasses template hreaches hunresolved

end Renderer

end EntityScaffold
