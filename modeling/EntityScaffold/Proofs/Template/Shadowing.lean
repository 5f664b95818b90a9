import EntityScaffold.Proofs.Template.Agreement
import EntityScaffold.Proofs.Template.Heredity
import EntityScaffold.Proofs.Template.Origin

/-! # Names that further helpers take

A helper is registered under a name for the kind of tag that calls it, but a name that any helper has is no
longer the name of a value or of an operator. So further helpers that no tag calls do not matter, except where a
template comes to a name alone or to an operator that one of them has taken; there it fails.
-/

namespace EntityScaffold

namespace Template

/-! ## Further helpers -/

/-- An environment has further inline and block helpers under some names, which may replace others. -/
structure Environment.Extends (env other : Environment) (inline block : List String) : Prop where
  data : env.data = other.data
  templates : env.templates = other.templates
  inlineLookup : ∀ name ∉ inline, other.inline.lookup name = env.inline.lookup name
  blockLookup : ∀ name ∉ block, other.block.lookup name = env.block.lookup name
  kept : ∀ name, env.isRegistered name = true → other.isRegistered name = true

/-- A tag of a name asks for one of some inline helpers, or as a block for one of some block helpers. -/
def AsksFor (inline block : List String) (isBlock : Bool) (name : String) : Prop :=
  if isBlock then name ∈ block else name ∈ inline

/-- A name of an operator that no helper has is that of a helper in another environment. -/
def Environment.LosesOperator (env other : Environment) (name : String) : Prop :=
  (Operator.named? name).isSome = true ∧ env.isRegistered name = false ∧ other.isRegistered name = true

/-- What templates keep for themselves does not ask for helpers. -/
theorem Invocation.run_eq_of_mem {call : Invocation} (hown : call.name ∈ Environment.ownNames)
    (env other : Environment) : call.run env = call.run other := by
  unfold run
  rcases Environment.mem_ownNames.1 hown with hown | hown | hown | hown | hown | hown | hown <;> rw [hown] <;> rfl

/-- Without a block helper, a call has only a result. -/
theorem Invocation.plan_of_unplanned {env : Environment} {call : Invocation}
    (hfree : call.name ∉ Environment.ownNames) (hunplanned : call.helperPlan? env = none) :
    call.plan env = .finish (call.run env).result := by
  rw [plan_of_notMem hfree, hunplanned]

/-- An operator is no call that templates keep for themselves. -/
theorem notMem_ownNames_of_isSome {name : String} (hoperator : (Operator.named? name).isSome = true) :
    name ∉ Environment.ownNames := by
  intro hown
  have hnoOperator : ∀ name ∈ Environment.ownNames, (Operator.named? name).isSome = false := by decide
  rw [hnoOperator name hown] at hoperator
  cases hoperator

namespace Environment.Extends

variable {env other : Environment} {inline block : List String} {call : Invocation}

/-- The table that a call asks says the same of its name. -/
theorem sameEntry (h : env.Extends other inline block) (hunused : ¬ AsksFor inline block call.isBlock call.name) :
    call.isBlock = true ∧ other.block.lookup call.name = env.block.lookup call.name ∨
    call.isBlock = false ∧ other.inline.lookup call.name = env.inline.lookup call.name := by
  unfold AsksFor at hunused
  cases hblock : call.isBlock with
  | true => exact .inl ⟨rfl, h.blockLookup _ (by rwa [if_pos hblock] at hunused)⟩
  | false => exact .inr ⟨rfl, h.inlineLookup _ (by simpa [hblock] using hunused)⟩

theorem hasHelper_eq (h : env.Extends other inline block)
    (hunused : ¬ AsksFor inline block call.isBlock call.name) :
    other.hasHelper call.isBlock call.name = env.hasHelper call.isBlock call.name := by
  rcases h.sameEntry hunused with ⟨hblock, hsame⟩ | ⟨hblock, hsame⟩ <;>
    simp only [hasHelper, hblock, hsame, if_true, Bool.false_eq_true, if_false]

theorem registered_eq (h : env.Extends other inline block)
    (hunused : ¬ AsksFor inline block call.isBlock call.name) :
    call.registered env = call.registered other := by
  rcases h.sameEntry hunused with ⟨hblock, hsame⟩ | ⟨hblock, hsame⟩ <;>
    simp only [Invocation.registered, hblock, hsame, h.data, if_true, Bool.false_eq_true, if_false]

theorem helperPlan?_eq (h : env.Extends other inline block)
    (hunused : ¬ AsksFor inline block call.isBlock call.name) :
    call.helperPlan? env = call.helperPlan? other := by
  rcases h.sameEntry hunused with ⟨hblock, hsame⟩ | ⟨hblock, hsame⟩ <;>
    simp only [Invocation.helperPlan?, Invocation.blockCall, hblock, hsame, h.data, if_true,
      Bool.false_eq_true, if_false]

/-- Names stay known. -/
theorem knows_eq_true (h : env.Extends other inline block) {name : String} (hknown : env.knows name = true) :
    other.knows name = true := by
  simp only [knows, Bool.or_eq_true] at hknown ⊢
  exact hknown.imp_left (Or.imp_right (h.kept name))

/-- A call that asks for none of the further helpers does the same, unless its operator is lost. -/
theorem run_eq (h : env.Extends other inline block) (hunused : ¬ AsksFor inline block call.isBlock call.name)
    (hvisible : ¬ env.LosesOperator other call.name) : call.run env = call.run other := by
  by_cases hown : call.name ∈ Environment.ownNames
  · exact Invocation.run_eq_of_mem hown env other
  · rw [Invocation.run_of_notMem hown, Invocation.run_of_notMem hown, ← h.registered_eq hunused]
    cases hbefore : env.isRegistered call.name with
    | true => rw [h.kept _ hbefore]
    | false =>
      cases hafter : other.isRegistered call.name with
      | false => rfl
      | true =>
        -- There is no operator, and no helper of the kind. Either way the name is unresolved.
        have hnoOperator : Operator.named? call.name = none :=
          Option.not_isSome_iff_eq_none.mp fun hoperator => hvisible ⟨hoperator, hbefore, hafter⟩
        rw [hnoOperator, Invocation.registered_of_not_hasHelper
          (hasHelper_of_not_isRegistered (Bool.eq_false_iff.mp hbefore))]
        rfl

theorem plan_eq (h : env.Extends other inline block) (hunused : ¬ AsksFor inline block call.isBlock call.name)
    (hvisible : ¬ env.LosesOperator other call.name) : call.plan env = call.plan other := by
  simp only [Invocation.plan, h.run_eq hunused hvisible, h.helperPlan?_eq hunused]

/-- An operator renders no section. -/
theorem plan_eq_of_enters (h : env.Extends other inline block)
    (hunused : ¬ AsksFor inline block call.isBlock call.name) {scope inner : Scope} {useInverse : Bool}
    (henters : call.Enters env scope useInverse inner) : call.plan env = call.plan other := by
  refine h.plan_eq hunused fun hlost => ?_
  obtain ⟨hoperator, hunregistered, -⟩ := hlost
  have hunplanned : call.helperPlan? env = none := by
    cases hplanned : call.helperPlan? env with
    | none => rfl
    | some plan => rw [Invocation.isRegistered_of_helperPlan? hplanned] at hunregistered; cases hunregistered
  rw [Invocation.Enters, Invocation.plan_of_unplanned (notMem_ownNames_of_isSome hoperator) hunplanned] at henters
  cases henters

/-- A call of a lost operator fails: its name is that of a helper, but not of one for its tag. -/
theorem fails_of_losesOperator (h : env.Extends other inline block) (call : Invocation)
    (hunused : ¬ AsksFor inline block call.isBlock call.name) (hlost : env.LosesOperator other call.name)
    (scope : Scope) : (call.run other).Fails scope (.unresolved call.name) := by
  obtain ⟨hoperator, hbefore, hafter⟩ := hlost
  have hown : ownNames.contains call.name = false := by simpa using notMem_ownNames_of_isSome hoperator
  refine call.fails_of_not_answers scope ?_
  rw [answers, hown, h.hasHelper_eq hunused,
    hasHelper_of_not_isRegistered (Bool.eq_false_iff.mp hbefore), hafter]
  rfl

end Environment.Extends

/-! ## Names alone -/

section

variable {env other : Environment} {inline block : List String} {call : Call} {name : String}
  {scope after : Scope}

/-- A name alone that is called in vain is unresolved. -/
theorem Call.invoke_of_bare (hbare : call.isBare = true)
    (hnamed : call.callee.name env scope = (.ok name, after)) (hsilent : env.answers false name = false) :
    call.invoke env .none false none none scope = (.error (.of (.unresolved name)), after) := by
  obtain ⟨hnoArguments, hnoNamed⟩ := (Bool.and_eq_true _ _).mp hbare
  have hprepared : call.prepare env scope = (.ok ⟨name, [], [], .none, false, none, none⟩, after) := by
    rw [Call.prepare, List.isEmpty_iff.mp hnoArguments, List.isEmpty_iff.mp hnoNamed]
    exact Render.bind_ok hnamed
  have hsilent : env.answers (Invocation.isBlock ⟨name, [], [], .none, false, none, none⟩) name = false := hsilent
  rw [Call.invoke_eq, Call.outcome]
  refine Render.bind_error ((Render.bind_ok hprepared).trans ?_)
  exact congrFun (Invocation.run_of_not_answers hsilent) after

/-- What only the extended environment knows is a name that only it has a helper under. -/
theorem Environment.registered_of_known (hunknown : env.knows name = false) (hknown : other.knows name = true) :
    env.isRegistered name = false ∧ other.isRegistered name = true := by
  simp only [knows, Bool.or_eq_false_iff] at hunknown
  obtain ⟨⟨⟨hown, hmissing⟩, hunregistered⟩, hoperator⟩ := hunknown
  exact ⟨hunregistered, by simpa only [knows, hown, hmissing, hoperator, Bool.false_or, Bool.or_false] using hknown⟩

namespace Environment.Extends

theorem knows_of_ne (h : env.Extends other inline block) (hne : env.knows name ≠ other.knows name) :
    env.knows name = false ∧ other.knows name = true := by
  cases hunknown : env.knows name with
  | false => exact ⟨rfl, by simpa [hunknown] using hne.symm⟩
  | true => exact absurd (hunknown.trans (h.knows_eq_true hunknown).symm) hne

/-- A name that only further helpers are registered under is one of theirs. -/
theorem mem_of_registered (h : env.Extends other inline block) (hbefore : env.isRegistered name = false)
    (hafter : other.isRegistered name = true) : name ∈ inline ++ block := by
  refine Classical.byContradiction fun hforeign => ?_
  obtain ⟨hnoInline, hnoBlock⟩ := not_or.mp (mt List.mem_append.mpr hforeign)
  rw [isRegistered, h.inlineLookup name hnoInline, h.blockLookup name hnoBlock, ← isRegistered, hbefore] at hafter
  cases hafter

/-- A name that only further helpers make known is that of a block helper. -/
theorem not_answers (h : env.Extends other inline block) (hforeign : name ∉ inline)
    (hunknown : env.knows name = false) (hknown : other.knows name = true) :
    other.answers false name = false := by
  obtain ⟨hbefore, hregistered⟩ := registered_of_known hunknown hknown
  have hown : ownNames.contains name = false := by
    simp only [knows, Bool.or_eq_false_iff] at hunknown
    exact hunknown.1.1.1
  have hhelper : other.hasHelper false name = false := by
    rw [hasHelper, if_neg Bool.false_ne_true, h.inlineLookup name hforeign]
    exact (Bool.or_eq_false_iff.mp hbefore).1
  rw [answers, hown, hhelper, hregistered]
  rfl

end Environment.Extends

end

/-! ## What is used and what is shadowed -/

namespace Evaluation

/-- An evaluation asks for one of the further helpers: a call for one of its kind, a name alone for an inline
one. -/
inductive Uses (env : Environment) (inline block : List String) : Evaluation → Prop
  | call {limit : Nat} {call : Call} {binders : Binders} {isBlock : Bool} {body inverse : Branch}
    {prepared : Invocation} {scope after : Scope} : call.prepare env scope = (.ok prepared, after) →
      AsksFor inline block isBlock prepared.name →
        Uses env inline block ⟨limit, .tag call binders isBlock body inverse, scope⟩
  | bare {limit : Nat} {call : Call} {name : String} {scope after : Scope} : call.isBare = true →
    call.callee.name env scope = (.ok name, after) → name ∈ inline →
      Uses env inline block ⟨limit, .element (.expression call), scope⟩

/-- An evaluation calls an operator, or has a value by a name alone, and the other environment has a helper of
that name. -/
inductive Shadowed (env other : Environment) : Evaluation → String → Prop
  | operator {limit : Nat} {call : Call} {binders : Binders} {isBlock : Bool} {body inverse : Branch}
    {prepared : Invocation} {scope after : Scope} : call.prepare env scope = (.ok prepared, after) →
      env.LosesOperator other prepared.name →
        Shadowed env other ⟨limit, .tag call binders isBlock body inverse, scope⟩ prepared.name
  | value {limit : Nat} {call : Call} {name : String} {scope after : Scope} : call.isBare = true →
    call.callee.name env scope = (.ok name, after) → env.knows name = false → other.knows name = true →
      (call.callee.eval env after).1 ≠ .ok .missing →
        Shadowed env other ⟨limit, .element (.expression call), scope⟩ name

variable {env other : Environment} {inline block : List String} {evaluation part : Evaluation} {name : String}

/-- A name alone that only further helpers make known cannot be called. -/
theorem print_of_further (h : env.Extends other inline block) {call : Call} {scope : Scope}
    (hbare : call.isBare = true) (hnamed : call.callee.name other scope = (.ok name, scope))
    (hforeign : name ∉ inline) (hunknown : env.knows name = false) (hknown : other.knows name = true) :
    call.print other scope = (.error (.of (.unresolved name)), scope) := by
  rw [Call.print_eq_of_bare other hbare, Render.bind_ok hnamed, if_pos hknown]
  exact Call.invoke_of_bare hbare hnamed (h.not_answers hforeign hunknown hknown)

/-- A name alone without a value is unresolved, whether it is known or not. -/
theorem sameIn_of_missing (h : env.Extends other inline block) {limit : Nat} {call : Call} {scope after : Scope}
    (hsame : SameIn env other 0 ⟨limit, .callee call.callee, scope⟩) (hbare : call.isBare = true)
    (hnamed : call.callee.name env scope = (.ok name, after)) (hforeign : name ∉ inline)
    (hunknown : env.knows name = false) (hknown : other.knows name = true)
    (hmissing : (call.callee.eval env after).1 = .ok .missing) :
    SameIn env other 0 ⟨limit, .element (.expression call), scope⟩ := by
  cases (Callee.leavesScope_name env call.callee).eq hnamed
  have hevaluated : call.callee.eval env scope = (.ok .missing, scope) :=
    Prod.ext hmissing (Callee.leavesScope_eval env call.callee scope)
  change Task.run env limit _ scope = Task.run other limit _ scope
  rw [Task.run_expression, Task.run_expression, print_of_further h hbare (hsame.1 ▸ hnamed) hforeign hunknown hknown,
    Call.print_eq_of_bare env hbare, Render.bind_ok hnamed, if_neg (Bool.eq_false_iff.mp hunknown),
    Render.bind_ok hevaluated]
  rfl

/-- Where the parts of an evaluation do the same and none of the further helpers is used, it does the same, or
something in it is shadowed. -/
theorem sameIn_or_shadowed (h : env.Extends other inline block)
    (hparts : ∀ part, evaluation.Starts env true part → part.SameIn env other 0)
    (hunused : ¬ evaluation.Uses env inline block) :
    evaluation.SameIn env other 0 ∨ ∃ name, evaluation.Shadowed env other name := by
  by_cases hagree : ∀ query, evaluation.Asks env query → query.Agrees env other
  · exact .inl (sameIn_of_parts h.data hparts hagree fun _ => rfl)
  · obtain ⟨query, hgiven⟩ := Classical.not_forall.mp hagree
    obtain ⟨hasks, hdisagrees⟩ := Classical.not_imp.mp hgiven
    clear hgiven
    cases hasks with
    | find hgiven hdeclared hcurrent =>
      refine absurd ?_ hdisagrees
      simp only [Query.Agrees, findIncluded, h.templates]
    | call hgiven =>
      refine .inr ⟨_, .operator hgiven (Classical.byContradiction fun hvisible => hdisagrees ?_)⟩
      exact h.plan_eq (fun hasks => hunused (.call hgiven hasks)) hvisible
    | @knows limit call name scope after hbare hnamed =>
      have hforeign : name ∉ inline := fun hmem => hunused (.bare hbare hnamed hmem)
      obtain ⟨hunknown, hknown⟩ := h.knows_of_ne hdisagrees
      by_cases hmissing : (call.callee.eval env after).1 = .ok .missing
      · exact .inl (sameIn_of_missing h (hparts _ (.bareCallee hbare)) hbare hnamed hforeign hunknown hknown hmissing)
      · exact .inr ⟨name, .value hbare hnamed hunknown hknown hmissing⟩

/-- What is shadowed fails, since a helper of its name does not answer it. -/
theorem Shadowed.fails (h : env.Extends other inline block)
    (hparts : ∀ part, evaluation.Starts env true part → part.SameIn env other 0)
    (hunused : ¬ evaluation.Uses env inline block) (hshadowed : evaluation.Shadowed env other name) :
    evaluation.Fails other (.unresolved name) := by
  cases hshadowed with
  | @operator limit call binders isBlock body inverse prepared scope after hgiven hlost =>
    have hsame : call.prepare env scope = call.prepare other scope := hparts _ .parts
    have hforeign : ¬ AsksFor inline block isBlock prepared.name := fun hasks => hunused (.call hgiven hasks)
    refine Call.fails_invoke.mpr (.after (hsame ▸ hgiven) ?_)
    exact h.fails_of_losesOperator (prepared.ofTag other limit binders isBlock body inverse) hforeign hlost after
  | @value limit call name scope after hbare hnamed hunknown hknown hvalue =>
    cases (Callee.leavesScope_name env call.callee).eq hnamed
    have hforeign : name ∉ inline := fun hmem => hunused (.bare hbare hnamed hmem)
    have hsame : call.callee.name env scope = call.callee.name other scope := (hparts _ (.bareCallee hbare)).1
    rw [Evaluation.Fails, Task.run_expression]
    exact ⟨_, scope, print_of_further h hbare (hsame ▸ hnamed) hforeign hunknown hknown, rfl⟩

/-! ## What both environments come to -/

end Evaluation

/-- A plan renders the same sections in the same scopes until one of them does something else. -/
theorem CallPlan.Enters.transfer {plan : CallPlan} {body inverse body' inverse' : Option (Render String)}
    {useInverse : Bool} {scope inner : Scope} (henters : plan.Enters body inverse scope useInverse inner) :
    plan.Enters body' inverse' scope useInverse inner ∨ ∃ useInverse inner,
      plan.Enters body inverse scope useInverse inner ∧ plan.Enters body' inverse' scope useInverse inner ∧
        Invocation.textOf (if useInverse then inverse else body) inner ≠
          Invocation.textOf (if useInverse then inverse' else body') inner := by
  induction henters with
  | enter _ ih =>
    rcases ih with henters | ⟨useInverse, inner, henters, henters', hdiffers⟩
    · exact .inl (.enter henters)
    · exact .inr ⟨useInverse, inner, .enter henters, .enter henters', hdiffers⟩
  | move _ ih =>
    rcases ih with henters | ⟨useInverse, inner, henters, henters', hdiffers⟩
    · exact .inl (.move henters)
    · exact .inr ⟨useInverse, inner, .move henters, .move henters', hdiffers⟩
  | leave _ ih =>
    rcases ih with henters | ⟨useInverse, inner, henters, henters', hdiffers⟩
    · exact .inl (.leave henters)
    · exact .inr ⟨useInverse, inner, .leave henters, .leave henters', hdiffers⟩
  | here => exact .inl .here
  | @later next first useInverse scope inner hentered ih =>
    by_cases hsame : Invocation.textOf (if first then inverse else body) scope =
        Invocation.textOf (if first then inverse' else body') scope
    · rcases ih with henters | ⟨useInverse, inner, henters, henters', hdiffers⟩
      · exact .inl (.later (hsame ▸ henters))
      · exact .inr ⟨useInverse, inner, .later henters, .later (hsame ▸ henters'), hdiffers⟩
    · exact .inr ⟨first, scope, .here, .here, hsame⟩

namespace Evaluation

variable {env other : Environment} {inline block : List String} {evaluation part : Evaluation} {name : String}

/-- Both environments come to a part that is not the same in them. -/
def Diverges (env other : Environment) (evaluation : Evaluation) : Prop :=
  ∃ part, evaluation.Starts env true part ∧ evaluation.Starts other true part ∧ ¬ part.SameIn env other 0

/-- A tag renders the same sections in both environments until one of them does something else. -/
theorem Starts.transfer_section (h : env.Extends other inline block) {limit : Nat} {call : Call}
    {binders : Binders} {isBlock useInverse : Bool} {body inverse : Branch} {prepared : Invocation}
    {scope after inner : Scope}
    (hunused : ¬ Evaluation.Uses env inline block ⟨limit, .tag call binders isBlock body inverse, scope⟩)
    (hsame : call.prepare env scope = call.prepare other scope)
    (hgiven : call.prepare env scope = (.ok prepared, after))
    (henters : (prepared.ofTag env limit binders isBlock body inverse).Enters env after useInverse inner) :
    Starts other true ⟨limit, .tag call binders isBlock body inverse, scope⟩
        ⟨limit, .section (if useInverse then inverse else body), inner⟩ ∨
      Diverges env other ⟨limit, .tag call binders isBlock body inverse, scope⟩ := by
  have htag : (prepared.ofTag env limit binders isBlock body inverse).SameTag
      (prepared.ofTag other limit binders isBlock body inverse) :=
    .withSections prepared (isSome_render body ..) (isSome_render inverse ..)
  have hplanned : (prepared.ofTag other limit binders isBlock body inverse).plan other =
      (prepared.ofTag env limit binders isBlock body inverse).plan env :=
    (htag.plan_eq other).symm.trans (h.plan_eq_of_enters (fun hasks => hunused (.call hgiven hasks)) henters).symm
  have hentersOther {useInverse : Bool} {inner : Scope}
      (henters : ((prepared.ofTag env limit binders isBlock body inverse).plan env).Enters
        (body.render other (expand other limit)) (inverse.render other (expand other limit)) after useInverse
        inner) : (prepared.ofTag other limit binders isBlock body inverse).Enters other after useInverse inner := by
    rw [Invocation.Enters, hplanned]
    exact henters
  rcases henters.transfer with henters' | ⟨useInverse', inner', henters, henters', hdiffers⟩
  · exact .inl (.section (hsame ▸ hgiven) (hentersOther henters'))
  · refine .inr ⟨_, .section hgiven henters, .section (hsame ▸ hgiven) (hentersOther henters'), fun hsame => ?_⟩
    refine hdiffers ?_
    cases useInverse' with
    | true => exact hsame
    | false => exact hsame

/-- What an evaluation comes to in one environment it comes to in the other one, too, unless before that both
come to something that is not the same in them. -/
theorem Starts.transfer (h : env.Extends other inline block) (hunused : ¬ evaluation.Uses env inline block)
    (hstarts : evaluation.Starts env true part) :
    evaluation.Starts other true part ∨ evaluation.Diverges env other := by
  cases hstarts with
  | computed => exact .inl .computed
  | operand => exact .inl .operand
  | @operands limit operand rest found scope after hevaluated =>
    cases operand with
    | literal value => exact .inl (.operands hevaluated)
    | path p =>
      have hsame : p.eval env = p.eval other := by simp only [Path.eval, h.data]
      exact .inl (.operands ((congrFun hsame scope).symm.trans hevaluated))
    | call c =>
      by_cases hsame : SameIn env other 0 ⟨limit, .tag c .none false .absent .absent, scope⟩
      · have hevaluated' : Operand.eval other (.call c) scope = (.ok found, after) :=
          (Render.bind_congr_at hsame.eval_eq fun _ _ _ => rfl).symm.trans hevaluated
        exact .inl (.operands hevaluated')
      · exact .inr ⟨_, .operand, .operand, hsame⟩
  | callee => exact .inl .callee
  | @arguments limit call name scope after hnamed =>
    by_cases hsame : SameIn env other 0 ⟨limit, .callee call.callee, scope⟩
    · exact .inl (.arguments (hsame.1 ▸ hnamed))
    · exact .inr ⟨_, .callee, .callee, hsame⟩
  | @named limit call name arguments scope after later hnamed hevaluated =>
    by_cases hsame : SameIn env other 0 ⟨limit, .callee call.callee, scope⟩
    · have hnamed' : call.callee.name other scope = (.ok name, after) := hsame.1 ▸ hnamed
      by_cases hsame : SameIn env other 0 ⟨limit, .operands call.arguments, after⟩
      · have hevaluated' : evalArguments other call.arguments after = (.ok arguments, later) := by
          rw [← hevaluated]
          exact hsame.symm
        exact .inl (.named hnamed' hevaluated')
      · exact .inr ⟨_, .arguments hnamed, .arguments hnamed', hsame⟩
    · exact .inr ⟨_, .callee, .callee, hsame⟩
  | parts => exact .inl .parts
  | @«section» limit call _ _ _ _ _ _ scope _ _ hgiven henters =>
    by_cases hsame : SameIn env other 0 ⟨limit, .parts call, scope⟩
    · exact Starts.transfer_section h hunused hsame hgiven henters
    · exact .inr ⟨_, .parts, .parts, hsame⟩
  | anonymous => exact .inl .anonymous
  | bareCallee hbare => exact .inl (.bareCallee hbare)
  | @bareCall limit call name scope after hbare hnamed hknown =>
    by_cases hsame : SameIn env other 0 ⟨limit, .callee call.callee, scope⟩
    · exact .inl (.bareCall hbare (hsame.1 ▸ hnamed) (h.knows_eq_true hknown))
    · exact .inr ⟨_, .bareCallee hbare, .bareCallee hbare, hsame⟩
  | bareValue hbare hnamed hunknown =>
    -- The name has left the scope, so its value is that of the same part again.
    cases (Callee.leavesScope_name env _).eq hnamed
    exact .inl (.bareCallee hbare)
  | expression hbare => exact .inl (.expression hbare)
  | block => exact .inl .block
  | decorator => exact .inl .decorator
  | inclusion => exact .inl .inclusion
  | @declarations limit call indent body prepared scope after hgiven =>
    by_cases hsame : SameIn env other 0 ⟨limit, .parts call, scope⟩
    · have hgiven' : call.prepare other scope = (.ok prepared, after) := hsame.symm.trans hgiven
      exact .inl (.declarations hgiven')
    · exact .inr ⟨_, .inclusion, .inclusion, hsame⟩
  | @included limit call indent own prepared title body scope after later inner _ hgiven hdeclared hcurrent hfound
      hentered =>
    by_cases hsame : SameIn env other 0 ⟨limit + 1, .parts call, scope⟩
    · have hgiven' : call.prepare other scope = (.ok prepared, after) := hsame.symm.trans hgiven
      have hfound' : findIncluded other later prepared.name own = some (title, body) := by
        simpa only [findIncluded, h.templates] using hfound
      have hentered' : includedScope other prepared.name prepared.arguments prepared.named indent own later =
          .ok inner := by simpa only [includedScope, h.data] using hentered
      cases own with
      | absent => exact .inl (.included rfl hgiven' hdeclared hcurrent hfound' hentered')
      | present own =>
        by_cases hsame : SameIn env other 0 ⟨limit + 1, .declarations own, after⟩
        · have hdeclared' : own.declare other after = (.ok (), later) := hsame.symm.trans hdeclared
          exact .inl (.included rfl hgiven' hdeclared' hcurrent hfound' hentered')
        · exact .inr ⟨_, .declarations hgiven, .declarations hgiven', hsame⟩
    · exact .inr ⟨_, .inclusion, .inclusion, hsame⟩
  | declaration => exact .inl .declaration
  | @declared limit position element rest scope after hdeclared =>
    cases element with
    | decorator call own =>
      by_cases hsame : SameIn env other 0 ⟨limit, .element (.decorator call own), scope⟩
      · change Task.run env limit _ scope = Task.run other limit _ scope at hsame
        rw [Task.run_decorator, Task.run_decorator] at hsame
        exact .inl (.declared ((Render.congr_of_bind_pure hsame).symm.trans hdeclared))
      · exact .inr ⟨_, .declaration, .declaration, hsame⟩
    | _ => exact .inl (.declared hdeclared)
  | first => exact .inl .first
  | @rest limit name position element rest text scope after hrendered =>
    by_cases hsame : SameIn env other 0 ⟨limit, .element element, scope⟩
    · have hrendered' : element.render other (expand other limit) scope = (.ok text, after) := by
        rw [← hrendered]
        exact hsame.symm
      exact .inl (.rest hrendered')
    · exact .inr ⟨_, .first, .first, hsame⟩

/-! ## Evaluations that use none of the further helpers -/

/-- Where nothing is shadowed, further helpers that are not used do not matter. -/
theorem sameIn_of_visible (h : env.Extends other inline block)
    (hunused : ∀ part, evaluation.ComesTo env part → ¬ part.Uses env inline block)
    (hvisible : ∀ part name, evaluation.ComesTo env part → ¬ part.Shadowed env other name) :
    evaluation.SameIn env other 0 := by
  induction evaluation using Evaluation.induction env true with
  | step evaluation ih =>
    have hparts (part : Evaluation) (hstarts : evaluation.Starts env true part) : part.SameIn env other 0 :=
      ih part hstarts (fun last hcomes => hunused last (.head hstarts hcomes)) fun last name hcomes =>
        hvisible last name (.head hstarts hcomes)
    rcases sameIn_or_shadowed h hparts (hunused evaluation .refl) with hsame | ⟨name, hshadowed⟩
    · exact hsame
    · exact absurd hshadowed (hvisible evaluation name .refl)

/-- An evaluation fails in the other environment for a name that is shadowed in it. -/
def FailsShadowed (env other : Environment) (evaluation : Evaluation) : Prop :=
  ∃ part name, evaluation.ComesTo env part ∧ part.Shadowed env other name ∧
    evaluation.Fails other (.unresolved name)

theorem Starts.failsShadowed (hpasses : other.PassesOn) (hstarts : evaluation.Starts env true part)
    (hstarts' : evaluation.Starts other true part) (hfails : part.FailsShadowed env other) :
    evaluation.FailsShadowed env other := by
  obtain ⟨last, name, hcomes, hshadowed, hfails⟩ := hfails
  exact ⟨last, name, .head hstarts hcomes, hshadowed, hstarts'.fails (.of_all hpasses _) hfails⟩

/-- Where failures are passed on, an evaluation does the same in both environments, or else it fails in the other
one for a name that is shadowed. -/
theorem sameIn_or_failsShadowed (h : env.Extends other inline block) (hpasses : other.PassesOn)
    (hunused : ∀ part, evaluation.ComesTo env part → ¬ part.Uses env inline block) :
    (evaluation.SameIn env other 0 ∧ ∀ part name, evaluation.ComesTo env part → ¬ part.Shadowed env other name) ∨
      evaluation.FailsShadowed env other := by
  induction evaluation using Evaluation.induction env true with
  | step evaluation ih =>
    have hparts (part : Evaluation) (hstarts : evaluation.Starts env true part) :=
      ih part hstarts fun last hcomes => hunused last (.head hstarts hcomes)
    have hhere := hunused evaluation .refl
    by_cases hspoiled : ∃ part, evaluation.Starts env true part ∧ part.FailsShadowed env other
    · -- The other environment comes to that part, too, or to another one that fails there.
      obtain ⟨part, hstarts, hfails⟩ := hspoiled
      rcases hstarts.transfer h hhere with hstarts' | ⟨earlier, hstarts, hstarts', hdiffers⟩
      · exact .inr (hstarts.failsShadowed hpasses hstarts' hfails)
      · have hfails := (hparts earlier hstarts).resolve_left fun hsame => hdiffers hsame.1
        exact .inr (hstarts.failsShadowed hpasses hstarts' hfails)
    · have hclean (part : Evaluation) (hstarts : evaluation.Starts env true part) :=
        (hparts part hstarts).resolve_right fun hfails => hspoiled ⟨part, hstarts, hfails⟩
      have hsame (part : Evaluation) (hstarts : evaluation.Starts env true part) := (hclean part hstarts).1
      by_cases hshadowed : ∃ name, evaluation.Shadowed env other name
      · obtain ⟨name, hshadowed⟩ := hshadowed
        exact .inr ⟨evaluation, name, .refl, hshadowed, hshadowed.fails h hsame hhere⟩
      · refine .inl ⟨(sameIn_or_shadowed h hsame hhere).resolve_right hshadowed, fun last name hcomes => ?_⟩
        rcases Relation.ReflTransGen.cases_head hcomes with rfl | ⟨part, hstarts, hcomes⟩
        · exact fun hshadows => hshadowed ⟨name, hshadows⟩
        · exact (hclean part hstarts).2 last name hcomes

end Evaluation

end Template

end EntityScaffold
