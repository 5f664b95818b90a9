import EntityScaffold.Proofs.Template.Failing
import EntityScaffold.Renderer

/-! # Unresolved names

A call is answered by what templates bring along, or by a helper of the kind that its tag asks for; a name
that is no call stands for a value. An evaluation that comes to a call or a name without either ends with
the error that says so.
-/

namespace EntityScaffold

namespace Template

/-- Templates bring along what is called by this name. -/
def isBuiltIn (name : String) : Bool :=
  Environment.ownNames.contains name || (Operator.named? name).isSome

namespace Environment

variable {env : Environment} {isBlock : Bool} {name : String}

/-- Whether a helper of the kind that a tag asks for is registered under a name. -/
def hasHelper (env : Environment) (isBlock : Bool) (name : String) : Bool :=
  if isBlock then (env.block.lookup name).isSome else (env.inline.lookup name).isSome

/-- Whether a call is answered. An operator answers unless a helper of either kind has its name. -/
def answers (env : Environment) (isBlock : Bool) (name : String) : Bool :=
  ownNames.contains name || env.hasHelper isBlock name ||
    (!env.isRegistered name && (Operator.named? name).isSome)

theorem not_answers_of_not_isBuiltIn (hforeign : isBuiltIn name = false)
    (hhelper : env.hasHelper isBlock name = false) : env.answers isBlock name = false := by
  obtain ⟨hown, hoperator⟩ := Bool.or_eq_false_iff.mp hforeign
  rw [answers, hown, hhelper, hoperator, Bool.and_false]
  rfl

end Environment

namespace Step

/-- Something answers the call, or the name stands for a value. -/
def IsResolved (env : Environment) : Step → Prop
  | .call invocation _ => env.answers invocation.isBlock invocation.name = true
  | .bare _ found => found ≠ .missing
  | .define _ _ _ => True

/-- The name that is to be resolved. -/
def name : Step → String
  | .call invocation _ => invocation.name
  | .bare name _ => name
  | .define title _ _ => title

end Step

/-- Without a helper of the kind that the tag asks for, a registered name is of no use. -/
theorem Invocation.registered_of_not_hasHelper {env : Environment} {call : Invocation}
    (hhelper : env.hasHelper call.isBlock call.name = false) :
    call.registered env = .failWith (.unresolved call.name) := by
  unfold Environment.hasHelper at hhelper
  unfold registered
  split at hhelper
  next hblock =>
    rw [if_pos hblock, Option.isSome_eq_false_iff.mp hhelper |> Option.isNone_iff_eq_none.mp]
  next hinline =>
    rw [if_neg hinline, Option.isSome_eq_false_iff.mp hhelper |> Option.isNone_iff_eq_none.mp]

/-- A call that nothing answers does nothing but fail. -/
theorem Invocation.run_of_not_answers {env : Environment} {call : Invocation}
    (hsilent : env.answers call.isBlock call.name = false) :
    call.run env = Render.failWith (.unresolved call.name) := by
  obtain ⟨hothers, hoperator⟩ := Bool.or_eq_false_iff.mp hsilent
  obtain ⟨hown, hhelper⟩ := Bool.or_eq_false_iff.mp hothers
  rw [run_of_notMem (by simpa using hown)]
  split
  · rw [registered_of_not_hasHelper hhelper]
    rfl
  next hunregistered =>
    rw [Bool.eq_false_iff.mpr hunregistered, Bool.not_false, Bool.true_and] at hoperator
    rw [Option.not_isSome_iff_eq_none.mp (Bool.eq_false_iff.mp hoperator)]

theorem Invocation.fails_of_not_answers {env : Environment} {call : Invocation} (scope : Scope)
    (hsilent : env.answers call.isBlock call.name = false) :
    (call.run env).Fails scope (.unresolved call.name) := by
  rw [run_of_not_answers hsilent]
  exact Render.fails_failWith

/-- A step that is not resolved fails because of its name. -/
theorem Step.fails_of_not_isResolved {env : Environment} {step : Step}
    (hunresolved : ¬ step.IsResolved env) : step.FailsWith env (.unresolved step.name) := by
  cases step with
  | call invocation scope =>
    exact invocation.fails_of_not_answers scope (Bool.eq_false_iff.mpr hunresolved)
  | bare name found => exact ⟨Classical.not_not.mp hunresolved, rfl⟩
  | define title body scope => exact absurd trivial hunresolved

end Template

open Template

namespace Renderer

/-! ## Rendering a template -/

/-- Rendering a body for the data comes to a step, in the body or in a template that it includes. -/
def Reaches (renderer : Renderer) (name : Option String) (body : Body) (data : Json) (step : Step) :
    Prop :=
  Evaluation.Reaches (renderer.environment data) true
    ⟨inclusionLimit - 1, .body name body, { Scope.start with current := name }⟩ step

/-- The block helpers pass the failures of their sections on. -/
def PassesOn (renderer : Renderer) : Prop :=
  ∀ ⦃name helper⦄, renderer.block.get? name = some helper → ∀ tag, (helper tag).PassesOn

theorem PassesOn.of_entries {renderer : Renderer}
    (hpasses : ∀ entry ∈ renderer.block.entries, ∀ tag, (entry.2 tag).PassesOn) : renderer.PassesOn := by
  intro name helper hfound tag
  obtain ⟨before, rest, hentries, -⟩ := List.lookup_eq_some_iff.mp hfound
  exact hpasses (name, helper) (by rw [hentries]; exact List.mem_append_cons_self) tag

variable {renderer : Renderer} {name : Option String} {body : Body} {data : Json} {step : Step}
  {cause : Cause}

/-- What fails ends the rendering that starts with it, for the same cause. -/
theorem renderBody_of_fails (template : String)
    (hfails : Evaluation.Fails (renderer.environment data)
      ⟨inclusionLimit - 1, .body name body, { Scope.start with current := name }⟩ cause) :
    ∃ failure, renderer.renderBody template name body data = .error (errorOf template failure) ∧
      failure.cause = cause := by
  obtain ⟨failure, after, hran, hsame⟩ := fails_expand.mpr hfails
  exact ⟨failure, congrArg (Except.mapError (errorOf template)) (congrArg Prod.fst hran), hsame⟩

/-- An error of a rendering is that of a failure. -/
theorem exists_fails_of_renderBody {template : String} {error : GenerationError}
    (hfailed : renderer.renderBody template name body data = .error error) :
    ∃ failure, error = errorOf template failure ∧
      Evaluation.Fails (renderer.environment data)
        ⟨inclusionLimit - 1, .body name body, { Scope.start with current := name }⟩ failure.cause := by
  rw [renderBody] at hfailed
  cases hrendered : body.renderAlone (renderer.environment data) name with
  | ok text => rw [hrendered] at hfailed; cases hfailed
  | error failure =>
    rw [hrendered] at hfailed
    cases hfailed
    exact ⟨failure, rfl, fails_expand.mp ⟨failure, _, Prod.ext hrendered rfl, rfl⟩⟩

/-- A step that is not resolved is reported with its name, told for the template that is rendered. -/
theorem renderBody_of_reaches (hpasses : renderer.PassesOn) (template : String)
    (hreaches : renderer.Reaches name body data step)
    (hunresolved : ¬ step.IsResolved (renderer.environment data)) :
    renderer.renderBody template name body data = .error (.unresolvedHelper step.name template) := by
  have hpasses : (renderer.environment data).PassesOn := hpasses
  obtain ⟨failure, htold, hsame⟩ :=
    renderBody_of_fails template (hreaches.fails hpasses (step.fails_of_not_isResolved hunresolved))
  rwa [errorOf, hsame] at htold

/-- What the rendering of a body tells about names, with errors told for `template`: every call and name
that it comes to and that nothing resolves is its error, and it makes a text only if there is none. -/
structure ReportsUnresolved (renderer : Renderer) (name : Option String) (body : Body) (data : Json)
    (template : String) (result : Except GenerationError String) : Prop where
  /-- A call without a section needs an inline helper. -/
  inlineCall : ∀ call scope, renderer.Reaches name body data (.call call scope) →
    call.isBlock = false → isBuiltIn call.name = false → renderer.inline.get? call.name = none →
      result = .error (.unresolvedHelper call.name template)
  /-- A call with a section needs a block helper, whatever inline helpers there are. -/
  blockCall : ∀ call scope, renderer.Reaches name body data (.call call scope) →
    call.isBlock = true → isBuiltIn call.name = false → renderer.block.get? call.name = none →
      result = .error (.unresolvedHelper call.name template)
  /-- A name alone that is no call needs a value. -/
  bareName : ∀ bare, renderer.Reaches name body data (.bare bare .missing) →
    result = .error (.unresolvedHelper bare template)
  text : ∀ text, result = .ok text → ∀ step, renderer.Reaches name body data step →
    step.IsResolved (renderer.environment data)

theorem reportsUnresolved_renderBody (hpasses : renderer.PassesOn) (template : String) (name : Option String)
    (body : Body) (data : Json) :
    renderer.ReportsUnresolved name body data template (renderer.renderBody template name body data) where
  inlineCall call scope hreaches hinline hforeign hunregistered := by
    refine renderBody_of_reaches hpasses template hreaches (Bool.eq_false_iff.mp ?_)
    refine Environment.not_answers_of_not_isBuiltIn hforeign ?_
    rw [hinline, Environment.hasHelper]
    exact Option.isSome_eq_false_iff.mpr (Option.isNone_iff_eq_none.mpr hunregistered)
  blockCall call scope hreaches hblock hforeign hunregistered := by
    refine renderBody_of_reaches hpasses template hreaches (Bool.eq_false_iff.mp ?_)
    refine Environment.not_answers_of_not_isBuiltIn hforeign ?_
    rw [hblock, Environment.hasHelper]
    exact Option.isSome_eq_false_iff.mpr (Option.isNone_iff_eq_none.mpr hunregistered)
  bareName bare hreaches := renderBody_of_reaches hpasses template hreaches fun hresolved => hresolved rfl
  text text hrendered step hreaches := by
    refine Classical.byContradiction fun hunresolved => ?_
    rw [renderBody_of_reaches hpasses template hreaches hunresolved] at hrendered
    cases hrendered

/-- Names that nothing resolves are never silent, in templates of a name and in sources rendered at
once. -/
theorem reportsUnresolved (renderer : Renderer) (data : Json) (hpasses : renderer.PassesOn) :
    (∀ name body, renderer.templates.get? name = some body →
      renderer.ReportsUnresolved (some name) body data name (renderer.renderNamed name data)) ∧
    ∀ source body, parse source = .ok body →
      renderer.ReportsUnresolved none body data inlineName (renderer.render source data) := by
  constructor
  · intro name body hfound
    rw [renderNamed, hfound]
    exact reportsUnresolved_renderBody hpasses name (some name) body data
  · intro source body hparsed
    rw [render, hparsed]
    exact reportsUnresolved_renderBody hpasses inlineName none body data

/-- The section of `wrap` calls a helper that is missing. -/
def missingInWrap : Body :=
  .cons (some ⟨1, 1⟩) (.block (.mk (.word "wrap") [] []) .none
    (.cons (some ⟨1, 10⟩) (.expression (.mk (.word "nope") [.literal (.bool true)] [])) .nil) .absent) .nil

/-- A renderer with one template and one block helper, which renders its section once. -/
def wrapping : Renderer :=
  ⟨.empty, Keyed.ofList [("wrap", fun _ => .thenWith false none .write)],
    Keyed.ofList [("page", missingInWrap)]⟩

theorem passesOn_wrapping : wrapping.PassesOn :=
  .of_entries (List.forall_mem_singleton.mpr fun _ => BlockPlan.passesOn_thenWith fun _ => trivial)

/-- The call of the missing helper. -/
def missingCall (limit : Nat) : Invocation :=
  .ofTag (wrapping.environment .null) limit
    ⟨"nope", [.derived (.bool true)], [], .none, false, none, none⟩ .none false .absent .absent

theorem reaches_missingCall (limit : Nat) : Evaluation.Reaches (wrapping.environment .null) true
    ⟨limit, .body (some "page") missingInWrap, { Scope.start with current := some "page" }⟩
    (.call (missingCall limit) .start) :=
  .part .first <| .part .block <| .part (.section rfl .here) <| .part .anonymous <| .part .first <|
    .part (.expression rfl) <| .here <| .call rfl

theorem reportsUnresolved_missingInWrap : wrapping.PassesOn ∧
    wrapping.renderNamed "page" .null = .error (.unresolvedHelper "nope" "page") := by
  have hreports := (reportsUnresolved wrapping .null passesOn_wrapping).1 "page" missingInWrap rfl
  have hreached := reaches_missingCall (inclusionLimit - 1)
  exact ⟨passesOn_wrapping, hreports.inlineCall _ _ hreached rfl rfl rfl⟩

end Renderer

end EntityScaffold
