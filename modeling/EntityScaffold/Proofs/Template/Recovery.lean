import EntityScaffold.Proofs.Template.Stack

/-! # Recovering from a failed section

A block helper may have a section rendered with data in a block of its own, and go on when the section
fails. The block of the helper is left in any case. The block of an `each` or `with` that fails inside the
section stays, and then it is the helper's own block that stays instead of it. If nothing stays and no
section was given a name, the helper goes on as if the failed section had not been rendered.
-/

namespace EntityScaffold

/-- Render the section, and the alternative one without data if the section fails. -/
def BlockPlan.recovering (data : Option Json) : BlockPlan :=
  .render false data fun
    | .ok text => .write text
    | .error _ => .thenWith true none .write

namespace Template

/-! ## Entering and leaving the block of a helper -/

namespace Scope

/-- The scope in which a block helper has a section rendered: with data, in a block of its own. -/
def enter (scope : Scope) : Option Json → Scope
  | none => scope
  | some data => scope.push (.ofValue data)

/-- The scope after a section that was rendered with or without data. -/
def leave (scope : Scope) : Option Json → Scope
  | none => scope
  | some _ => scope.pop

variable {first second : Scope}

theorem keepsBlocks_leave (data : Option Json) (hkeeps : (first.enter data).KeepsBlocks second) :
    first.KeepsBlocks (second.leave data) := by
  cases data with
  | none => exact hkeeps
  | some data =>
    have hlong := hkeeps.length_le
    simp only [enter, push, List.length_cons] at hlong
    exact suffix_tail ((List.suffix_cons _ _).trans hkeeps) (by omega)

/-- Nothing stays after the block of the helper is left exactly if nothing stays before. -/
theorem sameBlocks_leave (data : Option Json) (hkeeps : (first.enter data).KeepsBlocks second) :
    first.SameBlocks (second.leave data) ↔ (first.enter data).SameBlocks second := by
  cases data with
  | none => exact Iff.rfl
  | some data =>
    constructor
    · intro hsame
      have hshort := congrArg List.length hsame
      have hlong := hkeeps.length_le
      simp only [enter, leave, push, pop, List.length_cons, List.length_tail] at hshort hlong
      exact hkeeps.same (by simp only [enter, push, List.length_cons]; omega)
    · intro hsame
      exact congrArg List.tail hsame

/-- All but the blocks and the name of the template whose elements are rendered is the same. -/
structure SameSetting (first second : Scope) : Prop where
  inlined : second.inlined = first.inlined
  sections : second.sections = first.sections
  depth : second.depth = first.depth
  indent : second.indent = first.indent

theorem isFlow_sameSetting : IsFlow SameSetting where
  refl _ := ⟨rfl, rfl, rfl, rfl⟩
  trans hfirst hsecond := ⟨hsecond.1.trans hfirst.1, hsecond.2.trans hfirst.2, hsecond.3.trans hfirst.3,
    hsecond.4.trans hfirst.4⟩
  current _ _ := ⟨rfl, rfl, rfl, rfl⟩

theorem sameSetting_leave (data : Option Json) (hsame : (first.enter data).SameSetting second) :
    first.SameSetting (second.leave data) := by
  cases data with
  | none => exact hsame
  | some data => exact ⟨hsame.1, hsame.2, hsame.3, hsame.4⟩

theorem SameSetting.eq (hsetting : first.SameSetting second) (hblocks : first.SameBlocks second) :
    { second with current := none } = { first with current := none } := by
  obtain ⟨hinlined, hsections, hdepth, hindent⟩ := hsetting
  have hblocks : second.blocks = first.blocks := hblocks
  rw [hblocks, hinlined, hsections, hdepth, hindent]

end Scope

namespace CallPlan

/-- A relation that does not look at the blocks is kept by a plan whose sections keep it. -/
theorem moves_run {R : Scope → Scope → Prop} (hflow : IsFlow R)
    (hblocks : ∀ scope blocks, R scope { scope with blocks := blocks }) {plan : CallPlan}
    {body inverse : Option (Render String)} {scope : Scope}
    (hsections : ∀ useInverse inner, plan.Enters body inverse scope useInverse inner →
      (Invocation.textOf (if useInverse then inverse else body)).Moves R inner) :
    (plan.run body inverse).Moves R scope := by
  induction plan generalizing scope with
  | finish result => exact hflow.refl scope
  | enter block next ih =>
    exact hflow.trans (hblocks scope _) (ih fun _ _ henters => hsections _ _ (.enter henters))
  | move change next ih =>
    refine hflow.trans ?_ (ih fun _ _ henters => hsections _ _ (.move henters))
    unfold Scope.updateBlock
    split
    · exact hflow.refl scope
    · exact hblocks scope _
  | leave next ih =>
    exact hflow.trans (hblocks scope _) (ih fun _ _ henters => hsections _ _ (.leave henters))
  | render useInverse next ih =>
    exact hflow.trans (hsections _ _ .here) (ih _ fun _ _ henters => hsections _ _ (.later henters))

end CallPlan

/-- A section is given a name. -/
def Step.Defines : Step → Prop
  | .define _ _ _ => True
  | _ => False

namespace Evaluation

variable {env : Environment}

theorem Reaches.not_defines_of_isFlat {evaluation : Evaluation} {step : Step}
    (hreaches : evaluation.Reaches env false step) (hflat : evaluation.task.IsFlat) : ¬ step.Defines := by
  induction hreaches with
  | here hperforms =>
    cases hperforms with
    | call => exact id
    | bare => exact id
    | define => exact hflat.elim
  | part hstarts _ ih => exact ih (hstarts.isFlat hflat)

/-- An evaluation that names no section leaves everything but the stack as it was. -/
theorem sameSetting (evaluation : Evaluation)
    (hundefining : ∀ step, evaluation.Reaches env false step → ¬ step.Defines) :
    evaluation.Moves env Scope.SameSetting := by
  refine evaluation.moves Scope.isFlow_sameSetting fun step hreaches => ?_
  cases step with
  | call invocation scope =>
    intro hsections
    rw [Invocation.run_plan]
    exact CallPlan.moves_run Scope.isFlow_sameSetting (fun _ _ => ⟨rfl, rfl, rfl, rfl⟩) hsections
  | bare name found => trivial
  | define title body scope => exact absurd trivial (hundefining _ hreaches)

end Evaluation

/-! ## Sections of block helpers -/

/-- The evaluation of a section for a block helper. -/
def Evaluation.ofSection (limit : Nat) (branch : Branch) (data : Option Json) (scope : Scope) :
    Evaluation := ⟨limit, .section branch, scope.enter data⟩

/-- The text or the failure of a section that a block helper has rendered. -/
def Evaluation.sectionResult (env : Environment) (limit : Nat) (branch : Branch) (data : Option Json)
    (scope : Scope) : Except Failure String :=
  (Invocation.textOf (branch.render env (expand env limit)) (scope.enter data)).1

section

variable {env : Environment} {limit : Nat}

/-- A section always comes back to the helper, with a text or with a failure. -/
theorem renderSection_eq (branch : Branch) (data : Option Json) (scope : Scope) :
    Invocation.renderSection (branch.render env (expand env limit)) data scope =
      (.ok (Evaluation.sectionResult env limit branch data scope),
        ((Evaluation.ofSection limit branch data scope).after env).leave data) := by
  cases data with
  | none =>
    rw [Invocation.renderSection_none]
    rfl
  | some data =>
    rw [Invocation.renderSection_some]
    rfl

/-- A section only reads what is the same in scopes of the same setting and stack. -/
theorem sectionResult_congr (inverse : Branch) {first second : Scope}
    (hsame : ({ second with current := none } : Scope) = { first with current := none }) :
    Evaluation.sectionResult env limit inverse none second =
      Evaluation.sectionResult env limit inverse none first := by
  cases inverse with
  | absent => rfl
  | present body =>
    change (body.render env (expand env limit) none { second with current := none }).1 = _
    rw [hsame]
    rfl

/-- What a helper gives that renders the alternative if the section fails. -/
theorem carryOut_recovering {call : Invocation} {body inverse : Branch} {data : Option Json} {scope : Scope}
    (hown : call.body = body.render env (expand env limit))
    (halternative : call.inverse = inverse.render env (expand env limit)) :
    (call.carryOut (.recovering data) scope).1 =
      match Evaluation.sectionResult env limit body data scope with
      | .ok text => .ok text
      | .error _ => Evaluation.sectionResult env limit inverse none
          (((Evaluation.ofSection limit body data scope).after env).leave data) := by
  unfold BlockPlan.recovering
  rw [Invocation.carryOut, if_neg Bool.false_ne_true, hown,
    Render.bind_ok (renderSection_eq body data scope)]
  cases Evaluation.sectionResult env limit body data scope with
  | ok text => rfl
  | error failure =>
    dsimp only
    rw [BlockPlan.thenWith, Invocation.carryOut, if_pos rfl, halternative,
      Render.bind_ok (renderSection_eq inverse none _)]
    cases Evaluation.sectionResult env limit inverse none _ with
    | ok text => rfl
    | error failure => rfl

end

/-- A section that a block helper has rendered, failed or not, leaves the stack as it was exactly if no
`each` or `with` has failed in its own block on the way; else blocks are added to it. If the stack is as it
was and no section was given a name, a helper that recovers gives what the alternative gives on its own. -/
theorem renderSection_restores_iff (env : Environment) (limit : Nat) (branch : Branch)
    (data : Option Json) (scope : Scope) :
    ∃ result after,
      Invocation.renderSection (branch.render env (expand env limit)) data scope = (.ok result, after) ∧
      scope.KeepsBlocks after ∧
      (scope.SameBlocks after ↔ ∀ step,
        (Evaluation.ofSection limit branch data scope).Reaches env false step → ¬ step.LeavesBlock env) ∧
      ∀ (call : Invocation) (inverse : Branch), call.body = branch.render env (expand env limit) →
        call.inverse = inverse.render env (expand env limit) → scope.SameBlocks after →
          (∀ step, (Evaluation.ofSection limit branch data scope).Reaches env false step →
            ¬ step.Defines) →
          (call.carryOut (.recovering data) scope).1 = match result with
            | .ok text => .ok text
            | .error _ => (Invocation.textOf call.inverse scope).1 := by
  have hkeeps : (scope.enter data).KeepsBlocks ((Evaluation.ofSection limit branch data scope).after env) :=
    (Evaluation.ofSection limit branch data scope).keepsBlocks
  refine ⟨_, _, renderSection_eq branch data scope, Scope.keepsBlocks_leave data hkeeps, ?_, ?_⟩
  · exact (Scope.sameBlocks_leave data hkeeps).trans Evaluation.sameBlocks_iff
  · intro call inverse hown halternative hsame hundefining
    have hsetting : (scope.enter data).SameSetting ((Evaluation.ofSection limit branch data scope).after env) :=
      (Evaluation.ofSection limit branch data scope).sameSetting hundefining
    rw [carryOut_recovering hown halternative,
      sectionResult_congr inverse ((Scope.sameSetting_leave data hsetting).eq hsame), halternative]
    rfl

/-- A tag that prints the value under a key. -/
def valueTag (key : String) : Element := .expression (.mk (.path ⟨key, false, false, 0, [key]⟩) [] [])

/-- A section that fails because a value is missing. -/
def missingValue : Body := .cons none (valueTag "nope") .nil

/-- A section that fails in the block of an item. -/
def missingInItem : Body :=
  .cons none (.block (.mk (.word "each") [.path ⟨"xs", false, false, 0, ["xs"]⟩] []) .none missingValue
    .absent) .nil

/-- A call whose alternative prints a name. -/
def nameInstead (env : Environment) (body : Body) : Invocation :=
  .ofTag env 0 ⟨"try", [], [], .none, false, none, none⟩ .none true (.present body)
    (.present (.cons none (valueTag "name") .nil))

/-- Data with a name, and with an item that has a name too. -/
def namedData : Environment :=
  ⟨.object [("name", .string "outer"), ("xs", .array [.object [("name", .string "inner")]])], [], [], []⟩

theorem renderSection_restores_missingValue :
    Scope.SameBlocks .start
        (Invocation.renderSection (some (anonymous (missingValue.render namedData (expand namedData 0) none)))
          none .start).2 ∧
      (∀ step, (Evaluation.ofSection 0 (.present missingValue) none .start).Reaches namedData false step →
        ¬ step.Defines) ∧
      ((nameInstead namedData missingValue).carryOut (.recovering none) .start).1 = .ok "outer" := by
  have hflat : (Evaluation.ofSection 0 (.present missingValue) none .start).task.IsFlat :=
    ⟨trivial, trivial⟩
  obtain ⟨result, after, hran, -, hrestores, hrecovers⟩ :=
    renderSection_restores_iff namedData 0 (.present missingValue) none .start
  have hsame : Scope.SameBlocks .start after :=
    hrestores.mpr fun step hreaches => hreaches.settled_of_isFlat hflat
  have hundefining step (hreaches : (Evaluation.ofSection 0 (.present missingValue) none .start).Reaches
      namedData false step) : ¬ step.Defines := hreaches.not_defines_of_isFlat hflat
  have hrecovered := hrecovers (nameInstead namedData missingValue) _ rfl rfl hsame hundefining
  cases hran
  exact ⟨hsame, hundefining, hrecovered⟩

/-- The item whose section fails stays the current value: the alternative prints its name instead. -/
example : ((nameInstead namedData missingInItem).carryOut (.recovering none) .start).1 = .ok "inner" := rfl

end Template

end EntityScaffold
