import EntityScaffold.Proofs.Template.Evaluation

/-! # What an evaluation does to the scope

A relation between scopes that every step keeps is kept by every evaluation, whether it fails or not: the
scope that it started from is related to the scope that it leaves. What happens in included templates does
not matter, since they are rendered in a copy of the scope.
-/

namespace EntityScaffold.Template

/-- A relation between scopes that can be followed along a run. It does not look at the name of the
template whose elements are rendered. -/
structure IsFlow (R : Scope → Scope → Prop) : Prop where
  refl : ∀ scope, R scope scope
  trans : ∀ {first second third}, R first second → R second third → R first third
  current : ∀ scope name, R scope { scope with current := name }

namespace Render

variable {R : Scope → Scope → Prop} {α β : Type} {x : Render α} {f : α → Render β} {scope : Scope}

/-- A computation leads from a scope to a related one, failed or not. -/
def Moves (R : Scope → Scope → Prop) (x : Render α) (scope : Scope) : Prop := R scope (x scope).2

theorem IsConstant.moves (hflow : IsFlow R) (hconstant : x.IsConstant) : x.Moves R scope := by
  rw [Moves, hconstant scope]
  exact hflow.refl scope

theorem Moves.bind (hflow : IsFlow R) (hfirst : x.Moves R scope)
    (hnext : ∀ a after, x scope = (.ok a, after) → (f a).Moves R after) : (x >>= f).Moves R scope := by
  unfold Moves at hfirst hnext ⊢
  rcases hran : x scope with ⟨failure | a, after⟩ <;> rw [hran] at hfirst
  · rw [bind_error hran]
    exact hfirst
  · rw [bind_ok hran]
    exact hflow.trans hfirst (hnext a after hran)

/-- A computation that only changes the value of another one leaves the same scope. -/
theorem moves_bind_pure {g : α → β} : (x >>= fun a => pure (g a)).Moves R scope ↔ x.Moves R scope := by
  unfold Moves
  rcases hran : x scope with ⟨failure | a, after⟩
  · rw [bind_error hran]
  · rw [bind_ok hran]
    rfl

theorem moves_within {position : Option Position} {name : Option String} :
    Moves R (tryCatch x fun failure => throw (failure.within position name)) scope ↔
      x.Moves R scope := by
  rw [Moves, run_within, Moves]

end Render

/-- A step keeps a relation. Calls keep it if the sections that they render do. -/
def Step.Moves (env : Environment) (R : Scope → Scope → Prop) : Step → Prop
  | .call invocation scope =>
    (∀ useInverse inner, invocation.Enters env scope useInverse inner →
      (invocation.sectionOf useInverse).Moves R inner) → (invocation.run env).Moves R scope
  | .bare _ _ => True
  | .define title body scope => R scope { scope with inlined := insertEntry title body scope.inlined }

/-- An evaluation leads from its scope to a related one, failed or not. -/
def Evaluation.Moves (env : Environment) (R : Scope → Scope → Prop) (evaluation : Evaluation) : Prop :=
  (evaluation.task.run env evaluation.limit).Moves R evaluation.scope

section

variable {R : Scope → Scope → Prop} {env : Environment} {limit : Nat} {scope : Scope}

theorem moves_indented (hflow : IsFlow R) (text : String) : (indented text).Moves R scope := by
  refine .bind hflow (hflow.refl scope) fun current after _ => ?_
  split
  · exact (Render.IsConstant.pure _).moves hflow
  · exact (Render.IsConstant.pure _).moves hflow

theorem Path.moves_eval (hflow : IsFlow R) (path : Path) : (path.eval env).Moves R scope :=
  .bind hflow (hflow.refl scope) fun _ _ _ => (Render.IsConstant.ofExcept _).moves hflow

theorem Call.moves_invoke {call : Call} {binders : Binders} {isBlock : Bool}
    {body inverse : Option (Render String)} : (call.invoke env binders isBlock body inverse).Moves R scope ↔
      (call.outcome env binders isBlock body inverse).Moves R scope := by
  rw [Call.invoke_eq, Render.moves_bind_pure]

theorem Call.moves_eval {call : Call} :
    (call.eval env).Moves R scope ↔ (call.invoke env .none false none none).Moves R scope := by
  rw [Call.moves_invoke, Call.eval_eq, Render.moves_bind_pure]

theorem Callee.moves_eval (hflow : IsFlow R) {callee : Callee} (hmoves : (callee.name env).Moves R scope) :
    (callee.eval env).Moves R scope := by
  cases callee with
  | word name => exact hflow.refl scope
  | path p => exact p.moves_eval hflow
  | computed call => exact Render.moves_bind_pure.mpr (Render.moves_bind_pure.mp hmoves)

/-- An inclusion leaves the scope as it is once the decorators of its own section are carried out. -/
theorem Invocation.moves_include (hflow : IsFlow R) (expand : Option String → Body → Render String)
    (prepared : Invocation) (indent : Option String) (own : Branch) :
    (prepared.include env expand indent own).Moves R scope := by
  refine .bind hflow (hflow.refl scope) fun current after _ => ?_
  split
  · exact (Render.IsConstant.failWith _).moves hflow
  · split
    · exact (Render.IsConstant.failWith _).moves hflow
    · exact .bind hflow ((Render.IsConstant.ofExcept _).moves hflow) fun inner _ _ => hflow.refl _

namespace Evaluation

variable {evaluation : Evaluation}

theorem moves_of_element (hflow : IsFlow R) {element : Element}
    (hparts : ∀ part, Evaluation.Starts env false ⟨limit, .element element, scope⟩ part →
      part.Moves env R)
    (hsteps : ∀ step, Evaluation.Performs env ⟨limit, .element element, scope⟩ step →
      step.Moves env R) :
    Evaluation.Moves env R ⟨limit, .element element, scope⟩ := by
  cases element with
  | text content => exact moves_indented hflow content
  | expression call =>
    rw [Evaluation.Moves, Task.run_expression]
    cases hbare : call.isBare with
    | false =>
      rw [Call.print_eq_of_not_bare env hbare]
      exact hparts _ (.expression hbare)
    | true =>
      rw [Call.print_eq_of_bare env hbare]
      refine .bind hflow (hparts _ (.bareCallee hbare)) fun name after hnamed => ?_
      cases hknown : env.knows name with
      | true => exact hparts _ (.bareCall hbare hnamed hknown)
      | false =>
        rw [if_neg Bool.false_ne_true]
        refine .bind hflow (Callee.moves_eval hflow (hparts _ (.bareValue hbare hnamed hknown))) ?_
        intro found later hevaluated
        split
        · exact hflow.refl later
        · exact moves_indented hflow _
  | block call binders body inverse =>
    have hmoves := hparts _ .block
    exact hmoves
  | decorator call own =>
    rw [Evaluation.Moves, Task.run_decorator, Call.decorate_eq]
    refine Render.moves_bind_pure.mpr ?_
    refine .bind hflow (hparts _ .decorator) fun prepared after hgiven => ?_
    unfold Invocation.decorate
    split
    next hinline =>
      split
      · exact hflow.refl after
      next found rest harguments =>
        split
        · exact hflow.refl after
        · exact hflow.refl after
        next title body htitled =>
          exact hsteps _ (.define hgiven hinline harguments htitled)
    next => exact hflow.refl after
  | inclusion call indent own =>
    rw [Evaluation.Moves, Task.run_inclusion]
    refine .bind hflow (hparts _ .inclusion) fun prepared after hgiven => ?_
    refine .bind hflow ?_ fun _ later hdeclared => prepared.moves_include hflow _ indent own
    cases own with
    | absent => exact hflow.refl after
    | present body => exact hparts _ (.declarations hgiven)

theorem moves_of_parts (hflow : IsFlow R)
    (hparts : ∀ part, evaluation.Starts env false part → part.Moves env R)
    (hsteps : ∀ step, evaluation.Performs env step → step.Moves env R) : evaluation.Moves env R := by
  obtain ⟨limit, task, scope⟩ := evaluation
  cases task with
  | callee callee =>
    cases callee with
    | word name => exact hflow.refl scope
    | path p => exact hflow.refl scope
    | computed call => exact Render.moves_bind_pure.mpr (Call.moves_eval.mpr (hparts _ .computed))
  | operands operands =>
    cases operands with
    | nil => exact hflow.refl scope
    | cons operand rest =>
      refine Render.Moves.bind hflow ?_ fun found after hevaluated =>
        Render.moves_bind_pure.mpr (hparts _ (.operands hevaluated))
      cases operand with
      | literal value => exact hflow.refl scope
      | path p => exact p.moves_eval hflow
      | call c => exact Render.moves_bind_pure.mpr (Call.moves_eval.mpr (hparts _ .operand))
  | parts call =>
    refine Render.Moves.bind hflow (hparts _ .callee) fun name after hnamed => ?_
    refine Render.Moves.bind hflow (hparts _ (.arguments hnamed)) fun arguments later hevaluated => ?_
    rw [evalNamed_eq]
    exact Render.moves_bind_pure.mpr (Render.moves_bind_pure.mpr (hparts _ (.named hnamed hevaluated)))
  | tag call binders isBlock body inverse =>
    refine Call.moves_invoke.mpr ?_
    refine Render.Moves.bind hflow (hparts _ .parts) fun prepared after hgiven => ?_
    refine hsteps _ (.call hgiven) fun useInverse inner henters => ?_
    have hmoves := hparts _ (.section hgiven henters)
    cases useInverse with
    | true => exact hmoves
    | false => exact hmoves
  | «section» branch =>
    cases branch with
    | absent => exact hflow.refl scope
    | present body => exact hflow.trans (hflow.current scope none) (hparts _ .anonymous)
  | element element => exact moves_of_element hflow hparts hsteps
  | body name body =>
    cases body with
    | nil => exact hflow.refl scope
    | cons position element rest =>
      refine Render.Moves.bind hflow (Render.moves_within.mpr (hparts _ .first)) fun text after hrendered => ?_
      exact Render.moves_bind_pure.mpr (hparts _ (.rest (Render.within_eq_ok.mp hrendered)))
  | declarations body =>
    cases body with
    | nil => exact hflow.refl scope
    | cons position element rest =>
      rw [Evaluation.Moves, Task.run_declarations]
      refine .bind hflow (Render.moves_within.mpr ?_) fun _ after hdeclared =>
        hparts _ (.declared (Render.within_eq_ok.mp hdeclared))
      cases element with
      | decorator call own =>
        have hmoves := hparts _ .declaration
        rw [Evaluation.Moves, Task.run_decorator] at hmoves
        exact Render.moves_bind_pure.mp hmoves
      | _ => exact hflow.refl scope

/-- A relation that every reached step keeps is kept by the whole evaluation. -/
theorem moves (hflow : IsFlow R) (evaluation : Evaluation)
    (hsteps : ∀ step, evaluation.Reaches env false step → step.Moves env R) : evaluation.Moves env R := by
  induction evaluation using Evaluation.induction env false with
  | step evaluation ih =>
    refine moves_of_parts hflow (fun part hstarts => ?_) fun step hperforms => hsteps step (.here hperforms)
    exact ih part hstarts fun step hreaches => hsteps step (.part hstarts hreaches)

end Evaluation

end

end EntityScaffold.Template
