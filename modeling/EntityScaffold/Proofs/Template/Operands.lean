import EntityScaffold.Proofs.Template.Evaluation

/-! # Operands

What is called, and with which values, is found without a change of the scope: calls among operands have no
sections. A name that is written is the name that is called.
-/

namespace EntityScaffold.Template

namespace Render

variable {α β : Type} {x : Render α} {f : α → Render β}

/-- A computation that leaves every scope as it is, failed or not. -/
def LeavesScope (x : Render α) : Prop := ∀ scope, (x scope).2 = scope

theorem IsConstant.leavesScope (hconstant : x.IsConstant) : x.LeavesScope := fun scope => by rw [hconstant scope]

theorem LeavesScope.bind (hfirst : x.LeavesScope) (hnext : ∀ a, (f a).LeavesScope) : (x >>= f).LeavesScope := by
  intro scope
  have hleft := hfirst scope
  rcases hran : x scope with ⟨failure | a, after⟩ <;> rw [hran] at hleft
  · rw [bind_error hran]
    exact hleft
  · rw [bind_ok hran]
    exact (hnext a after).trans hleft

theorem LeavesScope.eq {result : Except Failure α} {scope after : Scope} (hleaves : x.LeavesScope)
    (hran : x scope = (result, after)) : after = scope := by
  have hleft := hleaves scope
  rwa [hran] at hleft

/-- What is done in sequence gives a value only if every part does. -/
theorem exists_of_bind {b : β} {scope after : Scope} (h : (x >>= f) scope = (.ok b, after)) :
    ∃ a middle, x scope = (.ok a, middle) ∧ f a middle = (.ok b, after) := by
  rcases hx : x scope with ⟨failure | a, middle⟩
  · rw [bind_error hx] at h
    cases h
  · rw [bind_ok hx] at h
    exact ⟨a, middle, rfl, h⟩

end Render

/-! ## Scopes -/

/-- A call without sections does not change the scope. -/
theorem Invocation.isConstant_run_of_plain {env : Environment} {call : Invocation} (hinline : call.isBlock = false)
    (hbody : call.body = none) (hinverse : call.inverse = none) : (call.run env).IsConstant := by
  have hargument (name : String) : (call.argument name 0).IsConstant := isConstant_argument name 0
  by_cases hown : call.name ∈ Environment.ownNames
  · unfold run
    rcases Environment.mem_ownNames.1 hown with hown | hown | hown | hown | hown | hown | hown <;> rw [hown]
    · refine Render.IsConstant.bind ((hargument "if").bind fun found => ?_) fun _ => .pure _
      simp only [hbody, hinverse, ite_self]
      exact .pure _
    · refine Render.IsConstant.bind ((hargument "if").bind fun found => ?_) fun _ => .pure _
      simp only [hbody, hinverse, ite_self]
      exact .pure _
    · refine Render.IsConstant.bind ((hargument "each").bind fun found => ?_) fun _ => .pure _
      rw [hbody]
      exact .pure _
    · refine Render.IsConstant.bind ((hargument "with").bind fun found => ?_) fun _ => .pure _
      rw [hbody, hinverse]
      split
      · exact .of_result fun scope => rfl
      · exact .pure _
    · exact isConstant_lookupValue.bind fun _ => .pure _
    · rw [hbody]
      exact .bind (.pure _) fun _ => .pure _
    · exact isConstant_logged.bind fun _ => .pure _
  · refine isConstant_run hown ?_
    rw [helperPlan?, hinline, if_neg Bool.false_ne_true]

mutual

theorem Operand.leavesScope_eval (env : Environment) : (operand : Operand) → (operand.eval env).LeavesScope
  | .literal _ => (Render.IsConstant.pure _).leavesScope
  | .path _ => Render.LeavesScope.bind (fun _ => rfl) fun _ => (Render.IsConstant.ofExcept _).leavesScope
  | .call c => (Call.leavesScope_eval env c).bind fun _ => (Render.IsConstant.pure _).leavesScope

theorem Call.leavesScope_eval (env : Environment) : (call : Call) → (call.eval env).LeavesScope
  | .mk callee arguments named => by
    refine (Callee.leavesScope_name env callee).bind fun name => ?_
    refine (leavesScope_evalArguments env arguments).bind fun arguments => ?_
    refine (leavesScope_evalNamed env named).bind fun named => ?_
    refine Render.LeavesScope.bind (Invocation.isConstant_run_of_plain rfl rfl rfl).leavesScope fun _ => ?_
    exact (Render.IsConstant.pure _).leavesScope

theorem Callee.leavesScope_name (env : Environment) : (callee : Callee) → (callee.name env).LeavesScope
  | .word _ => (Render.IsConstant.pure _).leavesScope
  | .path _ => (Render.IsConstant.pure _).leavesScope
  | .computed c => (Call.leavesScope_eval env c).bind fun _ => (Render.IsConstant.pure _).leavesScope

theorem leavesScope_evalArguments (env : Environment) :
    (operands : List Operand) → (evalArguments env operands).LeavesScope
  | [] => (Render.IsConstant.pure _).leavesScope
  | operand :: rest => (Operand.leavesScope_eval env operand).bind fun _ =>
    (leavesScope_evalArguments env rest).bind fun _ => (Render.IsConstant.pure _).leavesScope

theorem leavesScope_evalNamed (env : Environment) :
    (named : List (String × Operand)) → (evalNamed env named).LeavesScope
  | [] => (Render.IsConstant.pure _).leavesScope
  | (_, operand) :: rest => (Operand.leavesScope_eval env operand).bind fun _ =>
    (leavesScope_evalNamed env rest).bind fun _ => (Render.IsConstant.pure _).leavesScope

end

theorem Callee.leavesScope_eval (env : Environment) (callee : Callee) : (callee.eval env).LeavesScope := by
  cases callee with
  | word name => exact (Render.IsConstant.pure _).leavesScope
  | path p => exact Operand.leavesScope_eval env (.path p)
  | computed call => exact (Call.leavesScope_eval env call).bind fun _ => (Render.IsConstant.pure _).leavesScope

theorem Call.leavesScope_prepare (env : Environment) (call : Call) : (call.prepare env).LeavesScope := by
  refine (Callee.leavesScope_name env call.callee).bind fun name => ?_
  refine (leavesScope_evalArguments env call.arguments).bind fun arguments => ?_
  exact (leavesScope_evalNamed env call.named).bind fun _ => (Render.IsConstant.pure _).leavesScope

/-! ## Names -/

theorem Callee.name_of_written {env : Environment} {callee : Callee} {name called : String}
    {scope after : Scope} (hwritten : callee.writtenName? = some name)
    (hnamed : callee.name env scope = (.ok called, after)) : called = name := by
  cases callee with
  | word _ => cases hwritten; cases hnamed; rfl
  | path _ => cases hwritten; cases hnamed; rfl
  | computed _ => cases hwritten

theorem Call.name_of_prepare {env : Environment} {call : Call} {prepared : Invocation} {name : String}
    {scope after : Scope} (hwritten : call.callee.writtenName? = some name)
    (hgiven : call.prepare env scope = (.ok prepared, after)) : prepared.name = name := by
  obtain ⟨called, _, hnamed, hgiven⟩ := Render.exists_of_bind hgiven
  obtain ⟨_, _, _, hgiven⟩ := Render.exists_of_bind hgiven
  obtain ⟨_, _, _, hgiven⟩ := Render.exists_of_bind hgiven
  cases hgiven
  exact Callee.name_of_written hwritten hnamed

end EntityScaffold.Template
