import EntityScaffold.Proofs.Template.Shadowing

/-! # Calls by written names

Where all the calls in a text and in the registered templates are allowed by what is written, an evaluation comes
to no others. So what a template does with helpers of some names can be read off its text.
-/

namespace EntityScaffold.Template

/-! ## Calls that are written -/

section

/- Whether a call is allowed: as a tag with a section if the flag is set. -/
variable (allows : Bool → Call → Bool)

mutual

/-- The calls in an operand are allowed. -/
def Operand.callsOnly : Operand → Bool
  | .literal _ | .path _ => true
  | .call c => allows false c && c.callsOnly

/-- The calls in the callee and the arguments of a call are allowed. -/
def Call.callsOnly : Call → Bool
  | .mk callee arguments named => callee.callsOnly && operandsCallOnly arguments && namedCallOnly named

/-- The call that computes a name is allowed. -/
def Callee.callsOnly : Callee → Bool
  | .word _ | .path _ => true
  | .computed c => allows false c && c.callsOnly

/-- The calls in positional arguments are allowed. -/
def operandsCallOnly : List Operand → Bool
  | [] => true
  | operand :: rest => operand.callsOnly && operandsCallOnly rest

/-- The calls in named arguments are allowed. -/
def namedCallOnly : List (String × Operand) → Bool
  | [] => true
  | (_, operand) :: rest => operand.callsOnly && namedCallOnly rest

end

mutual

/-- The calls in an element are allowed. -/
def Element.callsOnly : Element → Bool
  | .text _ => true
  | .expression call => allows false call && call.callsOnly allows
  | .block call _ body inverse => allows true call && call.callsOnly allows && body.callsOnly && inverse.callsOnly
  | .decorator call own | .inclusion call _ own => call.callsOnly allows && own.callsOnly

/-- The calls in all elements are allowed. -/
def Body.callsOnly : Body → Bool
  | .nil => true
  | .cons _ element rest => element.callsOnly && rest.callsOnly

/-- The calls in a section, if there is one, are allowed. -/
def Branch.callsOnly : Branch → Bool
  | .absent => true
  | .present body => body.callsOnly

end

/-- The calls in what is evaluated are allowed. -/
def Task.callsOnly : Task → Bool
  | .callee c => c.callsOnly allows
  | .operands os => operandsCallOnly allows os
  | .parts c => c.callsOnly allows
  | .tag c _ isBlock b inverse =>
    allows isBlock c && c.callsOnly allows && b.callsOnly allows && inverse.callsOnly allows
  | .section branch => branch.callsOnly allows
  | .element e => e.callsOnly allows
  | .body _ b => b.callsOnly allows
  | .declarations b => b.callsOnly allows

end

variable {allows : Bool → Call → Bool} {env : Environment}

theorem Call.callsOnly_iff {call : Call} : call.callsOnly allows = true ↔
    call.callee.callsOnly allows = true ∧ operandsCallOnly allows call.arguments = true ∧
      operandsCallOnly allows (call.named.map Prod.snd) = true := by
  obtain ⟨callee, arguments, named⟩ := call
  have hsame : namedCallOnly allows named = operandsCallOnly allows (named.map Prod.snd) := by
    induction named with
    | nil => rfl
    | cons entry rest ih => rw [namedCallOnly, List.map_cons, operandsCallOnly, ih]
  rw [callsOnly, hsame, Bool.and_eq_true, Bool.and_eq_true, and_assoc]
  rfl

namespace Evaluation

variable {within : Bool} {evaluation part : Evaluation}

/-- A part of a text has no other calls than the text. -/
theorem Starts.callsOnly (hstarts : evaluation.Starts env within part) (hown : part.limit = evaluation.limit)
    (honly : evaluation.task.callsOnly allows = true) : part.task.callsOnly allows = true := by
  cases hstarts with
  | computed | bareCall | expression =>
    simpa only [Task.callsOnly, Callee.callsOnly, Element.callsOnly, Branch.callsOnly, Bool.and_true] using honly
  | operand =>
    simp only [Task.callsOnly, operandsCallOnly, Operand.callsOnly, Bool.and_eq_true] at honly
    simpa only [Task.callsOnly, Branch.callsOnly, Bool.and_true, Bool.and_eq_true] using honly.1
  | operands =>
    simp only [Task.callsOnly, operandsCallOnly, Bool.and_eq_true] at honly
    exact honly.2
  | callee => exact (Call.callsOnly_iff.mp honly).1
  | arguments => exact (Call.callsOnly_iff.mp honly).2.1
  | named => exact (Call.callsOnly_iff.mp honly).2.2
  | parts =>
    simp only [Task.callsOnly, Bool.and_eq_true] at honly
    exact honly.1.1.2
  | @«section» _ _ _ _ _ _ _ useInverse =>
    simp only [Task.callsOnly, Bool.and_eq_true] at honly
    cases useInverse with
    | true => exact honly.2
    | false => exact honly.1.2
  | anonymous | block => exact honly
  | bareCallee | bareValue =>
    simp only [Task.callsOnly, Element.callsOnly, Bool.and_eq_true] at honly
    exact (Call.callsOnly_iff.mp honly.2).1
  | decorator | inclusion =>
    simp only [Task.callsOnly, Element.callsOnly, Bool.and_eq_true] at honly
    exact honly.1
  | declarations =>
    simp only [Task.callsOnly, Element.callsOnly, Bool.and_eq_true] at honly
    exact honly.2
  | included => exact absurd hown (Nat.ne_of_lt (Nat.lt_succ_self _))
  | declaration | first =>
    simp only [Task.callsOnly, Body.callsOnly, Bool.and_eq_true] at honly
    exact honly.1
  | declared | rest =>
    simp only [Task.callsOnly, Body.callsOnly, Bool.and_eq_true] at honly
    exact honly.2

/-- What an evaluation comes to has no other calls than what is evaluated and the registered templates. -/
theorem isHereditary_callsOnly
    (henv : ∀ name body, env.templates.lookup name = some body → body.callsOnly allows = true) :
    IsHereditary env (fun task => task.callsOnly allows = true) fun body => body.callsOnly allows = true where
  part := Starts.callsOnly
  sections honly := by
    simp only [Task.callsOnly, Bool.and_eq_true] at honly
    exact ⟨honly.1.2, honly.2⟩
  title := id
  decorator honly := by
    simp only [Task.callsOnly, Element.callsOnly, Bool.and_eq_true] at honly
    exact honly.2
  inclusion honly := by
    simp only [Task.callsOnly, Element.callsOnly, Bool.and_eq_true] at honly
    exact honly.2
  rendered := id
  found _ _ hregistered := henv _ _ hregistered

end Evaluation

/-! ## Calls of further helpers -/

variable {other : Environment} {inline block : List String}

/-- A call is written with a name, and not with one of some inline helpers, or as a block with one of some block
helpers. -/
def Call.avoids (inline block : List String) (isBlock : Bool) (call : Call) : Bool :=
  call.callee.writtenName?.any fun name => !(if isBlock then block else inline).contains name

/-- A call is written with a name, and not with one of some names if it is that of an operator or stands alone. -/
def Call.isClearOf (taken : List String) (isBlock : Bool) (call : Call) : Bool :=
  call.callee.writtenName?.any fun name =>
    !(taken.contains name && ((Operator.named? name).isSome || !isBlock && call.isBare))

namespace Evaluation

variable {evaluation part : Evaluation}

/-- Where no call is written with the names of further helpers of its kind, none of them is used. -/
theorem not_uses_of_callsOnly (honly : evaluation.task.callsOnly (Call.avoids inline block) = true) :
    ¬ evaluation.Uses env inline block := by
  intro huses
  cases huses with
  | @call limit call binders isBlock body inverse prepared scope after hgiven hasks =>
    simp only [Task.callsOnly, Bool.and_eq_true] at honly
    obtain ⟨name, hwritten, havoided⟩ := (Option.any_eq_true _ _).1 honly.1.1.1
    rw [AsksFor, Call.name_of_prepare hwritten hgiven] at hasks
    cases isBlock with
    | true => simp [show name ∈ block from hasks] at havoided
    | false => simp [show name ∈ inline from hasks] at havoided
  | @bare limit call name scope after hbare hnamed hmem =>
    simp only [Task.callsOnly, Element.callsOnly, Bool.and_eq_true] at honly
    obtain ⟨name, hwritten, havoided⟩ := (Option.any_eq_true _ _).1 honly.1
    rw [Callee.name_of_written hwritten hnamed] at hmem
    simp [hmem] at havoided

/-- Where names alone and operators are not written with the names of further helpers, nothing is shadowed. -/
theorem not_shadowed_of_callsOnly (h : env.Extends other inline block)
    (honly : evaluation.task.callsOnly (Call.isClearOf (inline ++ block)) = true) (name : String) :
    ¬ evaluation.Shadowed env other name := by
  intro hshadowed
  cases hshadowed with
  | @operator limit call binders isBlock body inverse prepared scope after hgiven hlost =>
    simp only [Task.callsOnly, Bool.and_eq_true] at honly
    obtain ⟨name, hwritten, hclear⟩ := (Option.any_eq_true _ _).1 honly.1.1.1
    obtain ⟨hoperator, hbefore, hregistered⟩ := hlost
    have hmem := h.mem_of_registered hbefore hregistered
    rw [Call.name_of_prepare hwritten hgiven] at hoperator hmem
    simp [hoperator, List.mem_append.mp hmem] at hclear
  | @value limit call name scope after hbare hnamed hunknown hknown hvalue =>
    simp only [Task.callsOnly, Element.callsOnly, Bool.and_eq_true] at honly
    obtain ⟨name, hwritten, hclear⟩ := (Option.any_eq_true _ _).1 honly.1
    obtain ⟨hbefore, hregistered⟩ := Environment.registered_of_known hunknown hknown
    have hmem := h.mem_of_registered hbefore hregistered
    rw [Callee.name_of_written hwritten hnamed] at hmem
    simp [hbare, List.mem_append.mp hmem] at hclear

end Evaluation

end EntityScaffold.Template
