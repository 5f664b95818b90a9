import EntityScaffold.Proofs.Template.Agreement
import EntityScaffold.Proofs.Template.Failing
import EntityScaffold.Proofs.Template.Heredity
import EntityScaffold.Proofs.Template.RebasedCalls

/-! # Texts that read only their data

A text whose paths stay inside reads nothing but the data that it is rendered with: it goes neither outwards nor to
the whole data, names no variable, no name that a block around it binds, and includes nothing. Whether its data is the
whole data or a value that a block stands for, such a text does the same.
-/

namespace EntityScaffold.Template

open Render (Alike)

/-! ## Paths that stay inside -/

section

variable (enclosing : List String)

mutual

/-- The paths in an operand stay inside. -/
def Operand.staysInside : Operand → Bool
  | .literal _ => true
  | .path p => p.staysInside enclosing
  | .call c => c.staysInside

/-- The paths in the arguments of a call stay inside, and those in the call that computes its name. -/
def Call.staysInside : Call → Bool
  | .mk callee arguments named => callee.staysInside && operandsStayInside arguments && namedStayInside named

/-- The paths in the call that computes a name stay inside. A path that is a name is not followed. -/
def Callee.staysInside : Callee → Bool
  | .word _ | .path _ => true
  | .computed c => c.staysInside

/-- The paths in positional arguments stay inside. -/
def operandsStayInside : List Operand → Bool
  | [] => true
  | operand :: rest => operand.staysInside && operandsStayInside rest

/-- The paths in named arguments stay inside. -/
def namedStayInside : List (String × Operand) → Bool
  | [] => true
  | (_, operand) :: rest => operand.staysInside && namedStayInside rest

end

/-- The path that a tag may stand for stays inside. -/
def Callee.valueStaysInside : Callee → Bool
  | .path p => p.staysInside enclosing
  | _ => true

end

/-- The names that are bound further outwards and that the call of a tag does not bind itself. -/
def Call.leavesEnclosing (call : Call) (binders : Binders) (enclosing : List String) : List String :=
  match call.callee.writtenName? with
  | some name => enclosing.filter fun bound => !(binders.boundBy name).contains bound
  | none => enclosing

section

/- Whether a name alone is a call. -/
variable (knows : String → Bool)

mutual

/-- The paths in an element stay inside, and nothing is included. -/
def Element.staysInside (enclosing : List String) : Element → Bool
  | .text _ => true
  | .expression call => call.staysInside enclosing &&
    (!call.isBare || call.callee.writtenName?.any knows || call.callee.valueStaysInside enclosing)
  | .block call binders body inverse => call.staysInside enclosing &&
    body.staysInside (call.leavesEnclosing binders enclosing) && inverse.staysInside enclosing
  | .decorator call _ => call.staysInside enclosing
  | .inclusion _ _ _ => false

/-- The paths in a text stay inside, and nothing is included. -/
def Body.staysInside (enclosing : List String) : Body → Bool
  | .nil => true
  | .cons _ element rest => element.staysInside enclosing && rest.staysInside enclosing

/-- The paths in a section, if there is one, stay inside. -/
def Branch.staysInside (enclosing : List String) : Branch → Bool
  | .absent => true
  | .present body => body.staysInside enclosing

end

/-- The paths in what is evaluated stay inside. -/
def Task.staysInside (enclosing : List String) : Task → Bool
  | .callee c => c.staysInside enclosing
  | .operands os => operandsStayInside enclosing os
  | .parts c => c.staysInside enclosing
  | .tag c binders _ b inverse => c.staysInside enclosing &&
    b.staysInside knows (c.leavesEnclosing binders enclosing) && inverse.staysInside knows enclosing
  | .section branch => branch.staysInside knows enclosing
  | .element e => e.staysInside knows enclosing
  | .body _ b => b.staysInside knows enclosing
  | .declarations _ => false

end

theorem Call.staysInside_iff {enclosing : List String} {call : Call} : call.staysInside enclosing = true ↔
    call.callee.staysInside enclosing = true ∧ operandsStayInside enclosing call.arguments = true ∧
      operandsStayInside enclosing (call.named.map Prod.snd) = true := by
  obtain ⟨callee, arguments, named⟩ := call
  have hsame : namedStayInside enclosing named = operandsStayInside enclosing (named.map Prod.snd) := by
    induction named with
    | nil => rfl
    | cons entry rest ih => rw [namedStayInside, List.map_cons, operandsStayInside, ih]
  rw [staysInside, hsame, Bool.and_eq_true, Bool.and_eq_true, and_assoc]
  rfl

/-- A tag without sections needs no more than its call. -/
theorem Task.staysInside_of_call {knows : String → Bool} {enclosing : List String} {call : Call}
    (hinside : call.staysInside enclosing = true) :
    (Task.tag call .none false .absent .absent).staysInside knows enclosing = true := by
  simp only [staysInside, Branch.staysInside, Bool.and_true]
  exact hinside

/-! ## Settled evaluations -/

namespace Evaluation

/-- Whatever an evaluation comes to and gives something leaves the blocks as they are: no block helper goes on after
a section that has failed in the block of an `each` or a `with`. -/
def IsSettled (env : Environment) (evaluation : Evaluation) : Prop :=
  ∀ part, evaluation.ComesTo env part → ∀ value after,
    part.task.run env part.limit part.scope = (.ok value, after) → part.scope.SameBlocks after

/-- Nothing goes on after a failure if all block helpers pass failures on. -/
theorem isSettled_of_passesOn {env : Environment} (hpasses : env.PassesOn) (evaluation : Evaluation) :
    evaluation.IsSettled env := by
  intro part _ value after hran
  have hsame : part.Moves env Scope.SameBlocks := by
    refine part.sameBlocks fun step hreaches hleaves => ?_
    have hfails : ∃ cause, step.FailsWith env cause := by
      cases step with
      | call invocation scope =>
        obtain ⟨-, failure, hfailed⟩ := hleaves
        exact ⟨failure.cause, failure, (invocation.run env scope).2, Prod.ext hfailed rfl, rfl⟩
      | bare => exact hleaves.elim
      | define => exact hleaves.elim
    obtain ⟨cause, hfails⟩ := hfails
    obtain ⟨failure, later, hfailed, -⟩ := hreaches.fails hpasses hfails
    rw [hran] at hfailed
    cases hfailed
  rwa [Moves, Render.Moves, hran] at hsame

/-- What an evaluation calls does not read the whole data, and it is settled. -/
structure IsOwn (env : Environment) (data : Json) (evaluation : Evaluation) : Prop where
  ignores : ∀ call scope, evaluation.Reaches (env.withData data) true (.call call scope) → call.IgnoresContext env
  settled : evaluation.IsSettled (env.withData data)

theorem IsOwn.part {env : Environment} {data : Json} {evaluation part : Evaluation} (hown : evaluation.IsOwn env data)
    (hstarts : evaluation.Starts (env.withData data) true part) : part.IsOwn env data where
  ignores call scope hreaches := hown.ignores call scope (.part hstarts hreaches)
  settled inner hcomes := hown.settled inner (.head hstarts hcomes)

/-! ## Evaluations with and without places -/

/-- An evaluation does the same in another scope. A call must have the same outcome, and what a tag names the same
value: their texts would say less. -/
def RunsAlike (env : Environment) (data : Json) (outer : List Block) (enclosing : List String) (limit : Nat)
    (inner : Scope) : Evaluation → Prop
  | ⟨_, .callee callee, scope⟩ =>
    Alike Eq (Scope.Rebased data outer) (callee.name (env.withData data) scope) (callee.name env inner) ∧
      (callee.valueStaysInside enclosing = true →
        Alike (Found.Rebased data) (Scope.Rebased data outer) (callee.eval (env.withData data) scope)
          (callee.eval env inner))
  | ⟨_, .operands operands, scope⟩ =>
    Alike (List.Forall₂ (Found.Rebased data)) (Scope.Rebased data outer)
      (evalArguments (env.withData data) operands scope) (evalArguments env operands inner)
  | ⟨_, .parts call, scope⟩ =>
    Alike (Invocation.Rebased data) (Scope.Rebased data outer) (call.prepare (env.withData data) scope)
      (call.prepare env inner)
  | ⟨alone, .tag call binders isBlock body inverse, scope⟩ =>
    Alike Eq (Scope.Rebased data outer)
      (call.outcome (env.withData data) binders isBlock
        (body.render (env.withData data) (expand (env.withData data) alone))
        (inverse.render (env.withData data) (expand (env.withData data) alone)) scope)
      (call.outcome env binders isBlock (body.render env (expand env limit))
        (inverse.render env (expand env limit)) inner)
  | ⟨alone, task, scope⟩ =>
    Alike Eq (Scope.Rebased data outer) (task.run (env.withData data) alone scope) (task.run env limit inner)

/-- Where the paths of an evaluation stay inside, it does the same wherever its values are found without places. -/
def CarriesOver (env : Environment) (data : Json) (evaluation : Evaluation) : Prop :=
  ∀ enclosing outer limit inner, evaluation.task.staysInside env.knows enclosing = true →
    evaluation.scope.Covers outer enclosing → evaluation.scope.Rebased data outer inner →
      evaluation.RunsAlike env data outer enclosing limit inner

variable {env : Environment} {data : Json} {outer : List Block} {enclosing : List String} {limit other : Nat}
  {scope inner : Scope}

theorem RunsAlike.eval {call : Call}
    (h : RunsAlike env data outer enclosing other inner ⟨limit, .tag call .none false .absent .absent, scope⟩) :
    Alike Eq (Scope.Rebased data outer) (call.eval (env.withData data) scope) (call.eval env inner) := by
  rw [Call.eval_eq, Call.eval_eq]
  simp only [RunsAlike, Branch.render] at h
  exact h.map fun outcome outcome' hsame => congrArg Invocation.Outcome.toJson hsame

theorem RunsAlike.invoke {call : Call} {binders : Binders} {isBlock : Bool} {body inverse : Branch}
    (h : RunsAlike env data outer enclosing other inner ⟨limit, .tag call binders isBlock body inverse, scope⟩) :
    Alike Eq (Scope.Rebased data outer)
      (call.invoke (env.withData data) binders isBlock
        (body.render (env.withData data) (expand (env.withData data) limit))
        (inverse.render (env.withData data) (expand (env.withData data) limit)) scope)
      (call.invoke env binders isBlock (body.render env (expand env other))
        (inverse.render env (expand env other)) inner) := by
  rw [Call.invoke_eq, Call.invoke_eq]
  exact Alike.map h fun outcome outcome' hsame => congrArg Invocation.Outcome.printed hsame

theorem alike_indented (hrelated : scope.Rebased data outer inner) (text : String) :
    Alike Eq (Scope.Rebased data outer) (indented text scope) (indented text inner) := by
  have hrun : ∀ scope : Scope, indented text scope =
      (.ok (match scope.indent with
        | some indent => String.ofList (indentLines indent.toList text.toList)
        | none => text), scope) := by
    intro scope
    obtain ⟨_, _, _, _, _, indent⟩ := scope
    cases indent <;> rfl
  rw [hrun, hrun, hrelated.indent]
  exact .ok rfl hrelated

theorem alike_decorate {prepared prepared' : Invocation} (h : prepared.Rebased data prepared')
    (hrelated : scope.Rebased data outer inner) (own : Branch) :
    Alike Eq (Scope.Rebased data outer) (prepared.decorate own scope) (prepared'.decorate own inner) := by
  have hfirst : (prepared.arguments.head?.map Found.value) = prepared'.arguments.head?.map Found.value := by
    rw [← List.head?_map, ← List.head?_map, h.values]
  unfold Invocation.decorate
  rw [← h.name]
  split
  · cases harguments : prepared.arguments with
    | nil =>
      cases harguments' : prepared'.arguments with
      | nil => exact .error hrelated
      | cons found' rest' =>
        rw [harguments, harguments'] at hfirst
        cases hfirst
    | cons found rest =>
      cases harguments' : prepared'.arguments with
      | nil =>
        rw [harguments, harguments'] at hfirst
        cases hfirst
      | cons found' rest' =>
        rw [harguments, harguments'] at hfirst
        have hsame : found.value = found'.value := Option.some.inj hfirst
        dsimp only
        rw [← hsame]
        cases found.value.string? with
        | none => exact .error hrelated
        | some title =>
          cases own with
          | absent => exact .error hrelated
          | present body => exact .ok rfl ⟨hrelated.indent, hrelated.blocks⟩
  · exact .error hrelated

/-- The sections of a tag do the same where the call renders them. -/
theorem sectionsAlike_ofTag {call : Call} {binders : Binders} {isBlock : Bool} {body inverse : Branch}
    {prepared prepared' : Invocation} {after : Scope}
    (hgiven : call.prepare (env.withData data) scope = (.ok prepared, after))
    (hinside : (Task.tag call binders isBlock body inverse).staysInside env.knows enclosing = true)
    (hcovers : after.Covers outer enclosing)
    (hown : IsOwn env data ⟨limit, .tag call binders isBlock body inverse, scope⟩)
    (hparts : ∀ part, Starts (env.withData data) true ⟨limit, .tag call binders isBlock body inverse, scope⟩ part →
      part.CarriesOver env data) :
    Invocation.SectionsAlike data outer (prepared.ofTag (env.withData data) limit binders isBlock body inverse)
      (prepared'.ofTag env other binders isBlock body inverse)
      (prepared.ofTag (env.withData data) limit binders isBlock body inverse).boundBy
      ((prepared.ofTag (env.withData data) limit binders isBlock body inverse).plan (env.withData data)) after where
  alike useInverse entered inner henters hkept hnames hrelated := by
    simp only [Task.staysInside, Bool.and_eq_true] at hinside
    have hstarts : Starts (env.withData data) true ⟨limit, .tag call binders isBlock body inverse, scope⟩ _ :=
      .section hgiven henters
    cases useInverse with
    | true => exact hparts _ hstarts enclosing outer other inner hinside.2 (hcovers.keeps hkept) hrelated
    | false =>
      refine hparts _ hstarts _ outer other inner hinside.1.2 ?_ hrelated
      refine ⟨hkept.ne_nil hcovers.nonempty, fun name hfree hunbound => ?_⟩
      refine (hcovers.keeps hkept).names name (fun hmem => ?_) hunbound
      unfold Call.leavesEnclosing at hfree
      cases hwritten : call.callee.writtenName? with
      | none =>
        rw [hwritten] at hfree
        exact hfree hmem
      | some title =>
        rw [hwritten] at hfree
        have hbound : name ∈ binders.boundBy title := by
          simpa [hmem] using hfree
        refine hnames rfl name ?_ hunbound
        rw [← Call.name_of_prepare hwritten hgiven] at hbound
        exact hbound
  settled entered text after' henters hran :=
    hown.settled _ (.single (.section hgiven henters)) text after' hran
  keeps useInverse entered := Invocation.keepsBlocks_ofTag _ _ _ _ _ useInverse entered

theorem carriesOver_of_tag {call : Call} {binders : Binders} {isBlock : Bool} {body inverse : Branch}
    (haddressable : data.IsAddressable) (hown : IsOwn env data ⟨limit, .tag call binders isBlock body inverse, scope⟩)
    (hparts : ∀ part, Starts (env.withData data) true ⟨limit, .tag call binders isBlock body inverse, scope⟩ part →
      part.CarriesOver env data) :
    CarriesOver env data ⟨limit, .tag call binders isBlock body inverse, scope⟩ := by
  intro enclosing outer other inner hinside hcovers hrelated
  have hinsideCall : call.staysInside enclosing = true := by
    simp only [Task.staysInside, Bool.and_eq_true] at hinside
    exact hinside.1.1
  have halike := hparts _ .parts enclosing outer other inner hinsideCall hcovers hrelated
  simp only [RunsAlike, Call.outcome]
  refine Alike.bind halike fun prepared prepared' after later hgiven _ hprepared hrelated => ?_
  have hcovers : after.Covers outer enclosing := by
    rwa [(Call.leavesScope_prepare _ call).eq hgiven]
  have htagged : (prepared.ofTag (env.withData data) limit binders isBlock body inverse).Rebased data
      (prepared'.ofTag env other binders isBlock body inverse) :=
    hprepared.withSections (isSome_render body ..) (isSome_render inverse ..)
  exact htagged.alike_run (hown.ignores _ _ (.here (.call hgiven))) haddressable hcovers.nonempty hrelated
    (sectionsAlike_ofTag hgiven hinside hcovers hown hparts)

theorem carriesOver_of_callee {callee : Callee}
    (hparts : ∀ part, Starts (env.withData data) true ⟨limit, .callee callee, scope⟩ part → part.CarriesOver env data) :
    CarriesOver env data ⟨limit, .callee callee, scope⟩ := by
  intro enclosing outer other inner hinside hcovers hrelated
  cases callee with
  | word name => exact ⟨.ok rfl hrelated, fun _ => .ok .missing hrelated⟩
  | path p =>
    exact ⟨.ok rfl hrelated, fun hinside => Path.alike_eval (env.withData data) hinside hcovers hrelated env⟩
  | computed call =>
    have halike :=
      (hparts _ .computed enclosing outer other inner (Task.staysInside_of_call hinside) hcovers hrelated).eval
    exact ⟨halike.map fun value value' hsame => congrArg Json.printed hsame,
      fun _ => halike.map fun value value' hsame => hsame ▸ .derived value⟩

theorem carriesOver_of_operands {operands : List Operand}
    (hparts : ∀ part, Starts (env.withData data) true ⟨limit, .operands operands, scope⟩ part →
      part.CarriesOver env data) : CarriesOver env data ⟨limit, .operands operands, scope⟩ := by
  intro enclosing outer other inner hinside hcovers hrelated
  cases operands with
  | nil => exact .ok .nil hrelated
  | cons operand rest =>
    simp only [Task.staysInside, operandsStayInside, Bool.and_eq_true] at hinside
    have hevaluated : Alike (Found.Rebased data) (Scope.Rebased data outer) (operand.eval (env.withData data) scope)
        (operand.eval env inner) := by
      cases operand with
      | literal value => exact .ok (.derived value) hrelated
      | path p => exact Path.alike_eval (env.withData data) hinside.1 hcovers hrelated env
      | call c =>
        have halike :=
          (hparts _ .operand enclosing outer other inner (Task.staysInside_of_call hinside.1) hcovers hrelated).eval
        exact halike.map fun value value' hsame => hsame ▸ .derived value
    refine Alike.bind hevaluated fun found found' after later hgiven _ hfound hrelated => ?_
    have hcovers : after.Covers outer enclosing := by
      rwa [(Operand.leavesScope_eval _ operand).eq hgiven]
    exact Alike.map (hparts _ (.operands hgiven) enclosing outer other later hinside.2 hcovers hrelated)
      fun values values' hvalues => .cons hfound hvalues

/-- Names are given to the same values. -/
theorem rebased_zip {values values' : List Found} (h : List.Forall₂ (Found.Rebased data) values values')
    (names : List String) : List.Forall₂ (fun entry other => entry.1 = other.1 ∧ Found.Rebased data entry.2 other.2)
      (names.zip values) (names.zip values') := by
  induction h generalizing names with
  | nil =>
    rw [List.zip_nil_right]
    exact .nil
  | cons hvalue _ ih =>
    cases names with
    | nil => exact .nil
    | cons name rest => exact .cons ⟨rfl, hvalue⟩ (ih rest)

theorem carriesOver_of_parts {call : Call}
    (hparts : ∀ part, Starts (env.withData data) true ⟨limit, .parts call, scope⟩ part → part.CarriesOver env data) :
    CarriesOver env data ⟨limit, .parts call, scope⟩ := by
  intro enclosing outer other inner hinside hcovers hrelated
  obtain ⟨hinsideCallee, hinsideArguments, hinsideNamed⟩ := Call.staysInside_iff.1 hinside
  refine Alike.bind (hparts _ .callee enclosing outer other inner hinsideCallee hcovers hrelated).1
    fun name name' after later hnamed _ hname hrelated => ?_
  have hcovers : after.Covers outer enclosing := by
    rwa [(Callee.leavesScope_name _ call.callee).eq hnamed]
  refine Alike.bind (hparts _ (.arguments hnamed) enclosing outer other later hinsideArguments hcovers hrelated)
    fun arguments arguments' after' later' hevaluated _ harguments hrelated => ?_
  have hcovers : after'.Covers outer enclosing := by
    rwa [(leavesScope_evalArguments _ call.arguments).eq hevaluated]
  rw [evalNamed_eq, evalNamed_eq]
  have halike := Alike.map
    (hparts _ (.named hnamed hevaluated) enclosing outer other later' hinsideNamed hcovers hrelated)
    fun values values' hvalues => rebased_zip hvalues (call.named.map Prod.fst)
  exact Alike.bind halike fun _ _ _ _ _ _ hentries hrelated =>
    .ok ⟨hname, harguments, hentries, rfl, rfl, rfl, rfl⟩ hrelated

theorem alike_anonymous {x y : Render String}
    (h : Alike Eq (Scope.Rebased data outer) (x { scope with current := none }) (y { inner with current := none })) :
    Alike Eq (Scope.Rebased data outer) (anonymous x scope) (anonymous y inner) := h

theorem carriesOver_of_section {branch : Branch}
    (hparts : ∀ part, Starts (env.withData data) true ⟨limit, .section branch, scope⟩ part →
      part.CarriesOver env data) : CarriesOver env data ⟨limit, .section branch, scope⟩ := by
  intro enclosing outer other inner hinside hcovers hrelated
  cases branch with
  | absent =>
    simp only [RunsAlike, Task.run, Branch.render, Invocation.textOf]
    exact .ok rfl hrelated
  | present body =>
    have halike := hparts _ .anonymous enclosing outer other { inner with current := none } hinside
      ⟨hcovers.nonempty, hcovers.names⟩ (hrelated.current none none)
    simp only [RunsAlike, Task.run, Branch.render, Invocation.textOf] at halike ⊢
    exact alike_anonymous halike

theorem carriesOver_of_expression {call : Call}
    (hparts : ∀ part, Starts (env.withData data) true ⟨limit, .element (.expression call), scope⟩ part →
      part.CarriesOver env data) : CarriesOver env data ⟨limit, .element (.expression call), scope⟩ := by
  intro enclosing outer other inner hinside hcovers hrelated
  simp only [Task.staysInside, Element.staysInside, Bool.and_eq_true] at hinside
  have hcalled : (Task.tag call .none false .absent .absent).staysInside env.knows enclosing = true :=
    Task.staysInside_of_call hinside.1
  change Alike Eq (Scope.Rebased data outer) (Task.run (env.withData data) limit (.element (.expression call)) scope)
    (Task.run env other (.element (.expression call)) inner)
  rw [Task.run_expression, Task.run_expression]
  cases hbare : call.isBare with
  | false =>
    rw [Call.print_eq_of_not_bare _ hbare, Call.print_eq_of_not_bare _ hbare]
    exact (hparts _ (.expression hbare) enclosing outer other inner hcalled hcovers hrelated).invoke
  | true =>
    rw [Call.print_eq_of_bare _ hbare, Call.print_eq_of_bare _ hbare]
    have hinsideCallee := (Call.staysInside_iff.1 hinside.1).1
    refine Alike.bind (hparts _ (.bareCallee hbare) enclosing outer other inner hinsideCallee hcovers hrelated).1
      fun name name' after later hnamed _ hname hrelated => ?_
    cases hname
    have hcovers : after.Covers outer enclosing := by
      rwa [(Callee.leavesScope_name _ call.callee).eq hnamed]
    have hsameKnows : (env.withData data).knows name = env.knows name := rfl
    cases hknown : env.knows name with
    | true =>
      rw [hsameKnows, hknown]
      exact (hparts _ (.bareCall hbare hnamed hknown) enclosing outer other later hcalled hcovers hrelated).invoke
    | false =>
      rw [hsameKnows, hknown]
      have hinsideValue : call.callee.valueStaysInside enclosing = true := by
        have hfollowed := hinside.2
        rw [hbare, Bool.not_true, Bool.false_or, Bool.or_eq_true] at hfollowed
        refine hfollowed.resolve_left fun hany => ?_
        obtain ⟨written, hwritten, hknows⟩ := (Option.any_eq_true _ _).1 hany
        rw [← Callee.name_of_written hwritten hnamed, hknown] at hknows
        cases hknows
      refine Alike.bind ((hparts _ (.bareValue hbare hnamed hknown) enclosing outer other later hinsideCallee hcovers
        hrelated).2 hinsideValue) fun found found' _ _ _ _ hfound hrelated => ?_
      cases hfound with
      | missing => exact .error hrelated
      | derived value => exact alike_indented hrelated value.printed
      | @located value _ _ => exact alike_indented hrelated value.printed

theorem carriesOver_of_element {element : Element}
    (hparts : ∀ part, Starts (env.withData data) true ⟨limit, .element element, scope⟩ part →
      part.CarriesOver env data) : CarriesOver env data ⟨limit, .element element, scope⟩ := by
  cases element with
  | text content =>
    intro enclosing outer other inner hinside hcovers hrelated
    simp only [RunsAlike, Task.run, Element.render]
    exact alike_indented hrelated content
  | expression call => exact carriesOver_of_expression hparts
  | block call binders body inverse =>
    intro enclosing outer other inner hinside hcovers hrelated
    have halike := (hparts _ .block enclosing outer other inner hinside hcovers hrelated).invoke
    simp only [Branch.render] at halike
    simp only [RunsAlike, Task.run, Element.render]
    exact halike
  | decorator call own =>
    intro enclosing outer other inner hinside hcovers hrelated
    change Alike Eq (Scope.Rebased data outer)
      (Task.run (env.withData data) limit (.element (.decorator call own)) scope)
      (Task.run env other (.element (.decorator call own)) inner)
    rw [Task.run_decorator, Task.run_decorator, Call.decorate_eq, Call.decorate_eq]
    refine Alike.map (Alike.bind (hparts _ .decorator enclosing outer other inner hinside hcovers hrelated)
      fun prepared prepared' _ _ _ _ hprepared hrelated => alike_decorate hprepared hrelated own) fun _ _ _ => rfl
  | inclusion call indent own =>
    intro enclosing outer other inner hinside
    cases hinside

theorem carriesOver_of_body {name : Option String} {body : Body}
    (hparts : ∀ part, Starts (env.withData data) true ⟨limit, .body name body, scope⟩ part →
      part.CarriesOver env data) : CarriesOver env data ⟨limit, .body name body, scope⟩ := by
  intro enclosing outer other inner hinside hcovers hrelated
  cases body with
  | nil =>
    simp only [RunsAlike, Task.run, Body.render]
    exact .ok rfl hrelated
  | cons position element rest =>
    simp only [Task.staysInside, Body.staysInside, Bool.and_eq_true] at hinside
    have hfirst := hparts _ .first enclosing outer other inner hinside.1 hcovers hrelated
    simp only [RunsAlike, Task.run, Body.render] at hfirst ⊢
    refine Alike.bind hfirst.within fun text text' after later hrendered _ hsame hrelated => ?_
    have hrendered := Render.within_eq_ok.mp hrendered
    have hkept : scope.KeepsBlocks after := by
      have hmoved : Evaluation.Moves (env.withData data) Scope.KeepsBlocks ⟨limit, .element element, scope⟩ :=
        keepsBlocks ⟨limit, .element element, scope⟩
      rwa [Moves, Render.Moves, Task.run, hrendered] at hmoved
    have hothers := hparts _ (.rest hrendered) enclosing outer other later hinside.2 (hcovers.keeps hkept) hrelated
    simp only [RunsAlike, Task.run] at hothers
    exact hothers.map fun more more' hmore => by rw [hsame, hmore]

/-- What a text gives whose paths stay inside does not depend on whether its data has a place. -/
theorem carriesOver (haddressable : data.IsAddressable) (evaluation : Evaluation) (hown : evaluation.IsOwn env data) :
    evaluation.CarriesOver env data := by
  induction evaluation using Evaluation.induction (env.withData data) true with
  | step evaluation ih =>
    have hparts : ∀ part, evaluation.Starts (env.withData data) true part → part.CarriesOver env data :=
      fun part hstarts => ih part hstarts (hown.part hstarts)
    obtain ⟨limit, task, scope⟩ := evaluation
    cases task with
    | callee callee => exact carriesOver_of_callee hparts
    | operands operands => exact carriesOver_of_operands hparts
    | parts call => exact carriesOver_of_parts hparts
    | tag call binders isBlock body inverse => exact carriesOver_of_tag haddressable hown hparts
    | «section» branch => exact carriesOver_of_section hparts
    | element element => exact carriesOver_of_element hparts
    | body name body => exact carriesOver_of_body hparts
    | declarations body =>
      intro enclosing outer other inner hinside
      cases hinside

end Evaluation

end EntityScaffold.Template
