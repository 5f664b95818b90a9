import EntityScaffold.Proofs.Template.Evaluation
import EntityScaffold.Renderer

/-! # What an evaluation asks of its environment

Besides the data, an evaluation asks its environment whether a name alone is a call, what a call does, and which
template an inclusion finds. Where another environment gives the same answers to the questions that are asked,
the evaluation does the same in it.
-/

namespace EntityScaffold

namespace Template

namespace Render

variable {α β : Type} {x y : Render α} {f g : α → Render β} {scope : Scope}

/-- Two sequences do the same if their parts do the same where they are carried out. -/
theorem bind_congr_at (hx : x scope = y scope)
    (hf : ∀ a after, x scope = (.ok a, after) → f a after = g a after) :
    (x >>= f) scope = (y >>= g) scope := by
  rcases h : x scope with ⟨failure | a, after⟩
  · rw [bind_error h, bind_error (hx ▸ h)]
  · rw [bind_ok h, bind_ok (hx ▸ h), hf a after h]

theorem within_congr_at (hx : x scope = y scope) {position : Option Position} {name : Option String} :
    (tryCatch x fun failure => throw (failure.within position name)) scope =
      (tryCatch y fun failure => throw (failure.within position name)) scope := by
  rw [run_within, run_within, hx]

/-- What makes no value of its own is the same if it is the same before a value. -/
theorem congr_of_bind_pure {x y : Render Unit} {a : α}
    (h : (x >>= fun _ => pure a) scope = (y >>= fun _ => pure a) scope) : x scope = y scope := by
  rcases hx : x scope with ⟨failure | _, after⟩ <;> rcases hy : y scope with ⟨failure' | _, after'⟩
  · rw [bind_error hx, bind_error hy] at h
    cases h
    rfl
  · rw [bind_error hx, bind_ok hy] at h
    cases h
  · rw [bind_ok hx, bind_error hy] at h
    cases h
  · rw [bind_ok hx, bind_ok hy] at h
    cases h
    rfl

theorem isolated_congr {inner : Scope} (h : x inner = y inner) :
    isolated (fun _ => inner) x scope = isolated (fun _ => inner) y scope := by
  change ((x inner).1, scope) = ((y inner).1, scope)
  rw [h]

end Render

/-! ## Plans with other sections -/

/-- What a plan does depends on its sections only in the scopes where it renders them. -/
theorem CallPlan.run_congr {body inverse body' inverse' : Option (Render String)} {plan : CallPlan}
    {scope : Scope}
    (h : ∀ useInverse inner, plan.Enters body inverse scope useInverse inner →
      Invocation.textOf (if useInverse then inverse else body) inner =
        Invocation.textOf (if useInverse then inverse' else body') inner) :
    plan.run body inverse scope = plan.run body' inverse' scope := by
  induction plan generalizing scope with
  | finish result => rfl
  | enter block next ih => exact ih fun useInverse inner henters => h useInverse inner (.enter henters)
  | move change next ih => exact ih fun useInverse inner henters => h useInverse inner (.move henters)
  | leave next ih => exact ih fun useInverse inner henters => h useInverse inner (.leave henters)
  | render useInverse next ih =>
    rw [run_render, run_render, ← h useInverse scope .here]
    exact ih _ fun useInverse inner henters => h useInverse inner (.later henters)

namespace Invocation

variable {call other : Invocation} {env : Environment}

/-- Two calls that differ at most in what their sections are. -/
structure SameTag (call other : Invocation) : Prop where
  name : call.name = other.name
  arguments : call.arguments = other.arguments
  named : call.named = other.named
  binders : call.binders = other.binders
  isBlock : call.isBlock = other.isBlock
  body : call.body.isSome = other.body.isSome
  inverse : call.inverse.isSome = other.inverse.isSome

theorem SameTag.withSections (prepared : Invocation) {binders : Binders} {isBlock : Bool}
    {body inverse body' inverse' : Option (Render String)} (hbody : body.isSome = body'.isSome)
    (hinverse : inverse.isSome = inverse'.isSome) :
    SameTag (prepared.withSections binders isBlock body inverse)
      (prepared.withSections binders isBlock body' inverse') :=
  ⟨rfl, rfl, rfl, rfl, rfl, hbody, hinverse⟩

theorem SameTag.blockCall_eq (h : SameTag call other) : call.blockCall env = other.blockCall env := by
  simp only [blockCall, h.name, h.arguments, h.named, h.inverse]

theorem SameTag.helperPlan?_eq (h : SameTag call other) : call.helperPlan? env = other.helperPlan? env := by
  simp only [helperPlan?, h.name, h.isBlock, h.blockCall_eq]

theorem SameTag.eachPlan_eq (h : SameTag call other) : call.eachPlan = other.eachPlan := by
  cases hpresent : call.arguments[0]? with
  | none =>
    unfold eachPlan withArgument
    rw [← h.arguments, hpresent]
  | some found =>
    have hpresent' : other.arguments[0]? = some found := by rw [← h.arguments, hpresent]
    rw [Invocation.eachPlan_eq hpresent, Invocation.eachPlan_eq hpresent', h.body, h.inverse, h.binders]

theorem SameTag.registered_eq (h : SameTag call other) (hunplanned : call.helperPlan? env = none) :
    call.registered env = other.registered env := by
  unfold registered
  rw [← h.isBlock, ← h.name, ← h.arguments]
  dsimp only
  split
  · next hblock =>
    rw [helperPlan?, if_pos hblock, Option.map_eq_none_iff] at hunplanned
    rw [hunplanned]
  · rfl

/-- What a call plans depends on its sections only in whether they are there. -/
theorem SameTag.plan_eq (h : SameTag call other) (env : Environment) : call.plan env = other.plan env := by
  have hargument : call.argument = other.argument := by
    unfold argument
    rw [h.arguments]
  unfold plan
  rw [← h.name]
  split
  next => simp only [conditionPlan, withArgument, h.arguments, h.named]
  next => simp only [conditionPlan, withArgument, h.arguments, h.named]
  next => exact h.eachPlan_eq
  next => simp only [withPlan, withArgument, withBlock, h.arguments, h.binders]
  next => rfl
  next hown =>
    have hown' := h.name.symm.trans hown
    unfold run
    rw [hown, hown']
    simp only [lookupValue, hargument]
  next hown =>
    have hown' := h.name.symm.trans hown
    unfold run
    rw [hown, hown']
    simp only [logged, h.named]
  next hif hunless heach hwith hraw hlookup hlog =>
    have hfree := Environment.notMem_ownNames.2 ⟨hif, hunless, heach, hwith, hlookup, hraw, hlog⟩
    rw [← h.helperPlan?_eq]
    split
    next => rfl
    next hunplanned =>
      rw [run_of_notMem hfree, run_of_notMem (h.name ▸ hfree), ← h.name, ← h.arguments,
        h.registered_eq hunplanned]

/-- A call does the same as another with the same plan if the sections that it renders do the same. -/
theorem SameTag.run_eq {env' : Environment} {scope : Scope} (h : SameTag call other)
    (hplan : call.plan env = call.plan env')
    (hsections : ∀ useInverse inner, call.Enters env scope useInverse inner →
      call.sectionOf useInverse inner = other.sectionOf useInverse inner) :
    call.run env scope = other.run env' scope := by
  rw [run_plan, run_plan, ← h.plan_eq, ← hplan]
  exact CallPlan.run_congr hsections

end Invocation

/-! ## Questions -/

/-- What an evaluation asks its environment, other than for data. -/
inductive Query where
  /-- Whether a name alone is a call. -/
  | knows (name : String)
  /-- What a call does. -/
  | call (call : Invocation)
  /-- Which template an inclusion finds. -/
  | find (name : String) (own : Branch) (scope : Scope)

/-- Two environments give the same answer. -/
def Query.Agrees (env other : Environment) : Query → Prop
  | .knows name => env.knows name = other.knows name
  | .call invocation => invocation.plan env = invocation.plan other
  | .find name own scope => findIncluded env scope name own = findIncluded other scope name own

namespace Evaluation

/-- The question that an evaluation asks itself once the parts before it succeed. -/
inductive Asks (env : Environment) : Evaluation → Query → Prop
  | knows {limit : Nat} {call : Call} {name : String} {scope after : Scope} :
    call.isBare = true → call.callee.name env scope = (.ok name, after) →
      Asks env ⟨limit, .element (.expression call), scope⟩ (.knows name)
  | call {limit : Nat} {call : Call} {binders : Binders} {isBlock : Bool} {body inverse : Branch}
    {prepared : Invocation} {scope after : Scope} :
    call.prepare env scope = (.ok prepared, after) →
      Asks env ⟨limit, .tag call binders isBlock body inverse, scope⟩
        (.call (prepared.ofTag env limit binders isBlock body inverse))
  | find {limit : Nat} {call : Call} {indent : Option String} {own : Branch} {prepared : Invocation}
    {scope after later : Scope} :
    call.prepare env scope = (.ok prepared, after) → own.declare env after = (.ok (), later) →
      later.current ≠ some prepared.name →
        Asks env ⟨limit, .element (.inclusion call indent own), scope⟩ (.find prepared.name own later)

/-- An evaluation, or one that it comes to, asks a question. -/
inductive Consults (env : Environment) : Evaluation → Query → Prop
  | here {evaluation : Evaluation} {query : Query} : evaluation.Asks env query → Consults env evaluation query
  | part {evaluation part : Evaluation} {query : Query} : evaluation.Starts env true part →
    Consults env part query → Consults env evaluation query

/-- An inclusion has its template and the scope for it, but inclusions may not be nested any deeper. -/
inductive IsCutOff (env : Environment) : Evaluation → Prop
  | intro {call : Call} {indent : Option String} {own : Branch} {prepared : Invocation} {title : Option String}
    {body : Body} {scope after later inner : Scope} : call.prepare env scope = (.ok prepared, after) →
      own.declare env after = (.ok (), later) → later.current ≠ some prepared.name →
        findIncluded env later prepared.name own = some (title, body) →
          includedScope env prepared.name prepared.arguments prepared.named indent own later = .ok inner →
            IsCutOff env ⟨0, .element (.inclusion call indent own), scope⟩

/-- An evaluation does the same in another environment where inclusions may be nested some levels deeper. A call
must have the same outcome, and what a tag names the same value: their texts would say less. -/
def SameIn (env other : Environment) (deeper : Nat) : Evaluation → Prop
  | ⟨_, .callee callee, scope⟩ =>
    callee.name env scope = callee.name other scope ∧ callee.eval env scope = callee.eval other scope
  | ⟨limit, .tag call binders isBlock body inverse, scope⟩ =>
    call.outcome env binders isBlock (body.render env (expand env limit))
        (inverse.render env (expand env limit)) scope =
      call.outcome other binders isBlock (body.render other (expand other (limit + deeper)))
        (inverse.render other (expand other (limit + deeper))) scope
  | ⟨limit, task, scope⟩ => task.run env limit scope = task.run other (limit + deeper) scope

variable {env other : Environment} {deeper : Nat} {evaluation : Evaluation} {limit : Nat} {scope : Scope}

theorem SameIn.invoke_eq {call : Call} {binders : Binders} {isBlock : Bool} {body inverse : Branch}
    (h : SameIn env other deeper ⟨limit, .tag call binders isBlock body inverse, scope⟩) :
    call.invoke env binders isBlock (body.render env (expand env limit))
        (inverse.render env (expand env limit)) scope =
      call.invoke other binders isBlock (body.render other (expand other (limit + deeper)))
        (inverse.render other (expand other (limit + deeper))) scope := by
  rw [Call.invoke_eq, Call.invoke_eq]
  exact Render.bind_congr_at h fun _ _ _ => rfl

theorem SameIn.eval_eq {call : Call}
    (h : SameIn env other deeper ⟨limit, .tag call .none false .absent .absent, scope⟩) :
    call.eval env scope = call.eval other scope := by
  rw [Call.eval_eq, Call.eval_eq]
  simp only [SameIn, Branch.render] at h
  exact Render.bind_congr_at h fun _ _ _ => rfl

/-- What is the same is run with the same result. -/
theorem SameIn.run_eq (h : evaluation.SameIn env other deeper) :
    evaluation.task.run env evaluation.limit evaluation.scope =
      evaluation.task.run other (evaluation.limit + deeper) evaluation.scope := by
  obtain ⟨limit, task, scope⟩ := evaluation
  cases task with
  | callee callee => exact h.1
  | tag call binders isBlock body inverse => exact h.invoke_eq
  | _ => exact h

theorem isSome_render (branch : Branch) (env other : Environment)
    (expand expand' : Option String → Body → Render String) :
    (branch.render env expand).isSome = (branch.render other expand').isSome := by
  cases branch <;> simp only [Branch.render, Option.isSome]

/-- A call does the same if it plans the same and the sections that it renders do the same. -/
theorem Invocation.run_ofTag_eq {prepared : Invocation} {binders : Binders} {isBlock : Bool}
    {body inverse : Branch}
    (hplan : (prepared.ofTag env limit binders isBlock body inverse).plan env =
      (prepared.ofTag env limit binders isBlock body inverse).plan other)
    (hsections : ∀ useInverse inner,
      (prepared.ofTag env limit binders isBlock body inverse).Enters env scope useInverse inner →
        SameIn env other deeper ⟨limit, .section (if useInverse then inverse else body), inner⟩) :
    (prepared.ofTag env limit binders isBlock body inverse).run env scope =
      (prepared.ofTag other (limit + deeper) binders isBlock body inverse).run other scope := by
  have htag : (prepared.ofTag env limit binders isBlock body inverse).SameTag
      (prepared.ofTag other (limit + deeper) binders isBlock body inverse) :=
    .withSections prepared (isSome_render body ..) (isSome_render inverse ..)
  refine htag.run_eq hplan fun useInverse inner henters => ?_
  have hsame := hsections useInverse inner henters
  cases useInverse with
  | true => exact hsame
  | false => exact hsame

theorem anonymous_congr {x y : Render String}
    (h : x { scope with current := none } = y { scope with current := none }) :
    anonymous x scope = anonymous y scope := h

/-- An inclusion does the same if it finds the same template and that does the same. -/
theorem Invocation.include_congr {expand expand' : Option String → Body → Render String}
    {prepared : Invocation} {indent : Option String} {own : Branch} (hdata : env.data = other.data)
    (hfind : scope.current ≠ some prepared.name →
      findIncluded env scope prepared.name own = findIncluded other scope prepared.name own)
    (hincluded : ∀ title body inner, scope.current ≠ some prepared.name →
      findIncluded env scope prepared.name own = some (title, body) →
        includedScope env prepared.name prepared.arguments prepared.named indent own scope = .ok inner →
          expand title body inner = expand' title body inner) :
    prepared.include env expand indent own scope = prepared.include other expand' indent own scope := by
  refine Render.bind_congr_at rfl fun current after hget => ?_
  cases hget
  split
  · rfl
  · next hcurrent =>
    have hscope : includedScope other prepared.name prepared.arguments prepared.named indent own scope =
        includedScope env prepared.name prepared.arguments prepared.named indent own scope := by
      simp only [includedScope, hdata]
    rw [← hfind hcurrent, hscope]
    cases hfound : findIncluded env scope prepared.name own with
    | none => rfl
    | some found =>
      obtain ⟨title, body⟩ := found
      cases hinner : includedScope env prepared.name prepared.arguments prepared.named indent own scope with
      | error cause => rfl
      | ok inner => exact Render.isolated_congr (hincluded title body inner hcurrent hfound hinner)

theorem sameIn_of_element (hdata : env.data = other.data) {element : Element}
    (hparts : ∀ part, Evaluation.Starts env true ⟨limit, .element element, scope⟩ part →
      part.SameIn env other deeper)
    (hqueries : ∀ query, Evaluation.Asks env ⟨limit, .element element, scope⟩ query →
      query.Agrees env other)
    (hcutoff : IsCutOff env ⟨limit, .element element, scope⟩ → deeper = 0) :
    SameIn env other deeper ⟨limit, .element element, scope⟩ := by
  cases element with
  | text content =>
    simp only [SameIn, Task.run, Element.render]
    rfl
  | expression call =>
    change Task.run env limit _ scope = Task.run other (limit + deeper) _ scope
    rw [Task.run_expression, Task.run_expression]
    cases hbare : call.isBare with
    | false =>
      rw [Call.print_eq_of_not_bare env hbare, Call.print_eq_of_not_bare other hbare]
      exact (hparts _ (.expression hbare)).run_eq
    | true =>
      rw [Call.print_eq_of_bare env hbare, Call.print_eq_of_bare other hbare]
      refine Render.bind_congr_at (hparts _ (.bareCallee hbare)).1 fun name after hnamed => ?_
      have hknows : env.knows name = other.knows name := hqueries _ (.knows hbare hnamed)
      rw [← hknows]
      cases hknown : env.knows name with
      | true => exact (hparts _ (.bareCall hbare hnamed hknown)).run_eq
      | false => exact Render.bind_congr_at (hparts _ (.bareValue hbare hnamed hknown)).2 fun _ _ _ => rfl
  | block call binders body inverse =>
    have hsame := (hparts _ .block).run_eq
    simp only [Task.run, Branch.render] at hsame
    simp only [SameIn, Task.run, Element.render]
    exact hsame
  | decorator call own =>
    change Task.run env limit _ scope = Task.run other (limit + deeper) _ scope
    rw [Task.run_decorator, Task.run_decorator, Call.decorate_eq, Call.decorate_eq]
    refine Render.bind_congr_at ?_ fun _ _ _ => rfl
    exact Render.bind_congr_at (hparts _ .decorator) fun _ _ _ => rfl
  | inclusion call indent own =>
    change Task.run env limit _ scope = Task.run other (limit + deeper) _ scope
    rw [Task.run_inclusion, Task.run_inclusion]
    refine Render.bind_congr_at (hparts _ .inclusion) fun prepared after hgiven => ?_
    refine Render.bind_congr_at ?_ fun _ later hdeclared => ?_
    · cases own with
      | absent => rfl
      | present body => exact hparts _ (.declarations hgiven)
    · refine Invocation.include_congr hdata (fun hcurrent => hqueries _ (.find hgiven hdeclared hcurrent)) ?_
      intro title body inner hcurrent hfound hinner
      cases limit with
      | zero =>
        cases hcutoff (.intro hgiven hdeclared hcurrent hfound hinner)
        rfl
      | succ limit =>
        rw [Nat.succ_add]
        exact hparts _ (.included rfl hgiven hdeclared hcurrent hfound hinner)

theorem sameIn_of_parts (hdata : env.data = other.data)
    (hparts : ∀ part, evaluation.Starts env true part → part.SameIn env other deeper)
    (hqueries : ∀ query, evaluation.Asks env query → query.Agrees env other)
    (hcutoff : evaluation.IsCutOff env → deeper = 0) : evaluation.SameIn env other deeper := by
  have hpath : ∀ path : Path, path.eval env = path.eval other := fun path => by
    simp only [Path.eval, hdata]
  obtain ⟨limit, task, scope⟩ := evaluation
  cases task with
  | callee callee =>
    cases callee with
    | word name => exact ⟨rfl, rfl⟩
    | path p => exact ⟨rfl, congrFun (hpath p) scope⟩
    | computed call =>
      have heval := (hparts _ .computed).eval_eq
      exact ⟨Render.bind_congr_at heval fun _ _ _ => rfl, Render.bind_congr_at heval fun _ _ _ => rfl⟩
  | operands operands =>
    cases operands with
    | nil => rfl
    | cons operand rest =>
      refine Render.bind_congr_at ?_ fun found after hevaluated =>
        Render.bind_congr_at (hparts _ (.operands hevaluated)) fun _ _ _ => rfl
      cases operand with
      | literal value => rfl
      | path p => exact congrFun (hpath p) scope
      | call c => exact Render.bind_congr_at (hparts _ .operand).eval_eq fun _ _ _ => rfl
  | parts call =>
    refine Render.bind_congr_at (hparts _ .callee).1 fun name after hnamed => ?_
    refine Render.bind_congr_at (hparts _ (.arguments hnamed)) fun arguments later hevaluated => ?_
    rw [evalNamed_eq, evalNamed_eq]
    refine Render.bind_congr_at ?_ fun _ _ _ => rfl
    exact Render.bind_congr_at (hparts _ (.named hnamed hevaluated)) fun _ _ _ => rfl
  | tag call binders isBlock body inverse =>
    refine Render.bind_congr_at (hparts _ .parts) fun prepared after hgiven => ?_
    exact Invocation.run_ofTag_eq (hqueries _ (.call hgiven)) fun useInverse inner henters =>
      hparts _ (.section hgiven henters)
  | «section» branch =>
    cases branch with
    | absent =>
      simp only [SameIn, Task.run, Branch.render]
      rfl
    | present body =>
      have hsame := (hparts _ .anonymous).run_eq
      simp only [SameIn, Task.run, Branch.render, Invocation.textOf] at hsame ⊢
      exact anonymous_congr hsame
  | element element => exact sameIn_of_element hdata hparts hqueries hcutoff
  | body name body =>
    cases body with
    | nil =>
      simp only [SameIn, Task.run, Body.render]
      rfl
    | cons position element rest =>
      simp only [SameIn, Task.run, Body.render]
      have hfirst := (hparts _ .first).run_eq
      simp only [Task.run] at hfirst
      refine Render.bind_congr_at (Render.within_congr_at hfirst) fun text after hrendered => ?_
      have hrest := (hparts _ (.rest (Render.within_eq_ok.mp hrendered))).run_eq
      simp only [Task.run] at hrest
      exact Render.bind_congr_at hrest fun _ _ _ => rfl
  | declarations body =>
    cases body with
    | nil => rfl
    | cons position element rest =>
      change Task.run env limit _ scope = Task.run other (limit + deeper) _ scope
      rw [Task.run_declarations, Task.run_declarations]
      refine Render.bind_congr_at (Render.within_congr_at ?_) fun _ after hdeclared =>
        hparts _ (.declared (Render.within_eq_ok.mp hdeclared))
      cases element with
      | decorator call own =>
        have hsame := (hparts _ .declaration).run_eq
        change Task.run env limit _ scope = Task.run other (limit + deeper) _ scope at hsame
        rw [Task.run_decorator, Task.run_decorator] at hsame
        exact Render.congr_of_bind_pure hsame
      | _ => rfl

/-- Where two environments answer all the questions of an evaluation in the same way, it does the same in them. -/
theorem run_eq_of_agrees (hdata : env.data = other.data) (evaluation : Evaluation)
    (hqueries : ∀ query, evaluation.Consults env query → query.Agrees env other) :
    evaluation.task.run env evaluation.limit evaluation.scope =
      evaluation.task.run other evaluation.limit evaluation.scope := by
  -- What a part asks, the whole asks too. So the agreement is passed on to whatever is started.
  suffices evaluation.SameIn env other 0 from this.run_eq
  induction evaluation using Evaluation.induction env true with
  | step evaluation ih =>
    refine sameIn_of_parts hdata (fun part hstarts => ?_) (fun query hasks => hqueries query (.here hasks)) fun _ => rfl
    exact ih part hstarts fun query hconsults => hqueries query (.part hstarts hconsults)

/-! ## Included templates -/

/-- An evaluation comes to an inclusion that finds the registered template of its name. -/
def Includes (env : Environment) (evaluation : Evaluation) (name : String) : Prop :=
  ∃ own scope body, evaluation.Consults env (.find name own scope) ∧
    findIncluded env scope name own = some (some name, body)

theorem findIncluded_congr {name : String} {own : Branch}
    (hnone : env.templates.lookup name = none → other.templates.lookup name = none)
    (hfound : ∀ body, findIncluded env scope name own = some (some name, body) →
      other.templates.lookup name = env.templates.lookup name) :
    findIncluded env scope name own = findIncluded other scope name own := by
  unfold findIncluded at hfound ⊢
  generalize (if name = sectionName then scope.sections[scope.depth]? else scope.inlined.lookup name) =
    inScope at hfound ⊢
  cases inScope with
  | some body => rfl
  | none =>
    cases hlookup : env.templates.lookup name with
    | none => rw [hnone hlookup]
    | some body =>
      rw [hlookup] at hfound
      rw [hfound body rfl]

/-- Of the registered templates only those matter that an evaluation includes. -/
theorem run_eq_of_includes (evaluation : Evaluation) (hdata : env.data = other.data)
    (hinline : env.inline = other.inline) (hblock : env.block = other.block)
    (hnone : ∀ name, env.templates.lookup name = none → other.templates.lookup name = none)
    (hfound : ∀ name, evaluation.Includes env name →
      other.templates.lookup name = env.templates.lookup name) :
    evaluation.task.run env evaluation.limit evaluation.scope =
      evaluation.task.run other evaluation.limit evaluation.scope := by
  obtain ⟨data, inline, block, templates⟩ := env
  obtain ⟨data', inline', block', templates'⟩ := other
  dsimp only at hdata hinline hblock
  subst hdata hinline hblock
  have hdata : (⟨data, inline, block, templates⟩ : Environment).data =
    (⟨data, inline, block, templates'⟩ : Environment).data := rfl
  refine run_eq_of_agrees hdata evaluation fun query hconsults => ?_
  cases query with
  | knows name => rfl
  | call invocation => rfl
  | find name own scope =>
    exact findIncluded_congr (hnone name) fun body hbody => hfound name ⟨own, scope, body, hconsults, hbody⟩

end Evaluation

/-- A template on its own is a body that is evaluated from the start. -/
theorem renderAlone_eq (env : Environment) (name : Option String) (body : Body) :
    body.renderAlone env name =
      (Task.run env (inclusionLimit - 1) (.body name body) { Scope.start with current := name }).1 := by
  change ((expand env (inclusionLimit - 1 + 1) name body) .start).1 = _
  rfl

end Template

namespace Renderer

open Template

variable {renderer other : Renderer} {name : String}

/-- Rendering the template of a name for the data includes a registered template. -/
def Includes (renderer : Renderer) (name : String) (data : Json) (included : String) : Prop :=
  ∃ body, renderer.templates.get? name = some body ∧ Evaluation.Includes (renderer.environment data)
    ⟨inclusionLimit - 1, .body (some name) body, { Scope.start with current := some name }⟩ included

/-- A template is rendered in the same way where the templates that it includes are the same. -/
theorem renderNamed_eq_of_includes {data : Json} (hinline : other.inline = renderer.inline)
    (hblock : other.block = renderer.block)
    (hname : other.templates.get? name = renderer.templates.get? name)
    (hnone : ∀ included, renderer.templates.get? included = none → other.templates.get? included = none)
    (hfound : ∀ included, renderer.Includes name data included →
      other.templates.get? included = renderer.templates.get? included) :
    other.renderNamed name data = renderer.renderNamed name data := by
  unfold renderNamed
  rw [hname]
  cases hbody : renderer.templates.get? name with
  | none => rfl
  | some body =>
    dsimp only
    have hdata : (renderer.environment data).data = (other.environment data).data := rfl
    have hrun := Evaluation.run_eq_of_includes
      ⟨inclusionLimit - 1, .body (some name) body, { Scope.start with current := some name }⟩
      hdata (congrArg Keyed.entries hinline.symm) (congrArg Keyed.entries hblock.symm)
      hnone fun included h => hfound included ⟨body, hbody, h⟩
    rw [renderBody, renderBody, renderAlone_eq, renderAlone_eq, hrun]

/-- A template is rendered in the same way without templates that it does not include. -/
theorem renderNamed_without {foreign : List String} {data : Json} (hinline : other.inline = renderer.inline)
    (hblock : other.block = renderer.block)
    (hsame : ∀ name ∉ foreign, other.templates.get? name = renderer.templates.get? name)
    (hnone : ∀ name ∈ foreign, other.templates.get? name = none) (hname : name ∉ foreign)
    (hforeign : ∀ included ∈ foreign, ¬ renderer.Includes name data included) :
    other.renderNamed name data = renderer.renderNamed name data := by
  refine renderNamed_eq_of_includes hinline hblock (hsame name hname) (fun included hmissing => ?_)
    fun included hincludes => hsame included fun hmem => hforeign included hmem hincludes
  by_cases hmem : included ∈ foreign
  · exact hnone included hmem
  · rw [hsame included hmem, hmissing]

end Renderer

end EntityScaffold
