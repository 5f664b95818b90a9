import EntityScaffold.Proofs.Template.Nesting

/-! # Which helper a call runs

Names that templates keep for themselves cannot be taken: what a registry has under them might as well not be
there. Under every other name a call runs the helper of its kind that was registered last. The helper gets the
whole data and the values that the arguments have where the call stands, and that is all it gets to see of how
deep in blocks and included templates the call is.
-/

namespace EntityScaffold

open Template

/-! ## Filling a registry -/

/-- A step that fills a registry. -/
inductive RegistryStep (F : Type) where
  | register (name : String) (helper : F)
  | extend (helpers : List (String × F))

/-- The helpers that a step registers, in order. -/
def RegistryStep.helpers {F : Type} : RegistryStep F → List (String × F)
  | .register name helper => [(name, helper)]
  | .extend helpers => helpers

/-- The helper that some steps register last under a name. -/
def lastRegistered? {F : Type} (steps : List (RegistryStep F)) (name : String) : Option F :=
  (steps.flatMap RegistryStep.helpers).reverse.lookup name

namespace Registry

variable {F : Type}

/-- Take a step. -/
def take (registry : Registry F) : RegistryStep F → Registry F
  | .register name helper => (registry.register name helper).2
  | .extend helpers => registry.extend helpers

/-- Take steps in order. -/
def takeAll (registry : Registry F) (steps : List (RegistryStep F)) : Registry F :=
  steps.foldl take registry

/-- The registry without the helpers under reserved names. -/
def withoutReserved (registry : Registry F) : Registry F :=
  ⟨registry.kind, registry.entries.entries.filter fun entry => entry.1 ∉ reservedNames,
    registry.entries.ascending.filter _⟩

theorem take_eq_extend (registry : Registry F) (step : RegistryStep F) :
    registry.take step = registry.extend step.helpers := by
  cases step <;> rfl

theorem takeAll_eq_extend (registry : Registry F) (steps : List (RegistryStep F)) :
    registry.takeAll steps = registry.extend (steps.flatMap RegistryStep.helpers) := by
  induction steps generalizing registry with
  | nil => rfl
  | cons step rest ih =>
    rw [List.flatMap_cons, extend_append, ← take_eq_extend]
    exact ih _

/-- The helper that was registered last counts, and then the one that was there. -/
theorem get?_takeAll (registry : Registry F) (steps : List (RegistryStep F)) (name : String) :
    (registry.takeAll steps).get? name = (lastRegistered? steps name).or (registry.get? name) := by
  rw [takeAll_eq_extend, get?_extend, lastRegistered?]

theorem get?_withoutReserved (registry : Registry F) (name : String) :
    registry.withoutReserved.get? name = if isReserved name then none else registry.get? name := by
  refine (lookup_filter_name (fun name => decide (name ∉ reservedNames)) _ name).trans ?_
  have hsame : decide (name ∉ reservedNames) = !isReserved name := by
    rw [isReserved, List.contains_eq_mem, decide_not]
  rw [hsame]
  cases isReserved name <;> rfl

end Registry

/-! ## Helpers that answer alike -/

namespace Template

/-- The helpers of two environments under one name answer alike as long as they get the whole data. -/
structure Environment.AnswersAlike (env other : Environment) : Prop where
  data : env.data = other.data
  templates : env.templates = other.templates
  inline : ∀ name arguments, (env.inline.lookup name).map (· env.data arguments) =
    (other.inline.lookup name).map (· env.data arguments)
  block : ∀ name call, call.context = env.data →
    (env.block.lookup name).map (· call) = (other.block.lookup name).map (· call)

namespace Environment.AnswersAlike

variable {env other : Environment}

theorem isRegistered_eq (h : env.AnswersAlike other) (name : String) :
    env.isRegistered name = other.isRegistered name := by
  have hinline := congrArg Option.isSome (h.inline name [])
  have hblock := congrArg Option.isSome (h.block name ⟨name, [], false, env.data, []⟩ rfl)
  rw [Option.isSome_map, Option.isSome_map] at hinline hblock
  rw [isRegistered, isRegistered, hinline, hblock]

theorem helperPlan?_eq (h : env.AnswersAlike other) (call : Invocation) :
    call.helperPlan? env = call.helperPlan? other := by
  have hsame : call.blockCall env = call.blockCall other := by
    simp only [Invocation.blockCall, h.data]
  rw [Invocation.helperPlan?, Invocation.helperPlan?, ← hsame, h.block call.name (call.blockCall env) rfl]

theorem registered_eq (h : env.AnswersAlike other) (call : Invocation) :
    call.registered env = call.registered other := by
  cases hblock : call.isBlock with
  | true =>
    have hanswer := h.block call.name (call.blockCall env) rfl
    simp only [Invocation.registered, hblock, if_true, ← h.data]
    cases hfound : env.block.lookup call.name <;> cases hfound' : other.block.lookup call.name <;>
      rw [hfound, hfound'] at hanswer
    · cases hanswer
    · cases hanswer
    · exact congrArg call.carryOut (Option.some.inj hanswer)
  | false =>
    have hanswer := h.inline call.name (call.arguments.map Found.value)
    simp only [Invocation.registered, hblock, Bool.false_eq_true, if_false, ← h.data]
    cases hfound : env.inline.lookup call.name <;> cases hfound' : other.inline.lookup call.name <;>
      rw [hfound, hfound'] at hanswer
    · cases hanswer
    · cases hanswer
    · simp only [Option.some.inj hanswer]

theorem run_eq (h : env.AnswersAlike other) (call : Invocation) : call.run env = call.run other := by
  by_cases hown : call.name ∈ ownNames
  · exact Invocation.run_eq_of_mem hown env other
  · rw [Invocation.run_of_notMem hown, Invocation.run_of_notMem hown, h.isRegistered_eq, h.registered_eq]

/-- Everything that an evaluation asks is answered alike. -/
theorem agrees (h : env.AnswersAlike other) (query : Query) : query.Agrees env other := by
  cases query with
  | knows name =>
    change env.knows name = other.knows name
    rw [knows, knows, h.isRegistered_eq]
  | call invocation =>
    change invocation.plan env = invocation.plan other
    simp only [Invocation.plan, h.run_eq, h.helperPlan?_eq]
  | find name own scope =>
    change findIncluded env scope name own = findIncluded other scope name own
    simp only [findIncluded, h.templates]

theorem renderAlone_eq (h : env.AnswersAlike other) (name : Option String) (body : Body) :
    body.renderAlone env name = body.renderAlone other name := by
  rw [Template.renderAlone_eq, Template.renderAlone_eq]
  exact congrArg Prod.fst (Evaluation.run_eq_of_agrees h.data
    ⟨inclusionLimit - 1, .body name body, { Scope.start with current := name }⟩ fun query _ => h.agrees query)

end Environment.AnswersAlike

/-! ## Calls of registered helpers -/

/-- Sequences with the same first part do the same, also from another scope. -/
theorem Render.bind_congr_from {α β : Type} {x y : Render α} {scope after : Scope} (h : x scope = y after)
    (f : α → Render β) : (x >>= f) scope = (y >>= f) after := by
  rcases hran : x scope with ⟨failure | a, later⟩
  · rw [bind_error hran, bind_error (h ▸ hran)]
  · rw [bind_ok hran, bind_ok (h ▸ hran)]

section

variable {env : Environment} {call : Call} {binders : Binders} {body inverse : Option (Render String)}
  {name : String} {scope after : Scope}

theorem notMem_ownNames_of_not_isReserved (hfree : isReserved name = false) :
    name ∉ Environment.ownNames := by
  intro hown
  have hreserved : ∀ name ∈ Environment.ownNames, isReserved name = true := by decide
  rw [hreserved name hown] at hfree
  cases hfree

/-- A call of a name that is not reserved and that a helper has is left to the registered helpers, and what comes
of it is a text. -/
theorem Call.outcome_of_registered (hfree : isReserved name = false) (hregistered : env.isRegistered name = true)
    {isBlock : Bool} (hnamed : call.callee.name env scope = (.ok name, after)) :
    call.outcome env binders isBlock body inverse scope = (do
      let arguments ← evalArguments env call.arguments
      let named ← evalNamed env call.named
      let text ← Invocation.registered ⟨name, arguments, named, binders, isBlock, body, inverse⟩ env
      return .text text : Render Invocation.Outcome) after := by
  simp only [Call.outcome, Call.prepare, bind_assoc, pure_bind, Invocation.withSections]
  refine (Render.bind_ok hnamed).trans (congrFun (bind_congr fun arguments => bind_congr fun _ => ?_) after)
  rw [Invocation.run_of_notMem (notMem_ownNames_of_not_isReserved hfree), if_pos hregistered]

theorem Call.invoke_of_registered (hfree : isReserved name = false) (hregistered : env.isRegistered name = true)
    {isBlock : Bool} (hnamed : call.callee.name env scope = (.ok name, after)) :
    call.invoke env binders isBlock body inverse scope = (do
      let arguments ← evalArguments env call.arguments
      let named ← evalNamed env call.named
      Invocation.registered ⟨name, arguments, named, binders, isBlock, body, inverse⟩ env) after := by
  rw [Call.invoke_eq, Render.bind_congr_from (Call.outcome_of_registered hfree hregistered hnamed)]
  simp only [bind_assoc, pure_bind, Invocation.Outcome.printed, bind_pure]

/-- As an argument, the text that a helper writes is a value. -/
theorem Call.eval_of_registered (hfree : isReserved name = false) (hregistered : env.isRegistered name = true)
    (hnamed : call.callee.name env scope = (.ok name, after)) :
    call.eval env scope = (do
      let text ← call.invoke env .none false none none
      return .string text : Render Json) scope := by
  rw [Call.eval_eq, Render.bind_congr_from (Call.outcome_of_registered hfree hregistered hnamed),
    Render.bind_congr_from (Call.invoke_of_registered hfree hregistered hnamed)]
  simp only [bind_assoc, pure_bind, Invocation.Outcome.toJson]

/-- A name alone that a helper has is a call. -/
theorem Call.print_of_registered (hbare : call.isBare = true) (hregistered : env.isRegistered name = true)
    (hnamed : call.callee.name env scope = (.ok name, after)) :
    call.print env scope = call.invoke env .none false none none after := by
  have hknown : env.knows name = true := by
    rw [Environment.knows, hregistered, Bool.or_true, Bool.true_or]
  rw [Call.print_eq_of_bare env hbare, Render.bind_ok hnamed, if_pos hknown]

end

end Template

/-! ## Renderers -/

namespace Renderer

variable {renderer other : Renderer} {data : Json}

/-- Renderers with the same templates and helpers that answer alike render the same. -/
theorem renderNamed_of_answersAlike (h : (renderer.environment data).AnswersAlike (other.environment data))
    (htemplates : renderer.templates = other.templates) (name : String) :
    renderer.renderNamed name data = other.renderNamed name data := by
  rw [renderNamed, renderNamed, htemplates]
  split
  · rw [renderBody, renderBody, h.renderAlone_eq]
  · rfl

theorem render_of_answersAlike (h : (renderer.environment data).AnswersAlike (other.environment data))
    (source : String) : renderer.render source data = other.render source data := by
  rw [render, render]
  split
  · rw [renderBody, renderBody, h.renderAlone_eq]
  · rfl

/-- The helpers of two registries under one name answer alike as long as the name is not reserved and they get
the whole data. -/
structure AnswerAlike (data : Json) (helpers helpers' : HelperRegistry)
    (blockHelpers blockHelpers' : BlockHelperRegistry) : Prop where
  inline : ∀ name arguments, isReserved name = false →
    (helpers.get? name).map (· data arguments) = (helpers'.get? name).map (· data arguments)
  block : ∀ name call, isReserved name = false → call.context = data →
    (blockHelpers.get? name).map (· call) = (blockHelpers'.get? name).map (· call)

theorem AnswerAlike.answersAlike {helpers helpers' : HelperRegistry}
    {blockHelpers blockHelpers' : BlockHelperRegistry}
    (h : AnswerAlike data helpers helpers' blockHelpers blockHelpers') (bodies : List (String × Body)) :
    (((new helpers blockHelpers).addAll bodies).environment data).AnswersAlike
      (((new helpers' blockHelpers').addAll bodies).environment data) where
  data := rfl
  templates := rfl
  inline name arguments := by
    change ((unreserved helpers.entries).get? name).map (· data arguments) =
      ((unreserved helpers'.entries).get? name).map (· data arguments)
    rw [get?_unreserved, get?_unreserved]
    cases hfree : isReserved name with
    | true => rfl
    | false => exact h.inline name arguments hfree
  block name call hcontext := by
    change ((unreserved blockHelpers.entries).get? name).map (· call) =
      ((unreserved blockHelpers'.entries).get? name).map (· call)
    rw [get?_unreserved, get?_unreserved]
    cases hfree : isReserved name with
    | true => rfl
    | false => exact h.block name call hfree hcontext

theorem answerAlike_withoutReserved (data : Json) (helpers : HelperRegistry) (blockHelpers : BlockHelperRegistry) :
    AnswerAlike data helpers helpers.withoutReserved blockHelpers blockHelpers.withoutReserved where
  inline name arguments hfree := by
    rw [Registry.get?_withoutReserved, hfree]
    rfl
  block name call hfree _ := by
    rw [Registry.get?_withoutReserved, hfree]
    rfl

/-- Wherever rendering comes to a call of a name that is not reserved, it runs the helper of the tables for the kind of
the call, with the whole data and the values that the arguments have there. -/
structure Dispatches (renderer : Renderer) (inlineHelpers : String → Option InlineHelper)
    (blockHelpers : String → Option BlockHelper) (name : Option String) (body : Body) (data : Json) : Prop where
  inline : ∀ limit call binders own inverse scope called after helper,
    renderer.ComesTo name body data ⟨limit, .tag call binders false own inverse, scope⟩ →
    call.callee.name (renderer.environment data) scope = (.ok called, after) → isReserved called = false →
    inlineHelpers called = some helper →
      Task.run (renderer.environment data) limit (.tag call binders false own inverse) scope = (do
        let arguments ← evalArguments (renderer.environment data) call.arguments
        let _ ← evalNamed (renderer.environment data) call.named
        .ofExcept ((helper data (arguments.map Found.value)).mapError (Cause.helper called)) : Render String) after
  block : ∀ limit call binders own inverse scope called after helper,
    renderer.ComesTo name body data ⟨limit, .tag call binders true own inverse, scope⟩ →
    call.callee.name (renderer.environment data) scope = (.ok called, after) → isReserved called = false →
    blockHelpers called = some helper →
      Task.run (renderer.environment data) limit (.tag call binders true own inverse) scope = (do
        let arguments ← evalArguments (renderer.environment data) call.arguments
        let named ← evalNamed (renderer.environment data) call.named
        let sections : Invocation := ⟨called, arguments, named, binders, true,
          own.render (renderer.environment data) (expand (renderer.environment data) limit),
          inverse.render (renderer.environment data) (expand (renderer.environment data) limit)⟩
        sections.carryOut (helper ⟨called, named.map fun (name, found) => (name, found.value), inverse.isPresent,
          data, arguments.map Found.value⟩) : Render String) after
  /-- A name alone is a call, too. -/
  bare : ∀ limit call scope called after,
    renderer.ComesTo name body data ⟨limit, .element (.expression call), scope⟩ → call.isBare = true →
    call.callee.name (renderer.environment data) scope = (.ok called, after) → isReserved called = false →
    (inlineHelpers called).isSome = true →
      Task.run (renderer.environment data) limit (.element (.expression call)) scope =
        Task.run (renderer.environment data) limit (.tag call .none false .absent .absent) after
  /-- The text of a call is its value where another call needs it. -/
  operand : ∀ limit call rest scope called after,
    renderer.ComesTo name body data ⟨limit, .operands (.call call :: rest), scope⟩ →
    call.callee.name (renderer.environment data) scope = (.ok called, after) → isReserved called = false →
    (inlineHelpers called).isSome = true →
      (Operand.call call).eval (renderer.environment data) scope = (do
        let text ← Task.run (renderer.environment data) limit (.tag call .none false .absent .absent)
        return .derived (.string text) : Render Found) scope

theorem dispatches_of_lookup {inline : String → Option InlineHelper} {block : String → Option BlockHelper}
    (hinline : ∀ called, isReserved called = false → renderer.inline.get? called = inline called)
    (hblock : ∀ called, isReserved called = false → renderer.block.get? called = block called)
    (name : Option String) (body : Body) (data : Json) : renderer.Dispatches inline block name body data := by
  have hregistered (called : String) (hfree : isReserved called = false) (hfound : (inline called).isSome = true) :
      (renderer.environment data).isRegistered called = true := by
    rw [← hinline called hfree] at hfound
    exact Bool.or_eq_true_iff.mpr (.inl hfound)
  constructor
  · intro limit call binders own inverse scope called after helper _ hnamed hfree hfound
    have hentry : (renderer.environment data).inline.lookup called = some helper := (hinline called hfree).trans hfound
    change call.invoke _ _ _ _ _ _ = _
    rw [Call.invoke_of_registered hfree (hregistered called hfree (hfound ▸ rfl)) hnamed]
    refine congrFun (bind_congr fun arguments => bind_congr fun _ => ?_) after
    exact Invocation.registered_of_inline rfl hentry
  · intro limit call binders own inverse scope called after helper _ hnamed hfree hfound
    have hentry : (renderer.environment data).block.lookup called = some helper := (hblock called hfree).trans hfound
    have hregistered : (renderer.environment data).isRegistered called = true :=
      Bool.or_eq_true_iff.mpr (.inr (by rw [hentry]; rfl))
    change call.invoke _ _ _ _ _ _ = _
    rw [Call.invoke_of_registered hfree hregistered hnamed]
    refine congrFun (bind_congr fun arguments => bind_congr fun values => ?_) after
    rw [Invocation.registered_eq (Invocation.helperPlan?_eq_some.mpr ⟨rfl, helper, hentry, rfl⟩)]
    have hpresent : (inverse.render (renderer.environment data)
        (expand (renderer.environment data) limit)).isSome = inverse.isPresent := by
      cases inverse <;> simp only [Branch.render, Branch.isPresent, Option.isSome]
    simp only [Invocation.blockCall, hpresent]
    rfl
  · intro limit call scope called after _ hbare hnamed hfree hfound
    rw [Task.run_expression, Call.print_of_registered hbare (hregistered called hfree hfound) hnamed]
    simp only [Task.run, Branch.render]
    rfl
  · intro limit call rest scope called after _ hnamed hfree hfound
    change (call.eval _ >>= fun value => pure (Found.derived value)) scope = _
    rw [Render.bind_congr_from (Call.eval_of_registered hfree (hregistered called hfree hfound) hnamed)]
    simp only [Task.run, Branch.render, bind_assoc, pure_bind]
    rfl

/-- Renderers of registries that were filled in any steps: what they have under reserved names does not matter, nor
what a helper would do without the whole data; under any other name a call runs the helper of its kind that was
registered last. -/
theorem dispatches_lastRegistered (helpers : HelperRegistry) (blockHelpers : BlockHelperRegistry)
    (inlineSteps : List (RegistryStep InlineHelper)) (blockSteps : List (RegistryStep BlockHelper))
    (bodies : List (String × Body)) (data : Json) :
    let inline := helpers.takeAll inlineSteps
    let block := blockHelpers.takeAll blockSteps
    let renderer := (new inline block).addAll bodies
    let freed := (new inline.withoutReserved block.withoutReserved).addAll bodies
    ((∀ name, freed.renderNamed name data = renderer.renderNamed name data) ∧
      ∀ source, freed.render source data = renderer.render source data) ∧
    (∀ inline' block', AnswerAlike data inline inline' block block' →
      let other := (new inline' block').addAll bodies
      (∀ name, other.renderNamed name data = renderer.renderNamed name data) ∧
        ∀ source, other.render source data = renderer.render source data) ∧
    ∀ name body, renderer.Dispatches
      (fun called => (lastRegistered? inlineSteps called).or (helpers.get? called))
      (fun called => (lastRegistered? blockSteps called).or (blockHelpers.get? called)) name body data := by
  intro inline block renderer freed
  have halike {inline' : HelperRegistry} {block' : BlockHelperRegistry}
      (h : AnswerAlike data inline inline' block block') :
      (∀ name, ((new inline' block').addAll bodies).renderNamed name data = renderer.renderNamed name data) ∧
        ∀ source, ((new inline' block').addAll bodies).render source data = renderer.render source data :=
    ⟨fun name => (renderNamed_of_answersAlike (h.answersAlike bodies) rfl name).symm,
      fun source => (render_of_answersAlike (h.answersAlike bodies) source).symm⟩
  refine ⟨halike (answerAlike_withoutReserved data inline block), fun _ _ => halike, fun name body => ?_⟩
  refine dispatches_of_lookup (fun called hfree => ?_) (fun called hfree => ?_) name body data
  · change (unreserved inline.entries).get? called = _
    rw [get?_unreserved, hfree, ← Registry.get?_takeAll]
    rfl
  · change (unreserved block.entries).get? called = _
    rw [get?_unreserved, hfree, ← Registry.get?_takeAll]
    rfl

/-- The template `page` wraps the template `row` for every item. -/
def wrappedRows : Body :=
  .cons (some ⟨1, 1⟩) (.block (.mk (.word "each") [.path ⟨"items", false, false, 0, ["items"]⟩] []) .none
    (.cons (some ⟨1, 16⟩) (.block (.mk (.word "wrap") [] []) .none
      (.cons (some ⟨1, 25⟩) (.inclusion (.mk (.word "row") [] []) none .absent) .nil) .absent) .nil)
      .absent) .nil

/-- A helper is called with the current value. -/
def greeting : Call := .mk (.word "greet") [.path ⟨"this", false, false, 0, []⟩] []

/-- The template `row` is the call. -/
def greetingRow : Body := .cons (some ⟨1, 1⟩) (.expression greeting) .nil

/-- Puts a field of the whole data after the first argument. -/
def signed : InlineHelper := fun data arguments =>
  .ok ((arguments.headD .null).printed ++ ((data.field? "sign").getD .null).printed)

/-- A helper is registered twice, and in between one under a reserved name. -/
def greetingSteps : List (RegistryStep InlineHelper) :=
  [.register "greet" fun _ _ => .ok "first", .extend [("each", fun _ _ => .ok "taken"), ("greet", signed)]]

/-- A block helper is registered beside one under a reserved name. -/
def wrappingSteps : List (RegistryStep BlockHelper) :=
  [.extend [("wrap", fun _ => .thenWith false (some (.string "inner")) .write)],
    .register "each" fun _ => .write "taken"]

/-- Data with an item and a sign. -/
def signedData : Json := .object [("items", .array [.string "a"]), ("sign", .string "!")]

/-- A renderer of both templates. -/
def greetingRenderer : Renderer :=
  (new (HelperRegistry.standard.takeAll greetingSteps) (BlockHelperRegistry.empty.takeAll wrappingSteps)).addAll
    [("page", wrappedRows), ("row", greetingRow)]

/-- The call is reached through a repetition, a block helper and another template, where its argument is what the
block helper rendered its section with. -/
theorem comesTo_greeting : ∃ scope, greetingRenderer.ComesTo (some "page") wrappedRows signedData
      ⟨inclusionLimit - 2, .tag greeting .none false .absent .absent, scope⟩ ∧
    evalArguments (greetingRenderer.environment signedData) greeting.arguments scope =
      (.ok [.derived (.string "inner")], scope) := by
  refine ⟨_, .head .first <| .head .block <| .head (.section rfl (.enter (.move .here))) <| .head .anonymous <|
    .head .first <| .head .block <| .head (.section rfl (.enter .here)) <| .head .anonymous <| .head .first <|
    .head (.included rfl rfl rfl (fun hsame => by cases hsame) rfl rfl) <| .head .first <|
    .single (.expression rfl), ?_⟩
  rfl

theorem dispatches_lastRegistered_greeting :
    (∃ scope, Task.run (greetingRenderer.environment signedData) (inclusionLimit - 2)
      (.tag greeting .none false .absent .absent) scope = (.ok "inner!", scope)) ∧
    greetingRenderer.renderNamed "page" signedData = .ok "inner!" ∧
    ((new (HelperRegistry.standard.takeAll greetingSteps).withoutReserved
      (BlockHelperRegistry.empty.takeAll wrappingSteps).withoutReserved).addAll
        [("page", wrappedRows), ("row", greetingRow)]).renderNamed "page" signedData = .ok "inner!" := by
  obtain ⟨scope, hcomes, hevaluated⟩ := comesTo_greeting
  obtain ⟨⟨hfreed, -⟩, -, hdispatches⟩ := dispatches_lastRegistered HelperRegistry.standard BlockHelperRegistry.empty
    greetingSteps wrappingSteps [("page", wrappedRows), ("row", greetingRow)] signedData
  have hsame : greetingRenderer.renderNamed "page" signedData = .ok "inner!" := rfl
  have hcalled := (hdispatches (some "page") wrappedRows).inline _ _ _ _ _ _ "greet" _ signed hcomes rfl rfl rfl
  exact ⟨⟨scope, hcalled.trans (Render.bind_ok hevaluated)⟩, hsame, (hfreed "page").trans hsame⟩

end Renderer

end EntityScaffold
