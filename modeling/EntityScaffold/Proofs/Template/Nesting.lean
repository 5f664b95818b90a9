import EntityScaffold.Proofs.Template.FurtherHelpers
import EntityScaffold.Proofs.Template.Origin

/-! # Errors in nested blocks

What fails ends everything around it. As long as the block helpers around it pass on what their sections fail
with, it does not matter how deep it is nested, nor through which blocks, arguments and included templates the
rendering has come to it: the error that is told is the innermost one. Only the name of the template comes from
outside.
-/

namespace EntityScaffold

/-- The template that an error is told for. -/
def GenerationError.template? : GenerationError → Option String
  | .unresolvedHelper _ template | .render template _ => some template
  | _ => none

open Template

namespace Renderer

/-! ## The error of a rendering -/

variable {renderer : Renderer} {name : Option String} {body : Body} {data : Json} {template : String}
  {inner : Evaluation} {cause : Cause}

/-- Rendering a body for the data comes to an evaluation, and everything that is called around it passes the
failures of its sections on. -/
def Encloses (renderer : Renderer) (name : Option String) (body : Body) (data : Json) (inner : Evaluation) : Prop :=
  Evaluation.Encloses (renderer.environment data)
    ⟨inclusionLimit - 1, .body name body, { Scope.start with current := name }⟩ inner

/-- The helpers have no names that templates keep for themselves. -/
structure IsUnreserved (renderer : Renderer) : Prop where
  inline : ∀ name helper, renderer.inline.get? name = some helper → name ∉ Environment.ownNames
  block : ∀ name helper, renderer.block.get? name = some helper → name ∉ Environment.ownNames

/-- A renderer leaves out what its registries have under reserved names. -/
theorem notMem_ownNames_of_get? {α : Type} {entries : Keyed α} {name : String} {helper : α}
    (hfound : (unreserved entries).get? name = some helper) : name ∉ Environment.ownNames := by
  intro hown
  have hreserved : ∀ name ∈ Environment.ownNames, isReserved name = true := by decide
  rw [get?_unreserved, if_pos (hreserved name hown)] at hfound
  cases hfound

theorem isUnreserved_new (helpers : HelperRegistry) (blockHelpers : BlockHelperRegistry)
    (bodies : List (String × Body)) : ((new helpers blockHelpers).addAll bodies).IsUnreserved where
  inline _ _ hfound := notMem_ownNames_of_get? hfound
  block _ _ hfound := notMem_ownNames_of_get? hfound

theorem template?_errorOf (template : String) (failure : Failure) :
    (errorOf template failure).template? = some template := by
  unfold errorOf
  split <;> rfl

/-- What the rendering of a body tells, with errors told for `template`: the innermost error, whatever passes it
on. -/
structure TellsInnermost (renderer : Renderer) (name : Option String) (body : Body) (data : Json)
    (template : String) (result : Except GenerationError String) : Prop where
  cause : ∀ inner cause, renderer.Encloses name body data inner →
    inner.Fails (renderer.environment data) cause →
      ∃ failure, result = .error (errorOf template failure) ∧ failure.cause = cause
  unresolved : ∀ inner step, renderer.Encloses name body data inner →
    inner.Performs (renderer.environment data) step → ¬ step.IsResolved (renderer.environment data) →
      result = .error (.unresolvedHelper step.name template)
  /-- An error of an inline helper is told with the name of the helper and no other. -/
  inlineHelper : ∀ inner call scope helper text, renderer.Encloses name body data inner →
    inner.Performs (renderer.environment data) (.call call scope) → call.isBlock = false →
      renderer.inline.get? call.name = some helper → helper data (call.arguments.map Found.value) = .error text →
        ∃ failure, result = .error (.render template (.failure failure)) ∧
          failure.cause.message = "helper '" ++ call.name ++ "' failed: " ++ text
  /-- An error of a block helper's own, after any sections that it renders. -/
  blockHelper : ∀ inner call scope helper text, renderer.Encloses name body data inner →
    inner.Performs (renderer.environment data) (.call call scope) → call.isBlock = true →
      renderer.block.get? call.name = some helper →
        call.Reports (helper (call.blockCall (renderer.environment data))) scope text →
          ∃ failure, result = .error (.render template (.failure failure)) ∧
            failure.cause.message = "helper '" ++ call.name ++ "' failed: " ++ text
  /-- Where all block helpers pass failures on, there is an innermost one. If it is of a helper, then what goes wrong
  there is a step: the helper is missing, or reports the error itself. -/
  origin : renderer.PassesOn → ∀ error, result = .error error → ∃ inner failure,
    renderer.Encloses name body data inner ∧ inner.Raises (renderer.environment data) failure.cause ∧
      error = errorOf template failure ∧ (renderer.FailsInWords → failure.cause.IsOfHelper →
        ∃ step, inner.Performs (renderer.environment data) step ∧
          step.Raises (renderer.environment data) failure.cause)

/-- What goes wrong in a step is the error of the rendering, for the same cause. -/
theorem renderBody_of_raises {step : Step} (template : String) (hencloses : renderer.Encloses name body data inner)
    (hperforms : inner.Performs (renderer.environment data) step)
    (hraises : step.Raises (renderer.environment data) cause) :
    ∃ failure, renderer.renderBody template name body data = .error (errorOf template failure) ∧
      failure.cause = cause :=
  renderBody_of_fails template (Evaluation.Encloses.fails hencloses (hperforms.fails hraises.fails))

/-- What a helper reports is told with the name that it is called by. -/
theorem renderBody_of_reports {step : Step} {called text : String} (template : String)
    (hencloses : renderer.Encloses name body data inner)
    (hperforms : inner.Performs (renderer.environment data) step)
    (hraises : step.Raises (renderer.environment data) (.helper called text)) :
    ∃ failure, renderer.renderBody template name body data = .error (.render template (.failure failure)) ∧
      failure.cause.message = "helper '" ++ called ++ "' failed: " ++ text := by
  obtain ⟨failure, htold, hsame⟩ := renderBody_of_raises template hencloses hperforms hraises
  rw [errorOf, hsame] at htold
  exact ⟨failure, htold, congrArg Cause.message hsame⟩

theorem tellsInnermost_renderBody (hfree : renderer.IsUnreserved) (template : String) (name : Option String)
    (body : Body) (data : Json) :
    renderer.TellsInnermost name body data template (renderer.renderBody template name body data) where
  cause inner cause hencloses hfails := renderBody_of_fails template (Evaluation.Encloses.fails hencloses hfails)
  unresolved inner step hencloses hperforms hunresolved := by
    obtain ⟨failure, htold, hsame⟩ := renderBody_of_raises template hencloses hperforms (.unresolved hunresolved)
    rwa [errorOf, hsame] at htold
  inlineHelper inner call scope helper text hencloses hperforms hinline hfound hreports :=
    renderBody_of_reports template hencloses hperforms
      (.inlineHelper (hfree.inline _ _ hfound) hinline hfound hreports)
  blockHelper inner call scope helper text hencloses hperforms hblock hfound hreports :=
    renderBody_of_reports template hencloses hperforms
      (.blockHelper (hfree.block _ _ hfound) hblock hfound hreports)
  origin hpasses error hfailed := by
    obtain ⟨failure, htold, hfails⟩ := exists_fails_of_renderBody hfailed
    have hpasses : (renderer.environment data).PassesOn := hpasses
    obtain ⟨inner, hencloses, hraises⟩ := Evaluation.exists_raises hpasses hfails
    refine ⟨inner, failure, hencloses, hraises, htold, fun hwords hhelper => ?_⟩
    have hwords : (renderer.environment data).FailsInWords := hwords
    exact hraises.exists_step hpasses hwords hhelper

theorem template?_renderBody {error : GenerationError}
    (hfailed : renderer.renderBody template name body data = .error error) : error.template? = some template := by
  obtain ⟨failure, rfl, -⟩ := exists_fails_of_renderBody hfailed
  exact template?_errorOf template failure

/-- Through any number of blocks, arguments and included templates the innermost error comes out as it is, told for
the template that was asked for. -/
theorem tellsInnermost (helpers : HelperRegistry) (blockHelpers : BlockHelperRegistry)
    (bodies : List (String × Body)) (data : Json) :
    let renderer := (new helpers blockHelpers).addAll bodies
    (∀ name body, renderer.templates.get? name = some body →
      renderer.TellsInnermost (some name) body data name (renderer.renderNamed name data)) ∧
    (∀ source body, parse source = .ok body →
      renderer.TellsInnermost none body data inlineName (renderer.render source data)) ∧
    (∀ name error, renderer.renderNamed name data = .error error → error.template? = some name) ∧
    ∀ source error, renderer.render source data = .error error → error.template? = some inlineName := by
  intro renderer
  have hfree : renderer.IsUnreserved := isUnreserved_new helpers blockHelpers bodies
  refine ⟨fun name body hfound => ?_, fun source body hparsed => ?_, fun name error hfailed => ?_,
    fun source error hfailed => ?_⟩
  · rw [renderNamed, hfound]
    exact tellsInnermost_renderBody hfree name (some name) body data
  · rw [render, hparsed]
    exact tellsInnermost_renderBody hfree inlineName none body data
  · rw [renderNamed] at hfailed
    split at hfailed
    · exact template?_renderBody hfailed
    · cases hfailed
      exact template?_errorOf name _
  · rw [render] at hfailed
    split at hfailed
    · exact template?_renderBody hfailed
    · cases hfailed
      rfl

/-- The template `page` wraps the template `row`. -/
def wrappedRow : Body :=
  .cons (some ⟨1, 1⟩) (.block (.mk (.word "wrap") [] []) .none
    (.cons (some ⟨1, 10⟩) (.inclusion (.mk (.word "row") [] []) none .absent) .nil) .absent) .nil

/-- A call that another call needs for its argument. -/
def refusal : Call := .mk (.word "refuse") [.literal (.bool true)] []

/-- The template `row` wraps both calls for every item. -/
def refusedRows : Body :=
  .cons (some ⟨1, 1⟩) (.block (.mk (.word "each") [.path ⟨"items", false, false, 0, ["items"]⟩] []) .none
    (.cons (some ⟨1, 16⟩) (.block (.mk (.word "wrap") [] []) .none
      (.cons (some ⟨1, 25⟩) (.expression (.mk (.word "shout") [.call refusal] [])) .nil) .absent) .nil)
      .absent) .nil

/-- Data with an item. -/
def itemData : Json := .object [("items", .array [.bool true])]

/-- A renderer of both templates, where one of the helpers refuses. -/
def refusing : Renderer :=
  (new (HelperRegistry.standard.extend [("refuse", fun _ _ => .error "no"), ("shout", fun _ _ => .ok "!")])
    (BlockHelperRegistry.empty.extend [("wrap", fun _ => .thenWith false none .write)])).addAll
      [("page", wrappedRow), ("row", refusedRows)]

theorem passesOn_refusing : refusing.PassesOn :=
  .of_entries (List.forall_mem_singleton.mpr fun _ => BlockPlan.passesOn_thenWith fun _ => trivial)

/-- The call is reached through two blocks of a helper, another template, a repetition and an argument. -/
theorem encloses_refusal (limit : Nat) : ∃ scope, Evaluation.Encloses (refusing.environment itemData)
    ⟨limit + 1, .body (some "page") wrappedRow, { Scope.start with current := some "page" }⟩
    ⟨limit, .tag refusal .none false .absent .absent, scope⟩ := by
  have hpasses : ∀ evaluation : Evaluation, evaluation.PassesOn (refusing.environment itemData) :=
    .of_all passesOn_refusing
  exact ⟨_, .part (hpasses _) .first <| .part (hpasses _) .block <| .part (hpasses _) (.section rfl .here) <|
    .part (hpasses _) .anonymous <| .part (hpasses _) .first <|
    .part (hpasses _) (.included rfl rfl rfl (fun hsame => by cases hsame) rfl rfl) <|
    .part (hpasses _) .first <| .part (hpasses _) .block <|
    .part (hpasses _) (.section rfl (.enter (.move .here))) <|
    .part (hpasses _) .anonymous <| .part (hpasses _) .first <| .part (hpasses _) .block <|
    .part (hpasses _) (.section rfl .here) <| .part (hpasses _) .anonymous <| .part (hpasses _) .first <|
    .part (hpasses _) (.expression rfl) <| .part (hpasses _) .parts <| .part (hpasses _) (.arguments rfl) <|
    .part (hpasses _) .operand <| .refl _⟩

theorem tellsInnermost_refusal : refusing.templates.get? "page" = some wrappedRow ∧
    ∃ failure, refusing.renderNamed "page" itemData = .error (.render "page" (.failure failure)) ∧
      failure.cause.message = "helper 'refuse' failed: no" := by
  have hfound : refusing.templates.get? "page" = some wrappedRow := rfl
  obtain ⟨scope, hencloses⟩ := encloses_refusal (inclusionLimit - 2)
  obtain ⟨hnamed, -⟩ := tellsInnermost
    (HelperRegistry.standard.extend [("refuse", fun _ _ => .error "no"), ("shout", fun _ _ => .ok "!")])
    (BlockHelperRegistry.empty.extend [("wrap", fun _ => .thenWith false none .write)])
    [("page", wrappedRow), ("row", refusedRows)] itemData
  exact ⟨hfound, (hnamed "page" wrappedRow hfound).inlineHelper _ _ _ _ _ hencloses (.call rfl) rfl rfl rfl⟩

end Renderer

end EntityScaffold
