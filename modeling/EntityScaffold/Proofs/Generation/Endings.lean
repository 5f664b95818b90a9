import EntityScaffold.Proofs.Generation.Dependencies
import EntityScaffold.Proofs.Generation.Loading
import EntityScaffold.Proofs.Generation.Renderings

/-! # How a run ends

A run that collects failures goes on until two files have one name; no other error ends it. So it returns, unless
templates that include each other make it render without end. A run that stops
at the first failure makes the same steps, so it ends with the first failure that the other run records,
and as the other run does if that records none. It never ends with an output that lacks a name, for the
failure of the name comes before.
-/

namespace EntityScaffold

variable {σ : Type}

/-! ## Stopping at the first failure -/

/-- The error of the first failure, or the result of a run without failures. -/
def firstErrorOr {α : Type} (result : Except GenerationError α) :
    List EntityFailure → Except GenerationError α
  | [] => result
  | failure :: _ => .error failure.error

theorem firstErrorOr_map {α β : Type} (f : α → β) (result : Except GenerationError α)
    (failures : List EntityFailure) :
    firstErrorOr (result.map f) failures = (firstErrorOr result failures).map f := by
  cases failures <;> rfl

/-- Failures that come later do not change the first one. -/
theorem firstErrorOr_of_first {α : Type} {result : Except GenerationError α} {failure : EntityFailure}
    {failures : List EntityFailure} (h : [failure] <+: failures) :
    firstErrorOr result failures = .error failure.error := by
  obtain ⟨rest, rfl⟩ := h
  rfl

namespace Collected

variable {collected next : Collected} {outcomes : List Outcome} {outcome : Outcome}

/-- What a run that collects failures has merged when it ends. -/
def merged (collected : Collected) : List Outcome → Collected
  | [] => collected
  | outcome :: rest =>
    match collected.accept false outcome with
    | .ok next => next.merged rest
    | .error _ => collected

theorem merged_of_acceptAll (h : collected.acceptAll false outcomes = .ok next) :
    collected.merged outcomes = next := by
  induction outcomes generalizing collected with
  | nil => cases h; rfl
  | cons outcome rest ih =>
    obtain ⟨after, hafter, hrest⟩ := exists_ok_of_bind h
    rw [merged, hafter]
    exact ih hrest

/-- A run that ends early ends at an outcome; it has merged those before. -/
theorem exists_refused {e : GenerationError} (h : collected.acceptAll false outcomes = .error e) :
    ∃ before outcome after, outcomes = before ++ outcome :: after ∧
      collected.acceptAll false before = .ok (collected.merged outcomes) ∧
      (collected.merged outcomes).accept false outcome = .error e := by
  induction outcomes generalizing collected with
  | nil => cases h
  | cons outcome rest ih =>
    cases ha : collected.accept false outcome with
    | error e' =>
      simp only [acceptAll, ha, Except.bind] at h
      cases h
      exact ⟨[], outcome, rest, rfl, by rw [merged, ha]; rfl, by rw [merged, ha]; exact ha⟩
    | ok next =>
      simp only [acceptAll, ha, Except.bind] at h
      obtain ⟨before, refused, after, rfl, hbefore, hrefused⟩ := ih h
      refine ⟨outcome :: before, refused, after, rfl, ?_, ?_⟩
      · rw [merged, ha, acceptAll, ha]
        exact hbefore
      · rw [merged, ha]
        exact hrefused

/-- Accepting an outcome keeps the failures and adds that of the outcome. -/
theorem failures_accept (h : collected.accept false outcome = .ok next) :
    next.failures = collected.failures ++ outcome.failure?.toList := by
  unfold accept at h
  cases hr : outcome.result with
  | ok file =>
    have hnone : outcome.failure? = none := by rw [Outcome.failure?, hr]
    rw [hnone, Option.toList_none, List.append_nil]
    rw [hr] at h
    split at h
    · cases h; rfl
    · split at h <;> cases h
      rfl
    · cases ‹Except.ok _ = Except.error _›
  | error failure =>
    rw [hr] at h
    rw [Outcome.failure?_eq_some.2 hr]
    dsimp only at h
    split at h <;> cases h
    rfl

theorem failures_prefix_merged (collected : Collected) (outcomes : List Outcome) :
    collected.failures <+: (collected.merged outcomes).failures := by
  induction outcomes generalizing collected with
  | nil => exact List.prefix_refl _
  | cons outcome rest ih =>
    unfold merged
    split
    · next next hnext =>
      refine List.IsPrefix.trans ?_ (ih next)
      rw [failures_accept hnext]
      exact List.prefix_append _ _
    · exact List.prefix_refl _

/-- The two kinds of runs differ at failures only. -/
theorem accept_failFast (collected : Collected) (outcome : Outcome) :
    collected.accept true outcome =
      firstErrorOr (collected.accept false outcome) outcome.failure?.toList := by
  unfold accept Outcome.failure?
  cases outcome.result with
  | ok file => cases file <;> rfl
  | error failure => simp [firstErrorOr]

/-- A run that stops at the first failure ends with the first failure that the other run records, or else
as the other run does. -/
theorem acceptAll_failFast (h : collected.failures = []) :
    collected.acceptAll true outcomes =
      firstErrorOr (collected.acceptAll false outcomes) (collected.merged outcomes).failures := by
  induction outcomes generalizing collected with
  | nil => rw [merged, h]; rfl
  | cons outcome rest ih =>
    rw [acceptAll, accept_failFast]
    cases hf : outcome.failure? with
    | none =>
      simp only [Option.toList_none, firstErrorOr, acceptAll]
      cases ha : collected.accept false outcome with
      | error e => rw [merged, ha, h]; rfl
      | ok next =>
        rw [merged, ha]
        exact ih (by rw [failures_accept ha, h, hf]; rfl)
    | some failure =>
      rw [Option.toList_some, firstErrorOr, acceptAll, merged]
      cases ha : collected.accept false outcome with
      | error e =>
        -- A failure is refused only if it is fatal, and then by either kind of run.
        have herror : e = failure.error := by
          rw [accept, Outcome.failure?_eq_some.1 hf] at ha
          dsimp only at ha
          split at ha <;> cases ha
          rfl
        rw [herror]
        dsimp only
        rw [h]
        rfl
      | ok next =>
        have hnext : next.failures = [failure] := by rw [failures_accept ha, h, hf]; rfl
        exact (firstErrorOr_of_first (hnext ▸ next.failures_prefix_merged rest)).symm

end Collected

namespace Scaffolder

variable {scaffolder : Scaffolder σ} {model : DatabaseModel} {s : σ}

/-- The scaffolder that stops at the first failure. -/
def failingFast (scaffolder : Scaffolder σ) : Scaffolder σ :=
  { scaffolder with options := { scaffolder.options with failFast := true } }

/-- The failures that a run records before it ends, if it collects them. -/
def recorded (scaffolder : Scaffolder σ) (model : DatabaseModel) (s : σ) : List EntityFailure :=
  (Collected.empty.merged (scaffolder.runOutcomes model s)).failures

/-- A run that stops at the first failure ends with the first failure that the other run records, or else
as the other run does. -/
theorem generateReport_failingFast (hfast : scaffolder.options.failFast = false) :
    (scaffolder.failingFast.generateReport model s).1 =
      firstErrorOr (scaffolder.generateReport model s).1 (scaffolder.recorded model s) := by
  rw [generateReport_eq, generateReport_eq, hfast, firstErrorOr_map, recorded,
    ← Collected.acceptAll_failFast rfl]
  rfl

/-- What a report has are all failures recorded. -/
theorem recorded_of_ok {report : ScaffoldReport} (hfast : scaffolder.options.failFast = false)
    (hr : (scaffolder.generateReport model s).1 = .ok report) :
    scaffolder.recorded model s = report.failures := by
  rw [generateReport_eq, hfast] at hr
  obtain ⟨collected, hc, rfl⟩ := exists_ok_of_map hr
  rw [recorded, Collected.merged_of_acceptAll hc]
  rfl

/-- What has been recorded are the failures of the outcomes that were merged. -/
theorem recorded_prefix (scaffolder : Scaffolder σ) (model : DatabaseModel) (s : σ) :
    scaffolder.recorded model s <+: (scaffolder.runOutcomes model s).filterMap Outcome.failure? := by
  cases ha : Collected.empty.acceptAll false (scaffolder.runOutcomes model s) with
  | ok collected =>
    rw [recorded, Collected.merged_of_acceptAll ha, (Collected.merges_empty.run ha).failures]
    exact List.prefix_refl _
  | error e =>
    obtain ⟨before, outcome, after, hsplit, hbefore, -⟩ := Collected.exists_refused ha
    rw [recorded, (Collected.merges_empty.run hbefore).failures, hsplit, List.nil_append,
      List.filterMap_append]
    exact List.prefix_append _ _

/-- A run that stops at the first failure does not end with an output that lacks a name. -/
theorem failingFast_ne_failedDependency (hc : scaffolder.config.HasOwnRoles)
    (hfast : scaffolder.options.failFast = false) (name : String) :
    (scaffolder.failingFast.generateReport model s).1 ≠ .error (.failedDependency name) := by
  intro h
  rw [generateReport_failingFast hfast] at h
  have hrecorded := recorded_prefix scaffolder model s
  cases hr : scaffolder.recorded model s with
  | nil =>
    rw [hr] at h
    obtain ⟨_, _, _, hcollision, -⟩ := firstCollision_of_error hc hfast h
    cases hcollision
  | cons failure rest =>
    rw [hr] at h hrecorded
    obtain ⟨others, hfailures⟩ := hrecorded
    exact head_ne_failedDependency hc hfailures.symm (Except.error.inj h)

/-- Where a run collides: the outcomes before the collision have files of distinct names, one of which the
outcome takes again. -/
theorem exists_collision (hc : scaffolder.config.HasOwnRoles)
    (hfast : scaffolder.options.failFast = false) {fileName first second : String}
    (h : (scaffolder.generateReport model s).1 = .error (.fileNameCollision fileName first second)) :
    ∃ before outcome after, scaffolder.runOutcomes model s = before ++ outcome :: after ∧
      (before.filterMap Outcome.fileName?).Nodup ∧
      (∃ earlier ∈ before, earlier.fileName? = some fileName ∧ earlier.origin = first) ∧
      outcome.fileName? = some fileName ∧ outcome.origin = second ∧
      scaffolder.recorded model s = before.filterMap Outcome.failure? := by
  rw [generateReport_eq, hfast, map_eq_error] at h
  obtain ⟨before, outcome, after, hsplit, hbefore, hrefused⟩ := Collected.exists_refused h
  have hmerges := Collected.merges_empty.run hbefore
  rw [List.nil_append] at hmerges
  have hmem : outcome ∈ scaffolder.runOutcomes model s := by simp [hsplit]
  obtain ⟨_, _, he, hname, hearlier⟩ :=
    hmerges.collision (isRecoverable_of_mem_runOutcomes hc hmem) hrefused
  cases he
  exact ⟨before, outcome, after, hsplit, hmerges.distinct, hearlier, hname, rfl, hmerges.failures⟩

/-- Two scaffolders that differ only in stopping at the first failure agree. Where the one that collects
reports no failure, the other makes an equal report; where it reports failures, the other ends with the
error of the first; where it ends with a collision, so does the other, unless a failure was recorded
before. The other never ends with an output that lacks a name. -/
theorem generateReport_failFast {steps : List (BuilderStep σ)} {config : GenerationConfig σ}
    {templates : TemplateSource} {options : ScaffoldOptions}
    (hconfig : GenerationBuilder.buildBy steps = .ok config)
    (hnew : new config templates { options with failFast := false } = .ok scaffolder)
    (model : DatabaseModel) (s : σ) :
    ∃ failing, new config templates { options with failFast := true } = .ok failing ∧
      (∀ report, (scaffolder.generateReport model s).1 = .ok report →
        (failing.generateReport model s).1 = firstErrorOr (.ok report) report.failures) ∧
      (∀ fileName first second,
        (scaffolder.generateReport model s).1 = .error (.fileNameCollision fileName first second) →
          ∃ before outcome after, scaffolder.runOutcomes model s = before ++ outcome :: after ∧
            (before.filterMap Outcome.fileName?).Nodup ∧
            (∃ earlier ∈ before, earlier.fileName? = some fileName ∧ earlier.origin = first) ∧
            outcome.fileName? = some fileName ∧ outcome.origin = second ∧
            (failing.generateReport model s).1 = firstErrorOr
              (.error (.fileNameCollision fileName first second)) (before.filterMap Outcome.failure?)) ∧
      ∀ name, (failing.generateReport model s).1 ≠ .error (.failedDependency name) := by
  have hc := GenerationBuilder.hasOwnRoles_of_buildBy hconfig
  rw [new_eq] at hnew
  cases hcompiled : compile config templates with
  | error e => rw [hcompiled] at hnew; cases hnew
  | ok renderer =>
    rw [hcompiled] at hnew
    cases hnew
    refine ⟨failingFast ⟨config, { options with failFast := false }, renderer⟩, ?_, fun report hr => ?_,
      fun fileName first second hr => ?_, failingFast_ne_failedDependency hc rfl⟩
    · rw [new_eq, hcompiled]
      rfl
    · rw [generateReport_failingFast rfl, hr, recorded_of_ok rfl hr]
    · obtain ⟨before, outcome, after, hsplit, hd, hearlier, hname, horigin, hrecorded⟩ :=
        exists_collision hc rfl hr
      refine ⟨before, outcome, after, hsplit, hd, hearlier, hname, horigin, ?_⟩
      rw [generateReport_failingFast rfl, hr, hrecorded]

/-- Entities of a model and a name that is refused: collecting goes on to report the entities that lack
the name, stopping ends with the refusal. -/
theorem generateReport_failFast_orderless :
    let line := (EntityType.new "Line").withNavigation (.reference "Order" "Order")
    let model : DatabaseModel := ⟨"Shop", [line, .new "Order"]⟩
    GenerationBuilder.buildBy orderlessSteps = .ok orderlessScaffolder.config ∧
    new orderlessScaffolder.config wordTemplates { failFast := false } = .ok orderlessScaffolder ∧
    ∃ failing, new orderlessScaffolder.config wordTemplates { failFast := true } = .ok failing ∧
      (failing.generateReport model ()).1 = .error (.transformation "Order" .entityName "refused") := by
  intro line model
  have hconfig : GenerationBuilder.buildBy orderlessSteps = .ok orderlessScaffolder.config := rfl
  have hnew : new orderlessScaffolder.config wordTemplates
      { ({} : ScaffoldOptions) with failFast := false } = .ok orderlessScaffolder := rfl
  obtain ⟨failing, hfailing, hok, -, -⟩ := generateReport_failFast hconfig hnew model ()
  refine ⟨hconfig, hnew, failing, hfailing, ?_⟩
  obtain ⟨report, hr, rest, hfailures⟩ : ∃ report,
      (orderlessScaffolder.generateReport model ()).1 = .ok report ∧ ∃ rest, report.failures =
        .mk "Order" (some "Order.ts") (.transformation "Order" .entityName "refused") :: rest :=
    ⟨_, rfl, _, rfl⟩
  rw [hok report hr, hfailures]
  rfl

/-! ## Errors that end a run -/

/-- A run that must not have failures returns what is made of the report. -/
theorem Returns.generate {result : Except GenerationError ScaffoldReport}
    (h : scaffolder.Returns model s scaffolder.generateReport result) :
    scaffolder.Returns model s scaffolder.generate (result.bind ScaffoldReport.toResult) where
  ends := h.ends
  computes := congrArg (fun report => Except.bind report ScaffoldReport.toResult) h.computes

/-- Templates of which the second and the third include each other. -/
def circularTemplates : TemplateSource := fun path =>
  if path = LanguageMode.typescript.entityTemplate then some "{{> imports}}"
  else if path = "TypeScriptEntityType/Partials/Imports.hbs" then some "{{> constructor}}"
  else if path = "TypeScriptEntityType/Partials/Constructor.hbs" then some "{{> imports}}"
  else none

/-- A template that consists of an inclusion. -/
def including (name : String) : Template.Body :=
  .cons (some ⟨1, 1⟩) (.inclusion (.mk (.word name) [] []) none .absent) .nil

/-- The same templates, under their names. -/
def circularBodies : List (String × Template.Body) :=
  [(LanguageMode.typescript.entityTemplate, including "imports"), ("imports", including "constructor"),
    ("constructor", including "imports")]

theorem compileAll_circular : compileAll (presentSources circularTemplates
    (roleParts LanguageMode.typescript.entityTemplate LanguageMode.typescript.entityPartials)) =
      some circularBodies := by
  have hsources : List.Forall₂ (fun part source? => circularTemplates part.path = source?)
      (roleParts LanguageMode.typescript.entityTemplate LanguageMode.typescript.entityPartials)
      [some "{{> imports}}", some "{{> constructor}}", some "{{> imports}}", none] :=
    .cons rfl <| .cons rfl <| .cons rfl <| .cons rfl .nil
  rw [presentSources_eq hsources]
  simp only [roleParts, LanguageMode.entityPartials, List.zip_cons_cons, List.zip_nil_left, List.filterMap_cons,
    List.filterMap_nil, Option.map_some, Option.map_none]
  repeat rw [String.toList_ofList]
  rfl

theorem get?_circular (renderer : Renderer) {name : String} (hname : name ∈ circularBodies.map Prod.fst) :
    ∃ next ∈ circularBodies.map Prod.fst, next ≠ name ∧
      (renderer.addAll circularBodies).templates.get? name = some (including next) := by
  simp only [circularBodies, List.map_cons, List.map_nil, List.mem_cons, List.not_mem_nil, or_false] at hname
  rw [Renderer.get?_addAll]
  rcases hname with rfl | rfl | rfl
  · exact ⟨"imports", by decide, by decide, rfl⟩
  · exact ⟨"constructor", by decide, by decide, rfl⟩
  · exact ⟨"imports", by decide, by decide, rfl⟩

/-- Templates that include each other are compiled, but a run for a model with an entity does not return. -/
theorem not_returns_circular :
    let config : GenerationConfig Unit := .start .entitiesOnly .typescript
    ∃ scaffolder, new config circularTemplates {} = .ok scaffolder ∧
      ∀ result, ¬ scaffolder.Returns ⟨"Shop", [.new "Item"]⟩ () scaffolder.generateReport result := by
  intro config
  let plain := Renderer.new config.helpers config.blockHelpers
  let scaffolder : Scaffolder Unit := ⟨config, {}, plain.addAll circularBodies⟩
  let model : DatabaseModel := ⟨"Shop", [.new "Item"]⟩
  refine ⟨scaffolder, ?_, fun result hreturns => ?_⟩
  · have hpresent : (circularTemplates LanguageMode.typescript.entityTemplate).isSome = true := rfl
    have hcompile : compile config circularTemplates = .ok (plain.addAll circularBodies) := by
      rw [compile]
      change (Except.ok plain).bind (fun renderer => renderer.loadRole circularTemplates true
        LanguageMode.typescript.entityTemplate LanguageMode.typescript.entityPartials) = _
      simp only [Except.bind]
      exact Renderer.loadRole_eq plain hpresent compileAll_circular
    rw [new_eq, hcompile]
    rfl
  · have hmem : LanguageMode.typescript.entityTemplate ∈ circularBodies.map Prod.fst := List.mem_cons_self
    obtain ⟨first, -, -, hfirst⟩ := get?_circular plain hmem
    obtain ⟨view, hview⟩ : ∃ view, EntityTypeView.complete .typescript (scaffolder.runScope model ()) (.new "Item") =
      .ok view := ⟨_, rfl⟩
    have hends := hreturns.ends _ _ (.entityType List.mem_cons_self rfl rfl hview) (including first) hfirst
    have hnames : ∀ name ∈ circularBodies.map Prod.fst, ∃ body,
        (scaffolder.renderer.environment view.toJson).templates.lookup name = some body ∧
          ∃ next ∈ circularBodies.map Prod.fst, next ≠ name ∧ body.IncludesFirst next := by
      intro name hname
      obtain ⟨next, hnext, hne, hbody⟩ := get?_circular plain hname
      exact ⟨including next, hbody, next, hnext, hne, _, _, _, rfl⟩
    exact Template.Evaluation.not_ends_of_includesFirst (by decide) hnames _ hmem hfirst rfl rfl hends

end Scaffolder

end EntityScaffold
