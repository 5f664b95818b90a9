import EntityScaffold.Proofs.Generation.Endings
import EntityScaffold.Proofs.Generation.Loading
import EntityScaffold.Proofs.Generation.Presets
import EntityScaffold.Proofs.Template.Printing

/-! # Complete runs

A configuration with a preset of names and the helpers of its language is complete with templates that fit
the views. All its roles load, and no output of a run fails, whatever the model is: the run makes every
file that the mode asks for, unless two of them have one name.
-/

namespace EntityScaffold

open Template (Body Shape fitsNamed printedNamed)

variable {σ : Type}

/-! ## Roles that fit -/

/-- The helpers that the templates of every language may use. -/
def languageHelpers : List String := [spacesName, tsTypeName]

/-- The sources of a role are templates, and the one of a name fits a shape with those that it includes. Of
these none includes another. -/
def sourcesFit (sources : List (String × List Char)) (name : String) (shape : Shape) : Bool :=
  (compileAll sources).any fun bodies => fitsNamed languageHelpers bodies.reverse 2 name shape

/-- The template of a role is there, and with those that it may include it fits a shape. -/
structure RoleFits (templates : TemplateSource) (path : String) (partials : List PartialTemplate)
    (shape : Shape) : Prop where
  present : (templates path).isSome = true
  fits : sourcesFit (presentSources templates (roleParts path partials)) path shape = true

namespace Renderer

/-- The template of a name is rendered for every value of a shape. -/
def Renders (renderer : Renderer) (name : String) (shape : Shape) : Prop :=
  ∀ data, shape.Holds data → ∃ text, renderer.renderNamed name data = .ok text

/-- The template of a name is rendered for every value of a shape to what it prints among some templates. -/
def Prints (renderer : Renderer) (templates : List (String × Body)) (name : String) (shape : Shape) : Prop :=
  ∀ data, shape.Holds data → renderer.renderNamed name data = .ok (printedNamed templates 2 name none data)

theorem Prints.renders {renderer : Renderer} {templates : List (String × Body)} {name : String} {shape : Shape}
    (h : renderer.Prints templates name shape) : renderer.Renders name shape :=
  fun data hdata => ⟨_, h data hdata⟩

theorem prints_of_fits {renderer : Renderer} {templates : List (String × Body)} {name : String}
    {shape : Shape} (henv : ∀ data, (renderer.environment data).Provides languageHelpers templates)
    (hfits : fitsNamed languageHelpers templates 2 name shape = true) :
    renderer.Prints templates name shape := by
  intro data hdata
  obtain ⟨body, hbody, htext⟩ := Template.exists_renderAlone (henv data) (by decide) hfits hdata
  have hget : renderer.templates.get? name = some body := hbody
  rw [renderNamed, hget]
  dsimp only
  rw [renderBody, htext]
  rfl

theorem addAll_append (renderer : Renderer) (first second : List (String × Body)) :
    renderer.addAll (first ++ second) = (renderer.addAll first).addAll second := by
  rw [addAll, Keyed.insertAll, List.foldl_append]
  rfl

/-- A role adds templates under the names of its own. If it is enabled, they are its sources, and one of them
fits. -/
theorem exists_loadRole (renderer : Renderer) {templates : TemplateSource} {path : String}
    {partials : List PartialTemplate} {shape : Shape} (enabled : Bool)
    (h : RoleFits templates path partials shape) :
    ∃ bodies, renderer.loadRole templates enabled path partials = .ok (renderer.addAll bodies) ∧
      (∀ name ∈ bodies.map Prod.fst, name ∈ (roleParts path partials).map (·.name)) ∧
      (enabled = true → compileAll (presentSources templates (roleParts path partials)) = some bodies ∧
        fitsNamed languageHelpers bodies.reverse 2 path shape = true) := by
  cases enabled with
  | false =>
    refine ⟨[], rfl, fun _ hname => ?_, fun henabled => ?_⟩
    · cases hname
    · cases henabled
  | true =>
    obtain ⟨bodies, hbodies, hfits⟩ := (Option.any_eq_true _ _).1 h.fits
    refine ⟨bodies, renderer.loadRole_eq h.present hbodies, fun name hname => ?_, fun _ => ⟨hbodies, hfits⟩⟩
    rw [names_of_compileAll hbodies] at hname
    exact mem_names_of_mem_presentSources hname

end Renderer

/-! ## Configurations of presets -/

/-- The configuration for a mode, a language and a preset of names, with the helpers of the language. -/
def GenerationConfig.preset (mode : ReverseEngineerMode) (language : LanguageMode)
    (naming : NamingConvention) : GenerationConfig σ :=
  let config : GenerationConfig σ := .start mode language
  { config with transformers := .ofNaming naming }

namespace LanguageMode

variable {language : LanguageMode} {bodies templates : List (String × Body)}

/-- The renderer with the helpers of a language. -/
def renderer (language : LanguageMode) : Renderer :=
  .new (HelperRegistry.standard.extend language.helpers) .empty

theorem isRegistered_environment {data : Json} {name : String}
    (h : ((language.renderer.addAll bodies).environment data).isRegistered name = true) :
    name ∈ languageHelpers := by
  have hinline : (language.renderer.inline.entries.lookup name).isSome = true := by
    have hblock : language.renderer.block.entries.lookup name = none := rfl
    change ((language.renderer.inline.entries.lookup name).isSome ||
      (language.renderer.block.entries.lookup name).isSome) = true at h
    rwa [hblock, Option.isSome_none, Bool.or_false] at h
  obtain ⟨helper, hhelper⟩ := Option.isSome_iff_exists.1 hinline
  have hsubset : language.renderer.inline.entries.map Prod.fst ⊆ languageHelpers := by
    cases language <;> decide
  exact hsubset (mem_names_of_lookup hhelper)

theorem provides (htemplates : ∀ name body, templates.lookup name = some body →
      (language.renderer.addAll bodies).templates.get? name = some body) (data : Json) :
    ((language.renderer.addAll bodies).environment data).Provides languageHelpers templates where
  registered _ h := isRegistered_environment h
  spaces := by cases language <;> rfl
  templates := htemplates

/-- The templates of a database context and of entity types have no name in common. -/
theorem disjoint_roleParts (language : LanguageMode) {name : String}
    (h : name ∈ (roleParts dbContextTemplate dbContextPartials).map (·.name)) :
    name ∉ (roleParts language.entityTemplate language.entityPartials).map (·.name) := by
  revert name
  cases language <;> decide

end LanguageMode

namespace Scaffolder

theorem compile_preset (mode : ReverseEngineerMode) (language : LanguageMode) (naming : NamingConvention)
    (templates : TemplateSource) :
    compile (σ := σ) (.preset mode language naming) templates =
      (language.renderer.loadRole templates mode.generatesDbContext dbContextTemplate
        dbContextPartials).bind fun renderer =>
          renderer.loadRole templates mode.generatesEntities language.entityTemplate
            language.entityPartials := by
  cases mode <;> rfl

/-- A preset loads the roles of a mode where they fit, and renders them to what their sources print. -/
theorem exists_compile_preset {templates : TemplateSource} (mode : ReverseEngineerMode)
    {language : LanguageMode} (naming : NamingConvention)
    (hcontext : RoleFits templates dbContextTemplate dbContextPartials DbContextView.shape)
    (hentity : RoleFits templates language.entityTemplate language.entityPartials
      EntityTypeView.shape) :
    ∃ renderer, compile (σ := σ) (.preset mode language naming) templates = .ok renderer ∧
      (mode.generatesDbContext = true → ∃ bodies,
        compileAll (presentSources templates (roleParts dbContextTemplate dbContextPartials)) = some bodies ∧
          renderer.Prints bodies.reverse dbContextTemplate DbContextView.shape) ∧
      (mode.generatesEntities = true → ∃ bodies,
        compileAll (presentSources templates (roleParts language.entityTemplate language.entityPartials)) =
            some bodies ∧
          renderer.Prints bodies.reverse language.entityTemplate EntityTypeView.shape) := by
  obtain ⟨context, hfirst, hnames, hcontextFits⟩ :=
    language.renderer.exists_loadRole mode.generatesDbContext hcontext
  obtain ⟨entity, hsecond, hnames', hentityFits⟩ :=
    (language.renderer.addAll context).exists_loadRole mode.generatesEntities hentity
  have hget : ∀ name, (language.renderer.addAll (context ++ entity)).templates.get? name =
      (entity.reverse.lookup name).or (context.reverse.lookup name) := by
    intro name
    rw [Renderer.addAll_append, Renderer.get?_addAll, Renderer.get?_addAll]
    exact congrArg _ (Option.or_none ..)
  refine ⟨language.renderer.addAll (context ++ entity), ?_, fun hmode => ?_, fun hmode => ?_⟩
  · rw [compile_preset, hfirst, Renderer.addAll_append]
    exact hsecond
  · -- The role of entity types comes later, but takes no name from the role of the database context.
    obtain ⟨hbodies, hfits⟩ := hcontextFits hmode
    refine ⟨context, hbodies, Renderer.prints_of_fits (LanguageMode.provides fun name body hbody => ?_) hfits⟩
    have hname : name ∈ context.map Prod.fst := by
      have hmem := mem_names_of_lookup hbody
      rwa [List.map_reverse, List.mem_reverse] at hmem
    have hother : name ∉ entity.reverse.map Prod.fst := by
      rw [List.map_reverse, List.mem_reverse]
      exact fun hmem => language.disjoint_roleParts (hnames name hname) (hnames' name hmem)
    rw [hget, lookup_eq_none_of_notMem hother]
    exact hbody
  · obtain ⟨hbodies, hfits⟩ := hentityFits hmode
    refine ⟨entity, hbodies, Renderer.prints_of_fits (LanguageMode.provides fun name body hbody => ?_) hfits⟩
    rw [hget, hbody]
    rfl

end Scaffolder

/-! ## Outputs that do not fail -/

section

variable {scope : GenerationScope} {model : DatabaseModel} {entity : EntityType}

theorem DbContextGenerator.exists_writeCode (h : scope.IsTotal model) (hm : model.IsCounted)
    (hrenders : scope.renderer.Renders dbContextTemplate DbContextView.shape) :
    ∃ text, writeCode .rendering scope model = .ok (some text) := by
  obtain ⟨view, hview, hlength⟩ := DbContextView.exists_build h
  obtain ⟨text, htext⟩ := hrenders view.toJson (DbContextView.holds_shape (hlength ▸ hm.entityTypes))
  refine ⟨text, ?_⟩
  simp only [writeCode, bind, Except.bind, hview, htext]
  rfl

theorem EntityTypeGenerator.exists_writeCode (h : scope.IsTotal model) (hm : model.IsCounted)
    (he : entity ∈ model.entityTypes)
    (hrenders : scope.renderer.Renders scope.language.entityTemplate EntityTypeView.shape) :
    ∃ text, (rendering scope.language).writeCode scope entity = .ok (some text) := by
  obtain ⟨view, hview, hcounted⟩ := EntityTypeView.exists_complete h hm he scope.language
  obtain ⟨text, htext⟩ := hrenders view.toJson hcounted.holds_shape
  refine ⟨text, ?_⟩
  rw [writeCode, if_neg (not_not_intro rfl)]
  simp only [bind, Except.bind, hview, htext]
  rfl

end

/-- An output did not fail, and has a file of a name or no file. -/
def Outcome.Yields (outcome : Outcome) (fileName? : Option String) : Prop :=
  ∃ file : Option GeneratedFile, outcome.result = .ok file ∧ file.map (·.fileName) = fileName?

namespace Outcome.Yields

variable {outcome : Outcome} {fileName? : Option String}

theorem fileName?_eq (h : outcome.Yields fileName?) : outcome.fileName? = fileName? := by
  obtain ⟨file, hresult, hname⟩ := h
  rw [Outcome.fileName?, Outcome.file?, hresult]
  exact hname

theorem exists_result_eq_ok (h : outcome.Yields fileName?) : ∃ file, outcome.result = .ok file := by
  obtain ⟨file, hresult, -⟩ := h
  exact ⟨file, hresult⟩

end Outcome.Yields

/-! ## Runs without failures -/

/-- Where no outcome fails, it does not matter whether a run would stop at a failure. -/
theorem Collected.acceptAll_of_no_failure {outcomes : List Outcome} (collected : Collected)
    (failFast : Bool) (h : ∀ outcome ∈ outcomes, outcome.failure? = none) :
    collected.acceptAll failFast outcomes = collected.acceptAll false outcomes := by
  cases failFast with
  | false => rfl
  | true =>
    induction outcomes generalizing collected with
    | nil => rfl
    | cons outcome rest ih =>
      rw [acceptAll, acceptAll, accept_failFast, h outcome List.mem_cons_self, Option.toList_none,
        firstErrorOr]
      cases collected.accept false outcome with
      | error e => rfl
      | ok next => exact ih next fun other ho => h other (List.mem_cons_of_mem _ ho)

namespace Scaffolder

variable {scaffolder : Scaffolder σ} {model : DatabaseModel} {s : σ}

/-- The names of the entries of outcomes. -/
theorem fileNames_eq (outcomes : List Outcome) :
    outcomes.filterMap Outcome.fileName? = (outcomes.filterMap Outcome.entry?).map Prod.fst := by
  rw [List.map_filterMap]
  refine List.filterMap_congr fun outcome _ => ?_
  rw [Outcome.entry?, Option.map_map]
  rfl

/-- The file of the database context in what a run has collected is that of its only outcome. -/
theorem dbContextFile_of_merges {collected : Collected}
    (h : collected.Merges (scaffolder.runOutcomes model s)) :
    collected.dbContextFile =
      (scaffolder.dbContextOutcome (scaffolder.runScope model s) model).fileName? := by
  rw [h.dbContextFile, filter_isDbContext]
  cases hn : (scaffolder.dbContextOutcome (scaffolder.runScope model s) model).fileName? <;>
    simp [hn]

/-- Where no outcome fails, a run is what it collects without a stop at failures. -/
theorem generate_eq_of_no_failure
    (h : ∀ outcome ∈ scaffolder.runOutcomes model s, outcome.failure? = none) :
    (scaffolder.generate model s).1 =
      ((Collected.empty.acceptAll false (scaffolder.runOutcomes model s)).map Collected.report).bind
        ScaffoldReport.toResult := by
  rw [← Collected.acceptAll_of_no_failure _ scaffolder.options.failFast h]
  rfl

/-- A run in which no output fails makes the files of all outputs if they have different names, and ends
with the first collision of two names otherwise. -/
theorem generate_of_no_failure
    (h : ∀ outcome ∈ scaffolder.runOutcomes model s, ∃ file, outcome.result = .ok file) :
    (((scaffolder.runOutcomes model s).filterMap Outcome.fileName?).Nodup →
      ∃ files, (scaffolder.generate model s).1 = .ok files ∧
        files.files.keys.Perm ((scaffolder.runOutcomes model s).filterMap Outcome.fileName?) ∧
        files.dbContextFile =
          (scaffolder.dbContextOutcome (scaffolder.runScope model s) model).fileName?) ∧
    (¬ ((scaffolder.runOutcomes model s).filterMap Outcome.fileName?).Nodup →
      ∃ fileName first second,
        (scaffolder.generate model s).1 = .error (.fileNameCollision fileName first second) ∧
          FirstCollision (scaffolder.runOutcomes model s) fileName first second) := by
  have hnone : ∀ outcome ∈ scaffolder.runOutcomes model s, outcome.failure? = none := by
    intro outcome ho
    obtain ⟨file, hfile⟩ := h outcome ho
    rw [Outcome.failure?, hfile]
  have hrecoverable : ∀ outcome ∈ scaffolder.runOutcomes model s, outcome.IsRecoverable := by
    intro outcome ho failure hfailure
    rw [← Outcome.failure?_eq_some, hnone outcome ho] at hfailure
    cases hfailure
  cases hc : Collected.empty.acceptAll false (scaffolder.runOutcomes model s) with
  | ok collected =>
    have hmerges := Collected.merges_empty.run hc
    rw [List.nil_append] at hmerges
    refine ⟨fun _ => ⟨collected.report.model, ?_, ?_, ?_⟩, fun hd => absurd hmerges.distinct hd⟩
    · have hfailures : collected.failures = [] := by
        rw [hmerges.failures]
        exact List.filterMap_eq_nil_iff.2 hnone
      rw [generate_eq_of_no_failure hnone, hc]
      simp [Except.map, Except.bind, ScaffoldReport.toResult, Collected.report, hfailures]
    · rw [fileNames_eq]
      exact hmerges.files.map Prod.fst
    · exact dbContextFile_of_merges hmerges
  | error e =>
    obtain ⟨fileName, first, second, rfl, hcollision⟩ :=
      Collected.merges_empty.firstCollision hrecoverable hc
    rw [List.nil_append] at hcollision
    refine ⟨fun hd => absurd hd hcollision.not_nodup, fun _ => ⟨fileName, first, second, ?_, hcollision⟩⟩
    rw [generate_eq_of_no_failure hnone, hc]
    rfl

end Scaffolder

/-! ## Runs of presets -/

/-- The scaffolder of a preset renders all views that its mode asks for. -/
structure Scaffolder.IsComplete (scaffolder : Scaffolder σ) (mode : ReverseEngineerMode)
    (language : LanguageMode) (naming : NamingConvention) : Prop where
  config : scaffolder.config = .preset mode language naming
  dbContext : mode.generatesDbContext = true →
    scaffolder.renderer.Renders dbContextTemplate DbContextView.shape
  entityType : mode.generatesEntities = true →
    scaffolder.renderer.Renders language.entityTemplate EntityTypeView.shape

/-- A preset with templates that fit gives a complete scaffolder. -/
theorem Scaffolder.exists_new_preset {templates : TemplateSource} (mode : ReverseEngineerMode)
    {language : LanguageMode} (naming : NamingConvention) (options : ScaffoldOptions)
    (hcontext : RoleFits templates dbContextTemplate dbContextPartials DbContextView.shape)
    (hentity : RoleFits templates language.entityTemplate language.entityPartials
      EntityTypeView.shape) :
    ∃ scaffolder, new (σ := σ) (.preset mode language naming) templates options = .ok scaffolder ∧
      scaffolder.IsComplete mode language naming := by
  obtain ⟨renderer, hcompile, hdbContext, hentityType⟩ :=
    exists_compile_preset (σ := σ) mode naming hcontext hentity
  refine ⟨⟨.preset mode language naming, options, renderer⟩, by rw [new_eq, hcompile]; rfl, rfl,
    fun hmode => ?_, fun hmode => ?_⟩
  · obtain ⟨_, -, hprints⟩ := hdbContext hmode
    exact hprints.renders
  · obtain ⟨_, -, hprints⟩ := hentityType hmode
    exact hprints.renders

/-- The names of the files that a mode asks for: that of the database context, then those of the entity
types. -/
def ReverseEngineerMode.fileNames (mode : ReverseEngineerMode) (language : LanguageMode)
    (naming : NamingConvention) (contextName : String) (model : DatabaseModel) : List String :=
  (if mode.generatesDbContext then [ModelGenerator.dbContextFileName contextName] else []) ++
    if mode.generatesEntities then
      model.entityTypes.map fun entity => naming.entityName entity.name ++ "." ++ language.extension
    else []

namespace Scaffolder.IsComplete

variable {scaffolder : Scaffolder σ} {mode : ReverseEngineerMode} {language : LanguageMode}
  {naming : NamingConvention} {model : DatabaseModel} {s : σ}

theorem transformers_eq (h : scaffolder.IsComplete mode language naming) :
    scaffolder.config.transformers = .ofNaming naming := by
  rw [h.config]
  rfl

theorem isTotal (h : scaffolder.IsComplete mode language naming) :
    (scaffolder.runScope model s).IsTotal model :=
  isTotal_runScope h.transformers_eq

theorem roles_eq (h : scaffolder.IsComplete mode language naming) :
    scaffolder.config.roles = .select mode language := by
  rw [h.config]
  rfl

theorem language_eq (h : scaffolder.IsComplete mode language naming) :
    (scaffolder.runScope model s).language = language := by
  change scaffolder.config.roles.language = language
  rw [h.roles_eq]
  rfl

/-- No name fails, so the outcomes are those of the database context and of the entities. -/
theorem runOutcomes_eq (h : scaffolder.IsComplete mode language naming) :
    scaffolder.runOutcomes model s =
      scaffolder.dbContextOutcome (scaffolder.runScope model s) model ::
        model.entityTypes.map (scaffolder.entityOutcome (scaffolder.runScope model s)) := by
  rw [runOutcomes, outcomes, resolution_ofNaming h.transformers_eq]
  rfl

theorem yields_dbContextOutcome (h : scaffolder.IsComplete mode language naming)
    (hm : model.IsCounted) :
    (scaffolder.dbContextOutcome (scaffolder.runScope model s) model).Yields
      (if mode.generatesDbContext then
        some (ModelGenerator.dbContextFileName (scaffolder.options.contextNameFor model))
      else none) := by
  have hlanguage : ¬ (scaffolder.runScope model s).language ≠ language :=
    not_not_intro h.language_eq
  simp only [Outcome.Yields, dbContextOutcome, ModelGenerator.generateDbContext, h.roles_eq,
    RoleBindings.select, if_neg hlanguage]
  split
  · next hmode =>
    obtain ⟨text, htext⟩ :=
      DbContextGenerator.exists_writeCode (h.isTotal (s := s)) hm (h.dbContext hmode)
    rw [htext]
    exact ⟨_, rfl, rfl⟩
  · exact ⟨_, rfl, rfl⟩

theorem yields_entityOutcome (h : scaffolder.IsComplete mode language naming)
    (hm : model.IsCounted) {entity : EntityType} (he : entity ∈ model.entityTypes) :
    (scaffolder.entityOutcome (scaffolder.runScope model s) entity).Yields
      (if mode.generatesEntities then
        some (naming.entityName entity.name ++ "." ++ language.extension)
      else none) := by
  have hmentioned := model.entity_mem_mentionedNames he
  have hname : (scaffolder.runScope model s).names.get entity.name =
      .ok ⟨naming.entityName entity.name, naming.entityName entity.name⟩ :=
    get_runScope h.transformers_eq hmentioned
  have hfailed : ¬ (scaffolder.runScope model s).names.isFailed entity.name = true :=
    Bool.eq_false_iff.1 (((covers_runScope scaffolder model s).exists_get_eq_ok hmentioned).1 ⟨_, hname⟩)
  have hfile : ModelGenerator.entityFileName (scaffolder.runScope model s) entity =
      .ok (naming.entityName entity.name ++ "." ++ language.extension) := by
    rw [ModelGenerator.entityFileName, EntityNames.fileStem, hname, h.language_eq]
    rfl
  simp only [Outcome.Yields, entityOutcome, if_neg hfailed, ModelGenerator.generateEntity, h.roles_eq,
    RoleBindings.select, hfile]
  split
  · next hmode =>
    obtain ⟨text, htext⟩ := EntityTypeGenerator.exists_writeCode (h.isTotal (s := s)) hm he
      (h.language_eq ▸ h.entityType hmode)
    rw [h.language_eq] at htext
    rw [htext]
    exact ⟨_, rfl, rfl⟩
  · exact ⟨_, rfl, rfl⟩

/-- No output fails. -/
theorem exists_result_eq_ok (h : scaffolder.IsComplete mode language naming) (hm : model.IsCounted)
    {outcome : Outcome} (ho : outcome ∈ scaffolder.runOutcomes model s) :
    ∃ file, outcome.result = .ok file := by
  rw [h.runOutcomes_eq] at ho
  rcases List.mem_cons.1 ho with rfl | ho
  · exact (h.yields_dbContextOutcome hm).exists_result_eq_ok
  · obtain ⟨entity, he, rfl⟩ := List.mem_map.1 ho
    exact (h.yields_entityOutcome hm he).exists_result_eq_ok

/-- The outputs have the files that the mode asks for. -/
theorem fileNames_runOutcomes (h : scaffolder.IsComplete mode language naming)
    (hm : model.IsCounted) : (scaffolder.runOutcomes model s).filterMap Outcome.fileName? =
      mode.fileNames language naming (scaffolder.options.contextNameFor model) model := by
  have hentities : (model.entityTypes.map
      (scaffolder.entityOutcome (scaffolder.runScope model s))).filterMap Outcome.fileName? =
      if mode.generatesEntities then
        model.entityTypes.map fun entity => naming.entityName entity.name ++ "." ++ language.extension
      else [] := by
    rw [List.filterMap_map]
    refine (List.filterMap_congr fun entity he => (h.yields_entityOutcome hm he).fileName?_eq).trans ?_
    split
    · exact congrFun List.filterMap_eq_map _
    · exact List.filterMap_eq_nil_iff.2 fun _ _ => rfl
  rw [h.runOutcomes_eq, List.filterMap_cons, (h.yields_dbContextOutcome hm).fileName?_eq, hentities,
    ReverseEngineerMode.fileNames]
  cases mode.generatesDbContext <;> rfl

end Scaffolder.IsComplete

end EntityScaffold
