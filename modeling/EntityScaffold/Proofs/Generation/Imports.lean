import EntityScaffold.Proofs.Generation.Files

/-! # Imports of interfaces

Where every navigation of a model leads to one of its entities, an interface imports classes from the files that
the run makes: what stands behind the path of an import is the file of an entity with the class that is imported,
also where several entities share that class.
-/

namespace EntityScaffold

variable {σ : Type}

/-- Every navigation leads to an entity of the model. -/
def DatabaseModel.IsClosed (model : DatabaseModel) : Prop :=
  ∀ entity ∈ model.entityTypes, ∀ navigation ∈ entity.navigations,
    ∃ target ∈ model.entityTypes, target.name = navigation.targetEntity

instance (model : DatabaseModel) : Decidable model.IsClosed :=
  inferInstanceAs (Decidable (∀ entity ∈ model.entityTypes, ∀ navigation ∈ entity.navigations,
    ∃ target ∈ model.entityTypes, target.name = navigation.targetEntity))

namespace Scaffolder

/-- Among files there is that of an entity, which the run rendered from a view. -/
structure HasInterface (scaffolder : Scaffolder σ) (model : DatabaseModel) (s : σ) (files : ScaffoldedModel)
    (entity : EntityType) (view : EntityTypeView) (stem : String) : Prop where
  complete : EntityTypeView.complete .typescript (scaffolder.runScope model s) entity = .ok view
  file : ∃ code, files.get? (stem ++ ".ts") = some code ∧
    scaffolder.renderer.renderNamed LanguageMode.typescript.entityTemplate view.toJson = .ok code ∧
    (scaffolder.entityOutcome (scaffolder.runScope model s) entity).result = .ok (some ⟨stem ++ ".ts", code⟩)
  /-- No other output of the run makes the file. -/
  only : ∀ outcome ∈ scaffolder.runOutcomes model s, outcome.fileName? = some (stem ++ ".ts") →
    outcome = scaffolder.entityOutcome (scaffolder.runScope model s) entity

variable {scaffolder : Scaffolder σ} {model : DatabaseModel} {s : σ} {files : ScaffoldedModel}
  {entity : EntityType}

theorem entityOutcome_mem_runOutcomes (scaffolder : Scaffolder σ) (s : σ) (he : entity ∈ model.entityTypes) :
    scaffolder.entityOutcome (scaffolder.runScope model s) entity ∈ scaffolder.runOutcomes model s :=
  List.mem_append_right _ (List.mem_cons_of_mem _ (List.mem_map_of_mem he))

/-- A run that makes files makes one for each entity if entities are generated at all. -/
theorem Makes.exists_file (h : scaffolder.Makes model s files) (hc : scaffolder.config.HasOwnRoles)
    (hmode : scaffolder.config.mode.generatesEntities = true) (he : entity ∈ model.entityTypes) :
    ∃ file, (scaffolder.entityOutcome (scaffolder.runScope model s) entity).result = .ok (some file) := by
  obtain ⟨hnames, -, hentities⟩ := succeeds_iff.1 h.succeeds
  obtain ⟨file?, hfile⟩ := hentities entity he
  cases file? with
  | some file => exact ⟨file, hfile⟩
  | none =>
    have hnone : scaffolder.entityResult model s entity = .ok none := by rw [entityResult, hnames]; exact hfile
    have hdisabled := disabled_of_entityResult hnone
    rw [roles_entityType hc model s, if_pos hmode] at hdisabled
    cases hdisabled

/-- The file of an entity has the code that the run made, and no other output makes it. -/
theorem Makes.of_file (h : scaffolder.Makes model s files) (he : entity ∈ model.entityTypes)
    {file : GeneratedFile}
    (hfile : (scaffolder.entityOutcome (scaffolder.runScope model s) entity).result = .ok (some file)) :
    files.get? file.fileName = some file.code ∧
    ∀ outcome ∈ scaffolder.runOutcomes model s, outcome.fileName? = some file.fileName →
      outcome = scaffolder.entityOutcome (scaffolder.runScope model s) entity := by
  have hmem := scaffolder.entityOutcome_mem_runOutcomes s he
  have hentry : Outcome.entry? (scaffolder.entityOutcome (scaffolder.runScope model s) entity) =
      some (file.fileName, file.code) := Outcome.entry?_eq_some.2 hfile
  refine ⟨?_, fun outcome ho hname => ?_⟩
  · refine (Keyed.mem_entries_iff files.files).1 (h.entries.mem_iff.2 ?_)
    exact List.mem_filterMap.2 ⟨_, hmem, hentry⟩
  · have hdistinct : ((scaffolder.runOutcomes model s).filterMap Outcome.fileName?).Nodup := by
      rw [fileNames_eq]
      exact (h.entries.map Prod.fst).nodup_iff.1 files.files.nodup_keys
    refine eq_of_nodup_filterMap hdistinct ho hmem hname ?_
    rw [Outcome.fileName?, Outcome.file?, hfile]
    rfl

/-- The file of each entity is there under the names that the table has for it. -/
theorem Makes.hasInterface (h : scaffolder.Makes model s files) (hc : scaffolder.config.HasOwnRoles)
    (hlanguage : scaffolder.config.language = .typescript)
    (hmode : scaffolder.config.mode.generatesEntities = true) (he : entity ∈ model.entityTypes) :
    ∃ names view, (scaffolder.runScope model s).names.get entity.name = .ok names ∧
      view.className = names.className ∧ scaffolder.HasInterface model s files entity view names.fileStem := by
  have hscope : (scaffolder.runScope model s).language = .typescript := by
    rw [language_runScope hc, hc, ← hlanguage]
    rfl
  obtain ⟨⟨fileName, code⟩, hfile⟩ := h.exists_file hc hmode he
  obtain ⟨⟨names, hget, hname⟩, view, hview, hcode⟩ :=
    (refersByNames scaffolder model s).file entity he _ hfile
  obtain ⟨own, hown, hclass⟩ := EntityTypeView.exists_get_of_complete hview
  cases hget.symm.trans hown
  rw [hscope] at hview hcode hname
  obtain ⟨hhas, honly⟩ := h.of_file he hfile
  have hname : fileName = names.fileStem ++ ".ts" := hname.trans String.append_assoc
  subst hname
  exact ⟨names, view, hget, hclass, hview, ⟨code, hhas, hcode, hfile⟩, honly⟩

/-- Where every navigation leads to an entity, whatever an interface imports comes from the interface of an
entity with that class, which the run made as well. -/
theorem generate_importsResolve {steps : List (BuilderStep σ)} {config : GenerationConfig σ}
    {templates : TemplateSource} {options : ScaffoldOptions}
    (hconfig : GenerationBuilder.buildBy steps = .ok config)
    (hnew : new config templates options = .ok scaffolder) (hlanguage : config.language = .typescript)
    (hmode : config.mode.generatesEntities = true) (hclosed : model.IsClosed)
    (hgenerate : (scaffolder.generate model s).1 = .ok files) :
    ∀ entity ∈ model.entityTypes, ∃ view stem, scaffolder.HasInterface model s files entity view stem ∧
      ∀ item ∈ view.imports, ∃ target ∈ model.entityTypes, ∃ other source,
        scaffolder.HasInterface model s files target other source ∧
        item.path = some ("./" ++ source) ∧ other.className = item.name := by
  obtain ⟨rfl, -⟩ := of_new hnew
  have hc := GenerationBuilder.hasOwnRoles_of_buildBy hconfig
  have hmakes := makes_of_generate hgenerate
  intro entity he
  obtain ⟨names, view, -, -, hinterface⟩ := hmakes.hasInterface hc hlanguage hmode he
  refine ⟨view, names.fileStem, hinterface, fun item hitem => ?_⟩
  obtain ⟨before, navigation, after, resolved, hsplit, hresolved, -, -, rfl⟩ :=
    (EntityTypeView.mem_imports hinterface.complete item).1 hitem
  have hnavigation : navigation ∈ entity.navigations := by
    rw [hsplit]
    exact List.mem_append_right _ List.mem_cons_self
  obtain ⟨target, htarget, hname⟩ := hclosed entity he navigation hnavigation
  obtain ⟨names', other, hget, hclass, hother⟩ := hmakes.hasInterface hc hlanguage hmode htarget
  rw [hname, hresolved] at hget
  cases hget
  exact ⟨target, htarget, other, resolved.fileStem, hother, rfl, hclass⟩

/-- Steps after which copies of orders have the class of orders. -/
def sharedClassSteps : List (BuilderStep Unit) :=
  [.configure .entitiesOnly .typescript, .registerTransformers { TransformerSet.empty with
    entityName := some (TransformerSet.total fun name => if name = "Copy" then "Order" else name) }]

/-- The scaffolder after these steps with a template of one word. -/
def sharedClassScaffolder : Scaffolder Unit :=
  let config : GenerationConfig Unit := .start .entitiesOnly .typescript
  ⟨{ config with transformers := { TransformerSet.empty with
      entityName := some (TransformerSet.total fun name => if name = "Copy" then "Order" else name) } },
    {}, { Renderer.new config.helpers config.blockHelpers with
      templates := Keyed.empty.insert LanguageMode.typescript.entityTemplate
        (.cons none (.text "interface") .nil) }⟩

/-- A line of an order and of a copy of it. -/
def copiedLine : EntityType :=
  ((EntityType.new "Line").withNavigation (.reference "Order" "Order")).withNavigation (.reference "Copy" "Copy")

/-- A shop with such lines. -/
def copyingShop : DatabaseModel := ⟨"Shop", [copiedLine, .new "Copy", .new "Order"]⟩

/-- A line imports the class that an order and its copy have once, from the file of the order. -/
theorem generate_importsResolve_sharedClass :
    GenerationBuilder.buildBy sharedClassSteps = .ok sharedClassScaffolder.config ∧
    new sharedClassScaffolder.config
      (fun path => if path = LanguageMode.typescript.entityTemplate then some "interface" else none) {} =
        .ok sharedClassScaffolder ∧
    copyingShop.IsClosed ∧ ∃ files, (sharedClassScaffolder.generate copyingShop ()).1 = .ok files ∧
      files.files.keys = ["Copy.ts", "Line.ts", "Order.ts"] ∧
      ∃ view stem, sharedClassScaffolder.HasInterface copyingShop () files copiedLine view stem ∧
        view.imports = [⟨"Order", some "./Order"⟩] ∧
        ∃ target ∈ copyingShop.entityTypes, ∃ other source,
          sharedClassScaffolder.HasInterface copyingShop () files target other source ∧
          some "./Order" = some ("./" ++ source) ∧ other.className = "Order" := by
  have hconfig : GenerationBuilder.buildBy sharedClassSteps = .ok sharedClassScaffolder.config := rfl
  have hnew : new sharedClassScaffolder.config
      (fun path => if path = LanguageMode.typescript.entityTemplate then some "interface" else none) {} =
        .ok sharedClassScaffolder := rfl
  have hclosed : copyingShop.IsClosed := by decide
  have hgenerate : (sharedClassScaffolder.generate copyingShop ()).1.bind (fun files => .ok files.files.keys) =
      .ok ["Copy.ts", "Line.ts", "Order.ts"] := rfl
  have hcomplete : (EntityTypeView.complete .typescript (sharedClassScaffolder.runScope copyingShop ())
      copiedLine).map EntityTypeView.imports = .ok [⟨"Order", some "./Order"⟩] := rfl
  obtain ⟨files, hfiles, hkeys⟩ := exists_ok_of_bind hgenerate
  obtain ⟨view, stem, hline, himports⟩ :=
    generate_importsResolve hconfig hnew rfl rfl hclosed hfiles copiedLine List.mem_cons_self
  rw [hline.complete] at hcomplete
  have hview : view.imports = [⟨"Order", some "./Order"⟩] := Except.ok.inj hcomplete
  refine ⟨hconfig, hnew, hclosed, files, hfiles, Except.ok.inj hkeys, view, stem, hline, hview, ?_⟩
  exact himports ⟨"Order", some "./Order"⟩ (by rw [hview]; exact List.mem_cons_self)

end Scaffolder

end EntityScaffold
