import EntityScaffold.Proofs.Generation.Complete
import EntityScaffold.Proofs.Templates.Parsed

/-! # The bundled templates

The bundled templates fit the views of all models. So with these templates and a preset of names nothing
fails: a run makes every file that its mode asks for, unless two of them have one name.
-/

namespace EntityScaffold

namespace Bundled

/-! ## Roles -/

-- As for the templates of entity types, each source is taken apart into its characters before it is parsed.
theorem dbContext_fits :
    RoleFits store.get? dbContextTemplate dbContextPartials DbContextView.shape := by
  have hcontext := get?_store 0 rfl
  have hsources : List.Forall₂ (fun part source? => store.get? part.path = source?)
      (roleParts dbContextTemplate dbContextPartials)
      [some dbContext, some dbImports, some dbConstructor, some dbSets] :=
    .cons hcontext <| .cons (get?_store 1 rfl) <| .cons (get?_store 2 rfl) <|
      .cons (get?_store 3 rfl) .nil
  refine ⟨Option.isSome_of_eq_some hcontext, ?_⟩
  rw [presentSources_eq hsources]
  simp only [roleParts, dbContextPartials, List.zip_cons_cons, List.zip_nil_left, List.filterMap_cons,
    List.filterMap_nil, Option.map_some, dbContext, dbImports, dbConstructor, dbSets, toList_lines,
    List.flatMap_cons, List.flatMap_nil]
  repeat rw [String.toList_ofList]
  decide +kernel

theorem isSome_entityTemplate (language : LanguageMode) :
    (store.get? language.entityTemplate).isSome = true := by
  cases language with
  | csharp => exact Option.isSome_of_eq_some (get?_store 4 rfl)
  | typescript => exact Option.isSome_of_eq_some (get?_store 8 rfl)

theorem entityType_fits (language : LanguageMode) :
    RoleFits store.get? language.entityTemplate language.entityPartials EntityTypeView.shape := by
  refine ⟨isSome_entityTemplate language, ?_⟩
  rw [sourcesFit, compileAll_entityBodies]
  cases language <;> decide +kernel

end Bundled

/-! ## Runs -/

namespace Scaffolder

variable {σ : Type}

/-- With the bundled templates every run succeeds, for all options and models: the templates load, no output
fails, and the files are those that the mode asks for. Only if two of these have one name, the run ends with
a collision instead. Lists that fit into a memory can be counted, so no model is left out. -/
theorem generate_bundled (setup options : ScaffoldOptions) :
    ∃ (config : GenerationConfig σ) (scaffolder : Scaffolder σ),
      GenerationBuilder.buildBy [.ofOptions setup] = .ok config ∧
      new config Bundled.store.get? options = .ok scaffolder ∧
      ∀ model : DatabaseModel, model.IsCounted → ∀ s : σ,
        let contextName := options.contextNameFor model
        let fileNames := setup.mode.fileNames setup.language setup.naming contextName model
        (∀ outcome ∈ scaffolder.runOutcomes model s, ∃ file, outcome.result = .ok file) ∧
        (fileNames.Nodup → ∃ files, (scaffolder.generate model s).1 = .ok files ∧
          files.files.keys.Perm fileNames ∧
          files.dbContextFile = if setup.mode.generatesDbContext then
            some (ModelGenerator.dbContextFileName contextName) else none) ∧
        (¬ fileNames.Nodup → ∃ fileName first second,
          (scaffolder.generate model s).1 = .error (.fileNameCollision fileName first second) ∧
            FirstCollision (scaffolder.runOutcomes model s) fileName first second) := by
  obtain ⟨scaffolder, hnew, hcomplete⟩ := exists_new_preset (σ := σ) setup.mode setup.naming options
    Bundled.dbContext_fits (Bundled.entityType_fits setup.language)
  obtain ⟨-, rfl⟩ := of_new hnew
  refine ⟨_, scaffolder, rfl, hnew, fun model hm s => ?_⟩
  have hok : ∀ outcome ∈ scaffolder.runOutcomes model s, ∃ file, outcome.result = .ok file :=
    fun outcome ho => hcomplete.exists_result_eq_ok hm ho
  obtain ⟨hdistinct, hequal⟩ := generate_of_no_failure hok
  rw [hcomplete.fileNames_runOutcomes hm, (hcomplete.yields_dbContextOutcome hm).fileName?_eq] at hdistinct
  rw [hcomplete.fileNames_runOutcomes hm] at hequal
  exact ⟨hok, hdistinct, hequal⟩

/-- A shop whose lines lead to an unknown entity has three files, and ends with a collision once there is a
second entity for lines. -/
theorem generate_bundled_shop :
    let setup : ScaffoldOptions := { language := .typescript, naming := .pascal }
    let line := (EntityType.new "order_line").withNavigation (.reference "Order" "order")
    let shop : DatabaseModel := ⟨"Shop", [line, .new "item"]⟩
    let crowded : DatabaseModel := ⟨"Shop", [line, .new "item", .new "OrderLine"]⟩
    shop.IsCounted ∧ crowded.IsCounted ∧ ∃ (config : GenerationConfig Unit) (scaffolder : Scaffolder Unit),
      GenerationBuilder.buildBy [.ofOptions setup] = .ok config ∧
      new config Bundled.store.get? setup = .ok scaffolder ∧
      (∃ files, (scaffolder.generate shop ()).1 = .ok files ∧
        files.files.keys.Perm ["ShopContext.cs", "OrderLine.ts", "Item.ts"] ∧
        files.dbContextFile = some "ShopContext.cs") ∧
      ∃ fileName first second,
        (scaffolder.generate crowded ()).1 = .error (.fileNameCollision fileName first second) := by
  intro setup line shop crowded
  have hshop : shop.IsCounted := ⟨by decide, by decide, by decide⟩
  have hcrowded : crowded.IsCounted := ⟨by decide, by decide, by decide⟩
  obtain ⟨config, scaffolder, hconfig, hnew, hruns⟩ := generate_bundled (σ := Unit) setup setup
  obtain ⟨-, hdistinct, -⟩ := hruns shop hshop ()
  obtain ⟨-, -, hequal⟩ := hruns crowded hcrowded ()
  have hnames : setup.mode.fileNames setup.language setup.naming (setup.contextNameFor shop) shop =
      ["ShopContext.cs", "OrderLine.ts", "Item.ts"] := by decide
  have htwice : ¬ (setup.mode.fileNames setup.language setup.naming (setup.contextNameFor crowded)
      crowded).Nodup := by decide
  obtain ⟨files, hfiles, hkeys, hcontext⟩ := hdistinct (hnames ▸ by decide)
  obtain ⟨fileName, first, second, hcollision, -⟩ := hequal htwice
  exact ⟨hshop, hcrowded, config, scaffolder, hconfig, hnew, ⟨files, hfiles, hnames ▸ hkeys, hcontext⟩,
    fileName, first, second, hcollision⟩

end Scaffolder

end EntityScaffold
