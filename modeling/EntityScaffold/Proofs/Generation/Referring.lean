import EntityScaffold.Proofs.Generation.Failing
import EntityScaffold.Proofs.Generation.Isolation

/-! # How outputs refer to entities

An output refers to an entity by the names that the table has for it: a database context by the name of the
class, an entity type by the name of its own class and those of the targets of its navigations, an import by the
class and the file of a target, and a file is called as its entity is.
-/

namespace EntityScaffold

variable {σ : Type}

/-! ## Views -/

section

variable {scope : GenerationScope} {entity : EntityType}

/-- The view of a navigation, made of what the transformer answers. -/
def NavigationView.ofInfo (language : LanguageMode) (navigation : Navigation) (info : PropertyInfo) :
    NavigationView :=
  ⟨if navigation.isCollection then language.collectionType info.propertyType else info.propertyType,
    info.propertyName, info.propertyType, navigation.isCollection⟩

/-- The transformer of navigations gets the class of the target as the type. -/
theorem NavigationView.build_eq {navigation : Navigation} {target : ResolvedName}
    (h : scope.names.get navigation.targetEntity = .ok target) :
    build scope entity navigation =
      (scope.transformers.transformNavigation
        ⟨target.className, navigation.name, some entity.name⟩).map (ofInfo scope.language navigation) := by
  simp only [build, EntityNames.className, h, Except.map, bind, Except.bind]
  cases scope.transformers.transformNavigation ⟨target.className, navigation.name, some entity.name⟩ <;> rfl

/-- What is done to each item of a list is done in order. -/
theorem forall₂_of_mapM {ε α β : Type} {f : α → Except ε β} {l : List α} {bs : List β}
    (h : l.mapM f = .ok bs) : List.Forall₂ (fun a b => f a = .ok b) l bs := by
  induction l generalizing bs with
  | nil => cases h; exact .nil
  | cons first rest ih =>
    rw [List.mapM_cons] at h
    obtain ⟨b, hfirst, h⟩ := exists_ok_of_bind h
    obtain ⟨others, hrest, h⟩ := exists_ok_of_bind h
    cases h
    exact .cons hfirst (ih hrest)

/-- An entity in a database context is under the name of its class. -/
theorem DbSetView.exists_get_of_build {names : EntityNames} {view : DbSetView}
    (h : build names entity = .ok view) : ∃ resolved, names.get entity.name = .ok resolved ∧
      view.entityName = resolved.className ∧ view.dbSetName = resolved.className := by
  rw [build, EntityNames.className] at h
  obtain ⟨_, hclass, h⟩ := exists_ok_of_bind h
  obtain ⟨resolved, hget, rfl⟩ := exists_ok_of_map hclass
  cases h
  exact ⟨resolved, hget, rfl, rfl⟩

/-- The entities of a database context are those of the model, in order. -/
theorem DbContextView.forall₂_of_build {model : DatabaseModel} {view : DbContextView}
    (h : build scope model = .ok view) :
    List.Forall₂ (fun entity set => DbSetView.build scope.names entity = .ok set) model.entityTypes
      view.entityTypes := by
  obtain ⟨sets, hsets, h⟩ := exists_ok_of_bind h
  cases h
  exact forall₂_of_mapM hsets

/-- An entity type has the name of its class. -/
theorem EntityTypeView.exists_get_of_complete {language : LanguageMode} {view : EntityTypeView}
    (h : complete language scope entity = .ok view) : ∃ resolved,
      scope.names.get entity.name = .ok resolved ∧ view.className = resolved.className := by
  obtain ⟨built, hbuilt, h⟩ := exists_ok_of_bind h
  obtain ⟨imports, -, h⟩ := exists_ok_of_bind h
  cases h
  obtain ⟨className, hclass, h⟩ := exists_ok_of_bind hbuilt
  obtain ⟨_, -, h⟩ := exists_ok_of_bind h
  obtain ⟨_, -, h⟩ := exists_ok_of_bind h
  cases h
  cases hget : scope.names.get entity.name with
  | error e => rw [EntityNames.className, hget] at hclass; cases hclass
  | ok resolved => rw [EntityNames.className, hget] at hclass; cases hclass; exact ⟨resolved, rfl, rfl⟩

/-- The navigations of an entity type are in the order of the model. -/
theorem EntityTypeView.forall₂_of_complete {language : LanguageMode} {view : EntityTypeView}
    (h : complete language scope entity = .ok view) :
    List.Forall₂ (fun navigation part => NavigationView.build scope entity navigation = .ok part)
      entity.navigations view.navProperties := by
  obtain ⟨built, hbuilt, h⟩ := exists_ok_of_bind h
  obtain ⟨imports, -, h⟩ := exists_ok_of_bind h
  cases h
  obtain ⟨_, -, h⟩ := exists_ok_of_bind hbuilt
  obtain ⟨_, -, h⟩ := exists_ok_of_bind h
  obtain ⟨parts, hparts, h⟩ := exists_ok_of_bind h
  cases h
  exact forall₂_of_mapM hparts

end

/-! ## Imports -/

theorem Keyed.mem_entries_iff {α : Type} {key : String} {value : α} (m : Keyed α) :
    (key, value) ∈ m.entries ↔ m.get? key = some value := by
  refine ⟨m.get?_of_mem, fun h => ?_⟩
  obtain ⟨before, after, hsplit, -⟩ := List.lookup_eq_some_iff.1 h
  rw [hsplit]
  exact List.mem_append_right _ List.mem_cons_self

theorem Keyed.nodup_keys {α : Type} (m : Keyed α) : m.keys.Nodup := by
  have hne : ∀ {a b : String × α}, a.1 < b.1 → a.1 ≠ b.1 :=
    fun {a b} hlt heq => String.lt_irrefl b.1 (heq ▸ hlt)
  exact List.pairwise_map.2 (m.ascending.imp hne)

/-- A navigation leads to an entity with a class name. -/
def EntityNames.leadsTo (names : EntityNames) (className : String) (navigation : Navigation) : Bool :=
  match names.get navigation.targetEntity with
  | .ok target => target.className = className
  | .error _ => false

theorem EntityNames.leadsTo_eq_true {names : EntityNames} {className : String} {navigation : Navigation} :
    names.leadsTo className navigation = true ↔
      ∃ target, names.get navigation.targetEntity = .ok target ∧ target.className = className := by
  unfold leadsTo
  cases names.get navigation.targetEntity with
  | error e => simp
  | ok target => simp

/-- The path of the file of the target of a navigation. -/
def EntityNames.importPath? (names : EntityNames) (navigation : Navigation) : Option String :=
  match names.get navigation.targetEntity with
  | .ok target => some ("./" ++ target.fileStem)
  | .error _ => none

/-- What is imported under a class name: what was known before, or else the file of the first target of that
name. -/
theorem get?_typescriptImports {names : EntityNames} {own : String} {navigations : List Navigation}
    {known imports : Keyed String} (h : typescriptImports names own known navigations = .ok imports)
    (className : String) :
    imports.get? className = (known.get? className).or (if className = own then none
      else (navigations.find? (names.leadsTo className)).bind names.importPath?) := by
  induction navigations generalizing known with
  | nil =>
    cases h
    simp
  | cons navigation rest ih =>
    obtain ⟨target, htarget, h⟩ := exists_ok_of_bind h
    have hleads : names.leadsTo className navigation = decide (target.className = className) := by
      rw [EntityNames.leadsTo, htarget]
    rw [List.find?_cons, hleads]
    split at h
    · next hskip =>
      rw [ih h]
      by_cases hc : target.className = className
      · subst hc
        rw [Bool.or_eq_true, decide_eq_true_eq] at hskip
        rcases hskip with hown | hknown
        · rw [if_pos hown, if_pos hown]
        · obtain ⟨path, hpath⟩ := Option.isSome_iff_exists.1 hknown
          rw [hpath, Option.some_or, Option.some_or]
      · simp [hc]
    · next hnew =>
      rw [ih h, Keyed.get?_insert]
      rw [Bool.or_eq_true, not_or, decide_eq_true_eq] at hnew
      obtain ⟨hown, hknown⟩ := hnew
      by_cases hc : target.className = className
      · subst hc
        have hnone : known.get? target.className = none := by
          simpa [Keyed.contains] using hknown
        simp [hnone, hown, EntityNames.importPath?, htarget]
      · simp [hc, Ne.symm hc]

/-- An interface imports the class of every target but its own, from the file of the first target of that
class, and nothing else. -/
theorem EntityTypeView.mem_imports {scope : GenerationScope} {entity : EntityType}
    {view : EntityTypeView} (h : complete .typescript scope entity = .ok view) (item : ImportView) :
    item ∈ view.imports ↔ ∃ before navigation after target,
      entity.navigations = before ++ navigation :: after ∧
      scope.names.get navigation.targetEntity = .ok target ∧ target.className ≠ view.className ∧
      (∀ other ∈ before, scope.names.leadsTo target.className other = false) ∧
      item = ⟨target.className, some ("./" ++ target.fileStem)⟩ := by
  obtain ⟨built, hbuilt, h⟩ := exists_ok_of_bind h
  obtain ⟨items, hitems, h⟩ := exists_ok_of_bind h
  cases h
  obtain ⟨imports, himports, hitems⟩ := exists_ok_of_bind hitems
  cases hitems
  have hget := get?_typescriptImports himports
  simp only [Keyed.get?_empty, Option.none_or] at hget
  rw [List.mem_map]
  constructor
  · rintro ⟨⟨className, path⟩, hentry, rfl⟩
    rw [Keyed.mem_entries_iff, hget] at hentry
    split at hentry
    · cases hentry
    · next hown =>
      obtain ⟨navigation, hfind, hpath⟩ := Option.bind_eq_some_iff.1 hentry
      obtain ⟨hleads, before, after, hsplit, hbefore⟩ := List.find?_eq_some_iff_append.1 hfind
      obtain ⟨target, htarget, rfl⟩ := EntityNames.leadsTo_eq_true.1 hleads
      rw [EntityNames.importPath?, htarget] at hpath
      cases hpath
      exact ⟨before, navigation, after, target, hsplit, htarget, hown, by simpa using hbefore, rfl⟩
  · rintro ⟨before, navigation, after, target, hsplit, htarget, hown, hbefore, rfl⟩
    refine ⟨(target.className, "./" ++ target.fileStem), ?_, rfl⟩
    have hfind : entity.navigations.find? (scope.names.leadsTo target.className) = some navigation :=
      List.find?_eq_some_iff_append.2 ⟨EntityNames.leadsTo_eq_true.2 ⟨target, htarget, rfl⟩, before,
        after, hsplit, by simpa using hbefore⟩
    rw [Keyed.mem_entries_iff, hget, if_neg hown, hfind, Option.bind_some, EntityNames.importPath?, htarget]

/-! ## Files -/

/-- A database context is rendered from its view. -/
theorem DbContextGenerator.exists_view_of_writeCode {generator : DbContextGenerator}
    {scope : GenerationScope} {model : DatabaseModel} {code : String}
    (h : generator.writeCode scope model = .ok (some code)) :
    ∃ view, DbContextView.build scope model = .ok view ∧
      scope.renderer.renderNamed dbContextTemplate view.toJson = .ok code := by
  cases generator with
  | null => cases h
  | rendering =>
    obtain ⟨view, hview, h⟩ := exists_ok_of_bind h
    obtain ⟨text, htext, h⟩ := exists_ok_of_bind h
    cases h
    exact ⟨view, hview, htext⟩

/-- An entity type is rendered from its complete view. -/
theorem EntityTypeGenerator.exists_view_of_writeCode {generator : EntityTypeGenerator}
    {scope : GenerationScope} {entity : EntityType} {code : String}
    (h : generator.writeCode scope entity = .ok (some code)) :
    ∃ view, EntityTypeView.complete scope.language scope entity = .ok view ∧
      scope.renderer.renderNamed scope.language.entityTemplate view.toJson = .ok code := by
  cases generator with
  | null => cases h
  | rendering language =>
    simp only [writeCode] at h
    split at h
    · cases h
    · next hlanguage =>
      obtain ⟨view, hview, h⟩ := exists_ok_of_bind h
      obtain ⟨text, htext, h⟩ := exists_ok_of_bind h
      cases h
      exact ⟨view, not_not.1 hlanguage ▸ hview, htext⟩

namespace ModelGenerator

variable {generator : ModelGenerator} {scope : GenerationScope} {file : GeneratedFile}

theorem exists_view_of_generateDbContext {context : DbContextGenerator} {model : DatabaseModel}
    (h : generator.generateDbContext context scope model = .ok (some file)) :
    file.fileName = dbContextFileName scope.contextName ∧
      ∃ view, DbContextView.build scope model = .ok view ∧
        scope.renderer.renderNamed dbContextTemplate view.toJson = .ok file.code := by
  simp only [generateDbContext] at h
  split at h
  · cases h
  · obtain ⟨code, hcode, h⟩ := exists_ok_of_bind h
    cases code with
    | none => cases h
    | some code => cases h; exact ⟨rfl, context.exists_view_of_writeCode hcode⟩

/-- The file of an entity is called as the table calls it. -/
theorem exists_view_of_generateEntity {entityGenerator : EntityTypeGenerator} {entity : EntityType}
    (h : generator.generateEntity entityGenerator scope entity = .ok (some file)) :
    (∃ names, scope.names.get entity.name = .ok names ∧
        file.fileName = names.fileStem ++ "." ++ scope.language.extension) ∧
      ∃ view, EntityTypeView.complete scope.language scope entity = .ok view ∧
        scope.renderer.renderNamed scope.language.entityTemplate view.toJson = .ok file.code := by
  simp only [generateEntity] at h
  split at h
  · cases h
  · split at h
    · cases h
    · next fileName hname =>
      split at h
      · cases h
      · next code hcode =>
        cases code with
        | none => cases h
        | some code =>
          cases h
          refine ⟨?_, entityGenerator.exists_view_of_writeCode hcode⟩
          obtain ⟨_, hstem, hname⟩ := exists_ok_of_map hname
          obtain ⟨names, hget, rfl⟩ := exists_ok_of_map hstem
          exact ⟨names, hget, hname.symm⟩

end ModelGenerator

/-! ## Runs -/

theorem Outcome.entry?_eq_some {outcome : Outcome} {name code : String} :
    outcome.entry? = some (name, code) ↔ outcome.result = .ok (some ⟨name, code⟩) := by
  unfold entry? file?
  cases outcome.result with
  | error failure => simp
  | ok file => cases file with
    | none => simp
    | some file => cases file; simp

/-- A run reports the files that its outputs were made into, and no others. -/
theorem Scaffolder.mem_entries_report {scaffolder : Scaffolder σ} {model : DatabaseModel} {s : σ}
    {report : ScaffoldReport} (h : (scaffolder.generateReport model s).1 = .ok report)
    {name code : String} : (name, code) ∈ report.model.files.entries ↔
      ∃ outcome ∈ scaffolder.runOutcomes model s, outcome.result = .ok (some ⟨name, code⟩) := by
  obtain ⟨collected, hmerges, rfl⟩ := exists_merges h
  change (name, code) ∈ collected.files.entries ↔ _
  simp only [hmerges.files.mem_iff, List.mem_filterMap, Outcome.entry?_eq_some]

/-- Whatever a run makes refers to entities by the names of its table. -/
structure Scaffolder.RefersByNames (scaffolder : Scaffolder σ) (model : DatabaseModel) (s : σ) : Prop where
  dbSets : ∀ view, DbContextView.build (scaffolder.runScope model s) model = .ok view →
    List.Forall₂ (fun entity set => ∃ names,
      (scaffolder.runScope model s).names.get entity.name = .ok names ∧
        set.entityName = names.className ∧ set.dbSetName = names.className)
      model.entityTypes view.entityTypes
  className : ∀ entity ∈ model.entityTypes, ∀ language view,
    EntityTypeView.complete language (scaffolder.runScope model s) entity = .ok view →
      ∃ names, (scaffolder.runScope model s).names.get entity.name = .ok names ∧
        view.className = names.className
  /-- The type that the transformer of navigations gets is the class of the target. -/
  navigation : ∀ entity ∈ model.entityTypes, ∀ navigation ∈ entity.navigations, ∀ target,
    (scaffolder.runScope model s).names.get navigation.targetEntity = .ok target →
      NavigationView.build (scaffolder.runScope model s) entity navigation =
        ((scaffolder.runScope model s).transformers.transformNavigation
          ⟨target.className, navigation.name, some entity.name⟩).map
            (NavigationView.ofInfo (scaffolder.runScope model s).language navigation)
  navProperties : ∀ entity ∈ model.entityTypes, ∀ language view,
    EntityTypeView.complete language (scaffolder.runScope model s) entity = .ok view →
      List.Forall₂ (fun navigation part =>
        NavigationView.build (scaffolder.runScope model s) entity navigation = .ok part)
        entity.navigations view.navProperties
  /-- An interface imports the class of a target from its file, unless it is its own class or an earlier
  target has that class. -/
  imports : ∀ entity ∈ model.entityTypes, ∀ view,
    EntityTypeView.complete .typescript (scaffolder.runScope model s) entity = .ok view →
      ∀ item, item ∈ view.imports ↔ ∃ before navigation after target,
        entity.navigations = before ++ navigation :: after ∧
        (scaffolder.runScope model s).names.get navigation.targetEntity = .ok target ∧
        target.className ≠ view.className ∧
        (∀ other ∈ before, (scaffolder.runScope model s).names.leadsTo target.className other = false) ∧
        item = ⟨target.className, some ("./" ++ target.fileStem)⟩
  /-- The file of an entity is called by its names, and rendered from its view. -/
  file : ∀ entity ∈ model.entityTypes, ∀ file,
    (scaffolder.entityOutcome (scaffolder.runScope model s) entity).result = .ok (some file) →
      (∃ names, (scaffolder.runScope model s).names.get entity.name = .ok names ∧
        file.fileName = names.fileStem ++ "." ++ (scaffolder.runScope model s).language.extension) ∧
      ∃ view, EntityTypeView.complete (scaffolder.runScope model s).language
          (scaffolder.runScope model s) entity = .ok view ∧
        scaffolder.renderer.renderNamed (scaffolder.runScope model s).language.entityTemplate
          view.toJson = .ok file.code
  /-- The file of the database context is rendered from its view. -/
  dbContextFile : ∀ file,
    (scaffolder.dbContextOutcome (scaffolder.runScope model s) model).result = .ok (some file) →
      ∃ view, DbContextView.build (scaffolder.runScope model s) model = .ok view ∧
        scaffolder.renderer.renderNamed dbContextTemplate view.toJson = .ok file.code

namespace Scaffolder

variable {scaffolder : Scaffolder σ} {model : DatabaseModel} {s : σ}

theorem refersByNames (scaffolder : Scaffolder σ) (model : DatabaseModel) (s : σ) :
    scaffolder.RefersByNames model s where
  dbSets view hview := by
    refine (DbContextView.forall₂_of_build hview).imp fun entity set hset => ?_
    exact DbSetView.exists_get_of_build hset
  className entity _ language view hview := EntityTypeView.exists_get_of_complete hview
  navigation entity _ navigation _ target htarget := NavigationView.build_eq htarget
  navProperties entity _ language view hview := EntityTypeView.forall₂_of_complete hview
  imports entity _ view hview := EntityTypeView.mem_imports hview
  file entity _ file hfile := by
    simp only [entityOutcome] at hfile
    split at hfile
    · cases hfile
    · exact ModelGenerator.exists_view_of_generateEntity hfile
  dbContextFile file hfile := by
    simp only [dbContextOutcome] at hfile
    cases hg : scaffolder.config.roles.model.generateDbContext scaffolder.config.roles.dbContext
        (scaffolder.runScope model s) model with
    | error e => rw [hg] at hfile; cases hfile
    | ok made =>
      rw [hg] at hfile
      cases hfile
      exact (ModelGenerator.exists_view_of_generateDbContext hg).2

end Scaffolder

end EntityScaffold
