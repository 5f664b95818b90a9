import EntityScaffold.Proofs.Generation.Referring

/-! # Lists of imports

Three rules fix what an interface imports: the names ascend, they are the classes of the targets of its
navigations without its own, and each comes from the file of the first target of that class. So the order of the
navigations shows in the paths alone. The types that an interface declares are what the transformer of navigations
makes of the same classes; it imports what it declares as far as the transformer leaves the types as they are.
-/

namespace EntityScaffold

/-- What an interface imports where its navigations lead to classes by a table of names. -/
structure ListsTargets (names : EntityNames) (own : String) (navigations : List Navigation)
    (imports : List ImportView) : Prop where
  ascending : imports.Pairwise fun first second => first.name < second.name
  mem_iff : ∀ className, className ∈ imports.map ImportView.name ↔
    className ≠ own ∧ ∃ navigation ∈ navigations, names.leadsTo className navigation = true
  /-- Of several targets of one class the first gives the path. -/
  path : ∀ item ∈ imports, ∃ navigation target,
    navigations.find? (names.leadsTo item.name) = some navigation ∧
    names.get navigation.targetEntity = .ok target ∧ item.path = some ("./" ++ target.fileStem)

/-- The first targets of each class have the same file in two orders of navigations. -/
def EntityNames.SameFirst (names : EntityNames) (navigations others : List Navigation) : Prop :=
  ∀ className navigation other, navigations.find? (names.leadsTo className) = some navigation →
    others.find? (names.leadsTo className) = some other →
      names.fileStem navigation.targetEntity = names.fileStem other.targetEntity

namespace ListsTargets

variable {names : EntityNames} {own : String} {navigations others : List Navigation}
  {imports imports' : List ImportView}

/-- The path that is imported under a name is that of the first target of that class. -/
theorem path_eq (h : ListsTargets names own navigations imports) :
    ∀ item ∈ imports, item.path = (navigations.find? (names.leadsTo item.name)).bind names.importPath? := by
  intro item hitem
  obtain ⟨navigation, target, hfirst, htarget, hpath⟩ := h.path item hitem
  rw [hpath, hfirst, Option.bind_some, EntityNames.importPath?, htarget]

/-- The names alone give the list. -/
theorem eq_map (h : ListsTargets names own navigations imports) :
    imports = (imports.map ImportView.name).map fun className =>
      ⟨className, (navigations.find? (names.leadsTo className)).bind names.importPath?⟩ := by
  have hid : ∀ item ∈ imports,
      ⟨item.name, (navigations.find? (names.leadsTo item.name)).bind names.importPath?⟩ = id item := by
    intro item hitem
    rw [← h.path_eq item hitem]
    rfl
  rw [List.map_map]
  exact ((List.map_congr_left hid).trans (List.map_id _)).symm

theorem nodup (h : ListsTargets names own navigations imports) : (imports.map ImportView.name).Nodup := by
  refine List.pairwise_map.2 (h.ascending.imp fun {first second} hlt heq => ?_)
  rw [heq] at hlt
  exact String.lt_irrefl _ hlt

/-- Ascending names are in one order only, whatever the order of the navigations is. -/
theorem names_eq_of_perm (h : ListsTargets names own navigations imports)
    (h' : ListsTargets names own others imports') (hperm : navigations.Perm others) :
    imports'.map ImportView.name = imports.map ImportView.name := by
  have hmem : ∀ className, className ∈ imports'.map ImportView.name ↔
      className ∈ imports.map ImportView.name := by
    intro className
    rw [h'.mem_iff, h.mem_iff]
    exact and_congr_right fun _ => exists_congr fun _ => and_congr_left fun _ => hperm.mem_iff.symm
  have hnames := List.pairwise_map.2 h.ascending
  have hnames' := List.pairwise_map.2 h'.ascending
  exact List.Perm.eq_of_pairwise (fun _ _ _ _ hlt hgt => absurd hgt (String.lt_asymm hlt)) hnames' hnames
    ((List.perm_ext_iff_of_nodup h'.nodup h.nodup).2 hmem)

/-- Where the first targets have the same files, the order of the navigations does not show. -/
theorem eq_of_perm (h : ListsTargets names own navigations imports)
    (h' : ListsTargets names own others imports') (hperm : navigations.Perm others)
    (hfirst : names.SameFirst navigations others) : imports' = imports := by
  rw [h.eq_map, h'.eq_map, h.names_eq_of_perm h' hperm]
  refine List.map_congr_left fun className hclass => ?_
  obtain ⟨item, hitem, rfl⟩ := List.mem_map.1 hclass
  obtain ⟨item', hitem', hname⟩ := List.mem_map.1 (h.names_eq_of_perm h' hperm ▸ hclass)
  obtain ⟨navigation, target, hfind, htarget, -⟩ := h.path item hitem
  obtain ⟨other, target', hfind', htarget', -⟩ := h'.path item' hitem'
  rw [hname] at hfind'
  have hstem := hfirst item.name navigation other hfind hfind'
  rw [EntityNames.fileStem, EntityNames.fileStem, htarget, htarget'] at hstem
  rw [hfind, hfind', Option.bind_some, Option.bind_some, EntityNames.importPath?, EntityNames.importPath?,
    htarget, htarget']
  exact congrArg (fun stem => ImportView.mk item.name (some ("./" ++ stem))) (Except.ok.inj hstem).symm

end ListsTargets

/-- The imports that are collected follow the rules. -/
theorem listsTargets_typescriptImports {names : EntityNames} {own : String} {navigations : List Navigation}
    {imports : Keyed String} (h : typescriptImports names own .empty navigations = .ok imports) :
    ListsTargets names own navigations (imports.entries.map fun (name, path) => ⟨name, some path⟩) := by
  have hget := get?_typescriptImports h
  simp only [Keyed.get?_empty, Option.none_or] at hget
  have hkeys : (imports.entries.map fun (name, path) => (⟨name, some path⟩ : ImportView)).map ImportView.name =
      imports.entries.map Prod.fst := List.map_map
  refine ⟨List.pairwise_map.2 imports.ascending, fun className => ?_, fun item hitem => ?_⟩
  · rw [hkeys, List.mem_map]
    constructor
    · rintro ⟨⟨_, path⟩, hentry, rfl⟩
      have hpath := (Keyed.mem_entries_iff imports).1 hentry
      rw [hget] at hpath
      split at hpath
      · cases hpath
      · next hown =>
        obtain ⟨navigation, hfind, -⟩ := Option.bind_eq_some_iff.1 hpath
        exact ⟨hown, navigation, List.mem_of_find?_eq_some hfind, List.find?_some hfind⟩
    · rintro ⟨hown, navigation, hnavigation, hleads⟩
      obtain ⟨first, hfind⟩ : ∃ first, navigations.find? (names.leadsTo className) = some first :=
        Option.isSome_iff_exists.1 (List.find?_isSome.2 ⟨navigation, hnavigation, hleads⟩)
      obtain ⟨target, htarget, -⟩ := EntityNames.leadsTo_eq_true.1 (List.find?_some hfind)
      refine ⟨(className, "./" ++ target.fileStem), (Keyed.mem_entries_iff imports).2 ?_, rfl⟩
      rw [hget, if_neg hown, hfind, Option.bind_some, EntityNames.importPath?, htarget]
  · obtain ⟨⟨className, path⟩, hentry, rfl⟩ := List.mem_map.1 hitem
    have hpath := (Keyed.mem_entries_iff imports).1 hentry
    rw [hget] at hpath
    split at hpath
    · cases hpath
    · obtain ⟨navigation, hfind, hpath⟩ := Option.bind_eq_some_iff.1 hpath
      obtain ⟨target, htarget, -⟩ := EntityNames.leadsTo_eq_true.1 (List.find?_some hfind)
      rw [EntityNames.importPath?, htarget] at hpath
      exact ⟨navigation, target, hfind, htarget, hpath.symm⟩

/-! ## Interfaces -/

section

variable {scope : GenerationScope} {entity : EntityType}

/-- An entity type is rendered from its view. -/
theorem EntityTypeGenerator.writeCode_of_complete {view : EntityTypeView}
    (h : EntityTypeView.complete scope.language scope entity = .ok view) :
    (EntityTypeGenerator.rendering scope.language).writeCode scope entity =
      (scope.renderer.renderNamed scope.language.entityTemplate view.toJson).map some := by
  simp only [writeCode, if_neg (not_not_intro rfl), h, bind, Except.bind]
  cases scope.renderer.renderNamed scope.language.entityTemplate view.toJson <;> rfl

namespace EntityTypeView

/-- The targets of an entity type with a view are known, so what it imports is known, too. -/
theorem exists_complete_of_build {built : EntityTypeView} (h : build scope entity = .ok built) :
    ∃ imports, complete .typescript scope entity = .ok { built with imports := imports } ∧
      ListsTargets scope.names built.className entity.navigations imports := by
  obtain ⟨imports, himports⟩ :=
    exists_typescriptImports_eq_ok built.className .empty fun _ hn => exists_get_of_build h hn
  refine ⟨_, ?_, listsTargets_typescriptImports himports⟩
  simp only [complete, h, LanguageMode.imports, himports, bind, Except.bind]
  rfl

theorem exists_build_of_complete {language : LanguageMode} {view : EntityTypeView}
    (h : complete language scope entity = .ok view) :
    ∃ built, build scope entity = .ok built ∧ view = { built with imports := view.imports } := by
  obtain ⟨built, hbuilt, h⟩ := exists_ok_of_bind h
  obtain ⟨_, -, h⟩ := exists_ok_of_bind h
  cases h
  exact ⟨built, hbuilt, rfl⟩

/-- A view exists in every order of the navigations, and for the same class. -/
theorem exists_build_of_perm {built : EntityTypeView} (h : build scope entity = .ok built)
    {navigations : List Navigation} (hperm : entity.navigations.Perm navigations) :
    ∃ reordered, build scope { entity with navigations := navigations } = .ok reordered ∧
      reordered.className = built.className := by
  obtain ⟨className, hclass, h⟩ := exists_ok_of_bind h
  obtain ⟨properties, hproperties, h⟩ := exists_ok_of_bind h
  obtain ⟨parts, hparts, h⟩ := exists_ok_of_bind h
  cases h
  obtain ⟨others, hothers⟩ : ∃ others, navigations.mapM (NavigationView.build scope entity) = .ok others :=
    exists_mapM_eq_ok.2 fun navigation hn =>
      exists_mapM_eq_ok.1 ⟨parts, hparts⟩ navigation (hperm.mem_iff.2 hn)
  have hproperties : entity.properties.mapM
      (PropertyView.build scope { entity with navigations := navigations }) = .ok properties := hproperties
  have hothers : navigations.mapM
      (NavigationView.build scope { entity with navigations := navigations }) = .ok others := hothers
  refine ⟨⟨scope.rootNamespace, className, entity.table, entity.schema, properties, others, [],
    others.any (·.isCollection)⟩, ?_, rfl⟩
  simp only [build, hclass, hproperties, hothers, bind, Except.bind]
  rfl

/-- Where an entity type has a view, its interface is rendered with the imports that the rules fix. In another order
of the navigations it imports the same names, and the same list if the first targets of each class have the same
file. -/
theorem listsTargets_of_build (hlanguage : scope.language = .typescript) {built : EntityTypeView}
    (h : build scope entity = .ok built) :
    ∃ imports, complete .typescript scope entity = .ok { built with imports := imports } ∧
      ListsTargets scope.names built.className entity.navigations imports ∧
      built.className ∉ imports.map ImportView.name ∧
      (EntityTypeGenerator.rendering .typescript).writeCode scope entity =
        (scope.renderer.renderNamed LanguageMode.typescript.entityTemplate
          (toJson { built with imports := imports })).map some ∧
      ∀ navigations, entity.navigations.Perm navigations → ∃ (reordered : EntityTypeView) (imports' : _),
        complete .typescript scope { entity with navigations := navigations } =
          .ok { reordered with imports := imports' } ∧
        ListsTargets scope.names built.className navigations imports' ∧
        imports'.map ImportView.name = imports.map ImportView.name ∧
        (scope.names.SameFirst entity.navigations navigations → imports' = imports) := by
  obtain ⟨imports, hcomplete, hlists⟩ := exists_complete_of_build h
  have hown : built.className ∉ imports.map ImportView.name :=
    fun hmem => ((hlists.mem_iff built.className).1 hmem).1 rfl
  have hcode := EntityTypeGenerator.writeCode_of_complete (hlanguage ▸ hcomplete)
  rw [hlanguage] at hcode
  refine ⟨imports, hcomplete, hlists, hown, hcode, fun navigations hperm => ?_⟩
  obtain ⟨reordered, hbuild, hclass⟩ := exists_build_of_perm h hperm
  obtain ⟨imports', hcomplete', hlists'⟩ := exists_complete_of_build hbuild
  rw [hclass] at hlists'
  exact ⟨reordered, imports', hcomplete', hlists', hlists.names_eq_of_perm hlists' hperm,
    hlists.eq_of_perm hlists' hperm⟩

/-- Names of a line, and of a copy of its order that has the class of the order. -/
def copiedNames : EntityNames :=
  ⟨[("Line", ⟨"Line", "Line"⟩), ("Copy", ⟨"Order", "Copy"⟩), ("Order", ⟨"Order", "Order"⟩),
    ("Tax", ⟨"Tax", "taxes"⟩)], [], nofun⟩

/-- A scope of interfaces with these names, some transformer of navigations and a template of one word. -/
def interfaceScope (names : EntityNames) (navigation : Option PropertyTransformer) : GenerationScope :=
  ⟨{ Renderer.new HelperRegistry.standard BlockHelperRegistry.empty with
      templates := Keyed.empty.insert LanguageMode.typescript.entityTemplate
        (.cons none (.text "interface") .nil) }, ⟨none, navigation⟩, names, .typescript, "Shop", "ShopContext"⟩

/-- A line with navigations to these entities. -/
def lineTo (targets : List String) : EntityType :=
  ⟨"Line", none, none, [], targets.map fun target => .reference target target⟩

/-- A line imports the class that an order and its copy share once, and not its own. In another order of the
navigations the class comes from the other file. -/
theorem listsTargets_of_build_sharedClass :
    let scope := interfaceScope copiedNames none
    scope.language = .typescript ∧ ∃ built imports,
      build scope (lineTo ["Tax", "Copy", "Line", "Order"]) = .ok built ∧
      imports = [⟨"Order", some "./Copy"⟩, ⟨"Tax", some "./taxes"⟩] ∧
      ListsTargets scope.names built.className (lineTo ["Tax", "Copy", "Line", "Order"]).navigations imports ∧
      ∃ reordered, complete .typescript scope (lineTo ["Order", "Line", "Copy", "Tax"]) = .ok reordered ∧
        reordered.imports = [⟨"Order", some "./Order"⟩, ⟨"Tax", some "./taxes"⟩] ∧
        reordered.imports.map ImportView.name = imports.map ImportView.name := by
  intro scope
  have hlanguage : scope.language = .typescript := rfl
  obtain ⟨built, hbuilt⟩ : ∃ built, build scope (lineTo ["Tax", "Copy", "Line", "Order"]) = .ok built :=
    ⟨_, rfl⟩
  have hperm : (lineTo ["Tax", "Copy", "Line", "Order"]).navigations.Perm
      (lineTo ["Order", "Line", "Copy", "Tax"]).navigations := by decide
  obtain ⟨imports, hcomplete, hlists, -, -, hreordered⟩ := listsTargets_of_build hlanguage hbuilt
  obtain ⟨reordered, imports', hcomplete', -, hnames, -⟩ := hreordered _ hperm
  have himports : (complete .typescript scope (lineTo ["Tax", "Copy", "Line", "Order"])).map
      EntityTypeView.imports = .ok [⟨"Order", some "./Copy"⟩, ⟨"Tax", some "./taxes"⟩] := rfl
  have himports' : (complete .typescript scope (lineTo ["Order", "Line", "Copy", "Tax"])).map
      EntityTypeView.imports = .ok [⟨"Order", some "./Order"⟩, ⟨"Tax", some "./taxes"⟩] := rfl
  rw [hcomplete] at himports
  have hcomplete' : complete .typescript scope (lineTo ["Order", "Line", "Copy", "Tax"]) = _ := hcomplete'
  rw [hcomplete'] at himports'
  exact ⟨hlanguage, built, imports, hbuilt, Except.ok.inj himports, hlists, _, hcomplete',
    Except.ok.inj himports', hnames⟩

end EntityTypeView

/-! ## Declared types -/

theorem EntityNames.leadsTo_iff_className {names : EntityNames} {className : String} {navigation : Navigation} :
    names.leadsTo className navigation = true ↔ names.className navigation.targetEntity = .ok className := by
  rw [leadsTo_eq_true, EntityNames.className]
  cases names.get navigation.targetEntity with
  | error e => simp [Except.map]
  | ok target => simp [Except.map]

/-- The transformer of navigations is given a type: it is the class of a target. -/
def GenerationScope.GivesType (scope : GenerationScope) (entity : EntityType) (type : String) : Prop :=
  ∃ navigation ∈ entity.navigations, scope.names.className navigation.targetEntity = .ok type

/-- The transformer of navigations leaves the types that an entity type gives it as they are. -/
def GenerationScope.KeepsTypes (scope : GenerationScope) (entity : EntityType) : Prop :=
  ∀ navigation ∈ entity.navigations, ∀ type info, scope.names.className navigation.targetEntity = .ok type →
    scope.transformers.transformNavigation ⟨type, navigation.name, some entity.name⟩ = .ok info →
      info.propertyType = type

/-- The type that a navigation is declared with is what the transformer answers to the class of the target. -/
theorem NavigationView.exists_info_of_build {navigation : Navigation} {part : NavigationView}
    (h : build scope entity navigation = .ok part) : ∃ type info,
      scope.names.className navigation.targetEntity = .ok type ∧
      scope.transformers.transformNavigation ⟨type, navigation.name, some entity.name⟩ = .ok info ∧
      part.elementType = info.propertyType := by
  obtain ⟨type, htype, h⟩ := exists_ok_of_bind h
  obtain ⟨info, hinfo, h⟩ := exists_ok_of_bind h
  cases h
  exact ⟨type, info, htype, hinfo, rfl⟩

namespace EntityTypeView

variable {view : EntityTypeView}

/-- The names that are imported are the types that navigations are declared with, without the own class. -/
def ImportsDeclared (view : EntityTypeView) : Prop :=
  ∀ className, className ∈ view.imports.map ImportView.name ↔
    className ≠ view.className ∧ className ∈ view.navProperties.map NavigationView.elementType

/-- A transformer that keeps types declares each navigation with the class of its target. -/
theorem map_elementType_of_keepsTypes {language : LanguageMode} (h : complete language scope entity = .ok view)
    (hkeeps : scope.KeepsTypes entity) :
    entity.navigations.map (fun navigation => scope.names.className navigation.targetEntity) =
      (view.navProperties.map NavigationView.elementType).map Except.ok := by
  rw [List.map_map, ← List.forall₂_eq_eq_eq, List.forall₂_map_left_iff, List.forall₂_map_right_iff]
  refine ((List.forall₂_and_left _ _).2 ⟨hkeeps, forall₂_of_complete h⟩).imp fun navigation part hpart => ?_
  obtain ⟨hkept, hbuild⟩ := hpart
  obtain ⟨type, info, htype, hinfo, helement⟩ := NavigationView.exists_info_of_build hbuild
  rw [Function.comp_apply, helement, hkept type info htype hinfo, htype]

theorem mem_elementTypes_of_keepsTypes {language : LanguageMode} (h : complete language scope entity = .ok view)
    (hkeeps : scope.KeepsTypes entity) {type : String} :
    type ∈ view.navProperties.map NavigationView.elementType ↔ scope.GivesType entity type := by
  have hinj : Function.Injective (Except.ok : String → Except GenerationError String) := fun _ _ => Except.ok.inj
  calc type ∈ view.navProperties.map NavigationView.elementType
    _ ↔ .ok type ∈ (view.navProperties.map NavigationView.elementType).map Except.ok :=
      (List.mem_map_of_injective hinj).symm
    _ ↔ .ok type ∈ entity.navigations.map fun navigation => scope.names.className navigation.targetEntity := by
      rw [map_elementType_of_keepsTypes h hkeeps]
    _ ↔ scope.GivesType entity type := List.mem_map

/-- An interface is rendered with the classes of targets that the table has as its imports, whatever the transformer
of navigations makes of them. So it imports what it declares exactly if, its own class aside, the declared types are
those that the transformer was given, for instance if the transformer keeps each of them. -/
theorem importsDeclared_iff (hlanguage : scope.language = .typescript)
    (h : complete .typescript scope entity = .ok view) :
    (EntityTypeGenerator.rendering .typescript).writeCode scope entity =
      (scope.renderer.renderNamed LanguageMode.typescript.entityTemplate view.toJson).map some ∧
    (∀ className, className ∈ view.imports.map ImportView.name ↔
      className ≠ view.className ∧ scope.GivesType entity className) ∧
    (view.ImportsDeclared ↔ ∀ className, className ≠ view.className →
      (className ∈ view.navProperties.map NavigationView.elementType ↔ scope.GivesType entity className)) ∧
    (scope.KeepsTypes entity → view.ImportsDeclared) := by
  have hcode := EntityTypeGenerator.writeCode_of_complete (hlanguage ▸ h)
  rw [hlanguage] at hcode
  have himports : ∀ className, className ∈ view.imports.map ImportView.name ↔
      className ≠ view.className ∧ scope.GivesType entity className := by
    obtain ⟨built, hbuilt, hview⟩ := exists_build_of_complete h
    obtain ⟨imports, hcomplete, hlists⟩ := exists_complete_of_build hbuilt
    obtain rfl : view = { built with imports := imports } := Except.ok.inj (h.symm.trans hcomplete)
    intro className
    simp only [hlists.mem_iff, EntityNames.leadsTo_iff_className, GenerationScope.GivesType]
  have hdeclared : view.ImportsDeclared ↔ ∀ className, className ≠ view.className →
      (className ∈ view.navProperties.map NavigationView.elementType ↔ scope.GivesType entity className) := by
    simp only [ImportsDeclared, himports, and_congr_right_iff]
    exact forall_congr' fun _ => imp_congr_right fun _ => iff_comm
  exact ⟨hcode, himports, hdeclared, fun hkeeps =>
    hdeclared.2 fun _ _ => mem_elementTypes_of_keepsTypes h hkeeps⟩

/-- A transformer of navigations that exchanges two types. -/
def exchange (type other : String) : PropertyTransformer := fun info =>
  .ok { info with propertyType :=
    if info.propertyType = type then other else if info.propertyType = other then type else info.propertyType }

/-- A line with a tax and an order whose types are exchanged imports what it declares, though no type is kept. -/
theorem importsDeclared_iff_exchange :
    let scope := interfaceScope copiedNames (some (exchange "Order" "Tax"))
    ¬ scope.KeepsTypes (lineTo ["Tax", "Order"]) ∧ ∃ view,
      complete .typescript scope (lineTo ["Tax", "Order"]) = .ok view ∧ view.ImportsDeclared ∧
      view.navProperties.map NavigationView.elementType = ["Order", "Tax"] := by
  intro scope
  have hlanguage : scope.language = .typescript := rfl
  obtain ⟨view, hview⟩ : ∃ view, complete .typescript scope (lineTo ["Tax", "Order"]) = .ok view := ⟨_, rfl⟩
  have hdeclared : (complete .typescript scope (lineTo ["Tax", "Order"])).map
      (fun view => view.navProperties.map NavigationView.elementType) = .ok ["Order", "Tax"] := rfl
  rw [hview] at hdeclared
  have helements : view.navProperties.map NavigationView.elementType = ["Order", "Tax"] :=
    Except.ok.inj hdeclared
  have hgiven : ∀ className, scope.GivesType (lineTo ["Tax", "Order"]) className ↔
      className = "Tax" ∨ className = "Order" := by
    intro className
    have htax : scope.names.className "Tax" = .ok "Tax" := rfl
    have horder : scope.names.className "Order" = .ok "Order" := rfl
    simp [GenerationScope.GivesType, lineTo, Navigation.reference, htax, horder, eq_comm]
  obtain ⟨-, -, hiff, -⟩ := importsDeclared_iff hlanguage hview
  refine ⟨fun hkeeps => ?_, view, hview, hiff.2 fun className _ => ?_, helements⟩
  · have hkept := hkeeps (.reference "Tax" "Tax") (by simp [lineTo]) "Tax" ⟨"Order", "Tax", some "Line"⟩
      rfl rfl
    exact absurd hkept (by decide)
  · rw [helements, hgiven]
    simp [or_comm]

/-- A transformer of navigations that adds to the type. -/
def addToType (ending : String) : PropertyTransformer := fun info =>
  .ok { info with propertyType := info.propertyType ++ ending }

/-- A line that is declared with an order or nothing imports the order. -/
theorem not_importsDeclared_of_orNull :
    let scope := interfaceScope copiedNames (some (addToType " | null"))
    ∃ view, complete .typescript scope (lineTo ["Order"]) = .ok view ∧
      (EntityTypeGenerator.rendering .typescript).writeCode scope (lineTo ["Order"]) = .ok (some "interface") ∧
      view.imports = [⟨"Order", some "./Order"⟩] ∧
      view.navProperties.map NavigationView.elementType = ["Order | null"] ∧ ¬ view.ImportsDeclared := by
  intro scope
  refine ⟨_, rfl, rfl, rfl, rfl, fun hdeclared => ?_⟩
  have himported := (hdeclared "Order").1 (by decide)
  exact absurd himported.2 (by decide)

end EntityTypeView

end

end EntityScaffold
