import EntityScaffold.Proofs.Generation.Bundled
import EntityScaffold.Proofs.Generation.Members

/-! # The text of entity types

What the bundled templates print for an entity type, written down directly: a head that knows the members only by
the collections that a class creates, one line for each property and then one for each navigation, in order,
and a fixed foot.
-/

namespace EntityScaffold

open Template (Body Branch Call Element Position printedNamed valueAt)

/-! ## C# classes -/

/-- The line of an imported namespace. -/
def ImportView.csharpLine (view : ImportView) : String := "using " ++ view.name ++ ";\n"

/-- The line of a property. -/
def PropertyView.csharpLine (view : PropertyView) : String :=
  "        public " ++ view.propertyType ++ " " ++ view.propertyName ++ " \x7b get; set; \x7d\n"

/-- The line of a navigation. -/
def NavigationView.csharpLine (view : NavigationView) : String :=
  "        public virtual " ++ view.propertyType ++ " " ++ view.propertyName ++ " \x7b get; set; \x7d\n"

/-- The line of a constructor that creates a collection. -/
def NavigationView.creationLine (view : NavigationView) : String :=
  "            " ++ view.propertyName ++ " = new HashSet<" ++ view.elementType ++ ">();\n"

/-- The constructor of a class that creates some collections. -/
def csharpConstructor (className : String) (created : List NavigationView) : String :=
  "        public " ++ className ++ "()\n        \x7b\n" ++ String.join (created.map (·.creationLine)) ++
    "        \x7d\n\n"

/-- What a class has before its members. -/
def csharpHead (rootNamespace className : String) (imports : List ImportView)
    (created? : Option (List NavigationView)) : String :=
  String.join (imports.map (·.csharpLine)) ++ "\nnamespace " ++ rootNamespace ++
    "\n\x7b\n    public partial class " ++ className ++ "\n    \x7b\n" ++
      (created?.map (csharpConstructor className)).getD ""

/-- What a class has after its members. -/
def csharpFoot : String := "    \x7d\n\x7d\n"

/-! ## TypeScript interfaces -/

/-- The line of an imported type. -/
def ImportView.typescriptLine (view : ImportView) : String :=
  "import \x7b " ++ view.name ++ " \x7d from '" ++ view.path.getD "" ++ "';\n"

/-- The line of a property, which is optional if the property is nullable. -/
def PropertyView.typescriptLine (view : PropertyView) : String :=
  "  " ++ view.propertyName ++ (if view.isNullable then "?" else "") ++ ": " ++ view.propertyType ++ ";\n"

/-- The line of a navigation, which is always optional. -/
def NavigationView.typescriptLine (view : NavigationView) : String :=
  "  " ++ view.propertyName ++ "?: " ++ view.propertyType ++ ";\n"

/-- What an interface has before its members. -/
def typescriptHead (className : String) (imports : List ImportView) : String :=
  String.join (imports.map (·.typescriptLine)) ++ "\nexport interface " ++ className ++ " \x7b\n"

/-- What an interface has after its members. -/
def typescriptFoot : String := "\x7d\n"

/-! ## Entity types -/

namespace EntityTypeView

/-- The navigations that lead to many. -/
def collections (view : EntityTypeView) : List NavigationView := view.navProperties.filter (·.isCollection)

/-- The collections that the constructor of a class creates, if it has one. -/
def created? (view : EntityTypeView) : Option (List NavigationView) :=
  if view.hasCollections then some view.collections else none

theorem isEmpty_filter_eq_not_any (navigations : List NavigationView) :
    (navigations.filter (·.isCollection)).isEmpty = !navigations.any (·.isCollection) := by
  induction navigations with
  | nil => rfl
  | cons first rest ih =>
    rw [List.filter_cons, List.any_cons]
    cases first.isCollection with
    | false => exact ih
    | true => rfl

/-- The view of an entity type has collections exactly if one of its navigations leads to many. -/
theorem created?_of_complete {language : LanguageMode} {scope : GenerationScope} {entity : EntityType}
    {view : EntityTypeView} (h : complete language scope entity = .ok view) :
    view.created? = if view.collections.isEmpty then none else some view.collections := by
  obtain ⟨built, hbuilt, h⟩ := exists_ok_of_bind h
  obtain ⟨imports, -, h⟩ := exists_ok_of_bind h
  cases h
  obtain ⟨className, -, hbuilt⟩ := exists_ok_of_bind hbuilt
  obtain ⟨properties, -, hbuilt⟩ := exists_ok_of_bind hbuilt
  obtain ⟨navProperties, -, hbuilt⟩ := exists_ok_of_bind hbuilt
  cases hbuilt
  change (if navProperties.any (·.isCollection) then some (navProperties.filter (·.isCollection)) else none) =
    if (navProperties.filter (·.isCollection)).isEmpty then none
      else some (navProperties.filter (·.isCollection))
  rw [isEmpty_filter_eq_not_any]
  cases navProperties.any (·.isCollection) <;> rfl

end EntityTypeView

/-! ## Printed elements -/

/-- The value of a field of an object. Of two fields under one name the later counts. -/
theorem valueAt_ofFields (fields : List (String × Json)) (key : String) :
    valueAt (.ofFields fields) [key] = (fields.reverse.lookup key).getD .null := by
  have hfollow : Template.follow (some (.ofFields fields)) [key] =
      .ok (fields.reverse.lookup key) := by
    rw [← Keyed.lookup_sortEntries]
    rfl
  rw [valueAt, hfollow]
  cases fields.reverse.lookup key <;> rfl

/-- The value of a field that an object has. -/
theorem valueAt_field {fields : List (String × Json)} {key : String} {value : Json}
    (h : fields.reverse.lookup key = some value) : valueAt (.ofFields fields) [key] = value := by
  rw [valueAt_ofFields, h]
  rfl

theorem printedNamed_succ {templates : List (String × Body)} {name : String} {body : Body} (depth : Nat)
    (indent : Option String) (value : Json) (h : templates.lookup name = some body) :
    printedNamed templates (depth + 1) name indent value =
      body.printed (printedNamed templates depth) indent value := by
  rw [printedNamed, h]

namespace Bundled.Parsed

variable {included : String → Option String → Json → String} {data : Json}

theorem printed_nil : (Body.ofList []).printed included none data = "" := by
  rw [Body.ofList, Body.printed]

theorem printed_cons (first : Option Position × Element) (rest : List (Option Position × Element)) :
    (Body.ofList (first :: rest)).printed included none data =
      first.2.printed included none data ++ (Body.ofList rest).printed included none data := by
  rw [Body.ofList, Body.printed]

theorem printed_value (line column : Nat) (key : String) :
    (value line column key).2.printed included none data = (valueAt data [key]).printed := by
  rw [value, Element.printed, Call.printed]
  rfl

theorem printed_indent (line column count : Nat) :
    (indent line column count).2.printed included none data = String.ofList (List.replicate count ' ') := by
  rw [indent, Element.printed, Call.printed]
  rfl

theorem printed_text (content : String) : (text content).2.printed included none data = content := by
  rw [text, Element.printed]
  rfl

theorem printed_inclusion (line : Nat) (name : String) :
    (inclusion line name).2.printed included none data = included name none data := by
  rw [inclusion, Element.printed]
  rfl

/-- A repetition prints its elements once for each of the views in a field. -/
theorem printed_each {α : Type} {key : String} {views : List α} {toJson : α → Json} (line column : Nat)
    (elements : List (Option Position × Element))
    (h : valueAt data [key] = .array (views.map toJson)) :
    (block line column "each" key elements).2.printed included none data =
      String.join (views.map fun view => (Body.ofList elements).printed included none (toJson view)) := by
  have hsubject : (Call.subject data (.mk (.word "each") [.path (field key)] [])) =
      .array (views.map toJson) := h
  have hitems : ((Json.array (views.map toJson)).items?.getD []) = views.map toJson := rfl
  have hname : (Call.mk (.word "each") [.path (field key)] []).callee.writtenName? = some "each" := rfl
  rw [block, Element.printed, if_pos hname, hsubject, hitems, List.map_map]
  rfl

/-- A condition prints its elements if the field is true. -/
theorem printed_if {key : String} {condition : Bool} (line column : Nat)
    (elements : List (Option Position × Element)) (h : valueAt data [key] = .bool condition) :
    (block line column "if" key elements).2.printed included none data =
      if condition then (Body.ofList elements).printed included none data else "" := by
  have hsubject : (Call.subject data (.mk (.word "if") [.path (field key)] [])) = .bool condition := h
  have hname : (Call.mk (.word "if") [.path (field key)] []).callee.writtenName? ≠ some "each" := by
    show some "if" ≠ some "each"
    decide
  rw [block, Element.printed, if_neg hname, hsubject, Branch.printed]
  rfl

end Bundled.Parsed

/-! ## Printed templates -/

/-- The lists of members that the template of an entity type repeats. -/
theorem EntityTypeView.valueAt_members (view : EntityTypeView) :
    valueAt view.toJson ["properties"] = .array (view.properties.map PropertyView.toJson) ∧
      valueAt view.toJson ["nav_properties"] = .array (view.navProperties.map NavigationView.toJson) :=
  ⟨valueAt_field rfl, valueAt_field rfl⟩

/-- The texts of the items that satisfy a condition, where the others have no text. -/
theorem join_map_ite {α : Type} (p : α → Bool) (text : α → String) (l : List α) :
    String.join (l.map fun a => if p a then text a else "") = String.join ((l.filter p).map text) := by
  induction l with
  | nil => rfl
  | cons first rest ih =>
    rw [List.map_cons, String.join_cons, ih]
    cases hp : p first with
    | false => rw [List.filter_cons_of_neg (by simp [hp]), if_neg Bool.false_ne_true, String.empty_append]
    | true => rw [List.filter_cons_of_pos hp, if_pos rfl, List.map_cons, String.join_cons]

namespace Bundled.Parsed

variable {included : String → Option String → Json → String}

theorem printed_csharpImports (view : EntityTypeView) :
    csharpImports.printed included none view.toJson = String.join (view.imports.map (·.csharpLine)) := by
  have hline : ∀ view : ImportView, (Body.ofList [text "using ", value 2 7 "name", text ";\n"]).printed included
      none view.toJson = view.csharpLine := by
    intro view
    rw [ImportView.toJson]
    simp only [printed_cons, printed_nil, printed_text, printed_value, valueAt_ofFields]
    unfold ImportView.csharpLine
    simp [Keyed.lookup_entry_cons, Json.printed, ← String.toList_inj]
  have himports : valueAt view.toJson ["imports"] = .array (view.imports.map ImportView.toJson) := valueAt_field rfl
  rw [csharpImports, printed_cons, printed_nil, printed_each _ _ _ himports, String.append_empty, funext hline]

theorem printed_csharpProperties (view : EntityTypeView) :
    csharpProperties.printed included none view.toJson =
      String.join (view.properties.map (·.csharpLine)) ++
        String.join (view.navProperties.map (·.csharpLine)) := by
  have hproperty : ∀ view : PropertyView, (Body.ofList
      [indent 2 1 8, text "public ", value 2 20 "property_type", text " ", value 2 38 "property_name",
        text " \x7b get; set; \x7d\n"]).printed included none view.toJson = view.csharpLine := by
    intro view
    rw [PropertyView.toJson]
    simp only [printed_cons, printed_nil, printed_indent, printed_text, printed_value, valueAt_ofFields]
    unfold PropertyView.csharpLine
    simp [Keyed.lookup_entry_cons, Json.printed, ← String.toList_inj]
  have hnavigation : ∀ view : NavigationView, (Body.ofList
      [indent 5 1 8, text "public virtual ", value 5 28 "property_type", text " ", value 5 46 "property_name",
        text " \x7b get; set; \x7d\n"]).printed included none view.toJson = view.csharpLine := by
    intro view
    rw [NavigationView.toJson]
    simp only [printed_cons, printed_nil, printed_indent, printed_text, printed_value, valueAt_ofFields]
    unfold NavigationView.csharpLine
    simp [Keyed.lookup_entry_cons, Json.printed, ← String.toList_inj]
  obtain ⟨hproperties, hnavigations⟩ := view.valueAt_members
  rw [csharpProperties, printed_cons, printed_each _ _ _ hproperties, printed_cons, printed_each _ _ _ hnavigations,
    printed_nil, String.append_empty, funext hproperty, funext hnavigation]

theorem printed_csharpConstructor (view : EntityTypeView) :
    csharpConstructor.printed included none view.toJson =
      (view.created?.map (EntityScaffold.csharpConstructor view.className)).getD "" := by
  have hcreation : ∀ view : NavigationView, (Body.ofList
      [block 5 1 "if" "is_collection"
        [indent 6 1 12, value 6 14 "property_name", text " = new HashSet<", value 6 46 "element_type",
          text ">();\n"]]).printed included none view.toJson =
        if view.isCollection then view.creationLine else "" := by
    intro view
    have hcollection : valueAt view.toJson ["is_collection"] = .bool view.isCollection := valueAt_field rfl
    rw [printed_cons, printed_nil, printed_if _ _ _ hcollection, String.append_empty, NavigationView.toJson]
    refine if_congr Iff.rfl ?_ rfl
    simp only [printed_cons, printed_nil, printed_indent, printed_text, printed_value, valueAt_ofFields]
    unfold NavigationView.creationLine
    simp [Keyed.lookup_entry_cons, Json.printed, ← String.toList_inj]
  have hcollections : valueAt view.toJson ["has_collections"] = .bool view.hasCollections := valueAt_field rfl
  rw [csharpConstructor, printed_cons, printed_nil, printed_if _ _ _ hcollections, String.append_empty,
    EntityTypeView.created?]
  cases view.hasCollections with
  | false => rfl
  | true =>
    have hname : valueAt view.toJson ["class_name"] = .string view.className := valueAt_field rfl
    rw [if_pos rfl, if_pos rfl, Option.map_some, Option.getD_some]
    simp only [printed_cons, printed_nil, printed_each _ _ _ view.valueAt_members.2, hcreation, printed_indent,
      printed_text, printed_value, hname, Json.printed]
    rw [join_map_ite]
    unfold EntityScaffold.csharpConstructor EntityTypeView.collections
    simp [← String.toList_inj]

theorem printed_typescriptImports (view : EntityTypeView) :
    typescriptImports.printed included none view.toJson =
      String.join (view.imports.map (·.typescriptLine)) := by
  have hpath : ∀ path : Option String, (Json.ofString? path).printed = path.getD "" := by
    intro path
    cases path <;> rfl
  have hline : ∀ view : ImportView, (Body.ofList
      [text "import \x7b ", value 2 10 "name", text " \x7d from '", value 2 27 "path", text "';\n"]).printed
        included none view.toJson = view.typescriptLine := by
    intro view
    rw [ImportView.toJson]
    simp only [printed_cons, printed_nil, printed_text, printed_value, valueAt_ofFields]
    unfold ImportView.typescriptLine
    simp [Keyed.lookup_entry_cons, hpath, Json.printed, ← String.toList_inj]
  have himports : valueAt view.toJson ["imports"] = .array (view.imports.map ImportView.toJson) := valueAt_field rfl
  rw [typescriptImports, printed_cons, printed_nil, printed_each _ _ _ himports, String.append_empty, funext hline]

theorem printed_typescriptProperties (view : EntityTypeView) :
    typescriptProperties.printed included none view.toJson =
      String.join (view.properties.map (·.typescriptLine)) ++
        String.join (view.navProperties.map (·.typescriptLine)) := by
  have hproperty : ∀ view : PropertyView, (Body.ofList
      [indent 2 1 2, value 2 13 "property_name", block 2 30 "if" "property_is_nullable" [text "?"], text ": ",
        value 2 68 "property_type", text ";\n"]).printed included none view.toJson = view.typescriptLine := by
    intro view
    have hnullable : valueAt view.toJson ["property_is_nullable"] = .bool view.isNullable := valueAt_field rfl
    simp only [printed_cons, printed_if _ _ _ hnullable]
    rw [PropertyView.toJson]
    simp only [printed_nil, printed_indent, printed_text, printed_value, valueAt_ofFields]
    unfold PropertyView.typescriptLine
    simp [Keyed.lookup_entry_cons, Json.printed, ← String.toList_inj]
  have hnavigation : ∀ view : NavigationView, (Body.ofList
      [indent 5 1 2, value 5 13 "property_name", text "?: ", value 5 33 "property_type", text ";\n"]).printed
        included none view.toJson = view.typescriptLine := by
    intro view
    rw [NavigationView.toJson]
    simp only [printed_cons, printed_nil, printed_indent, printed_text, printed_value, valueAt_ofFields]
    unfold NavigationView.typescriptLine
    simp [Keyed.lookup_entry_cons, Json.printed, ← String.toList_inj]
  obtain ⟨hproperties, hnavigations⟩ := view.valueAt_members
  rw [typescriptProperties, printed_cons, printed_each _ _ _ hproperties, printed_cons,
    printed_each _ _ _ hnavigations, printed_nil, String.append_empty, funext hproperty, funext hnavigation]

end Bundled.Parsed

namespace Bundled

/-- What the templates of a class print for a view. -/
theorem printedNamed_csharp (view : EntityTypeView) :
    printedNamed (entityBodies .csharp).reverse 2 LanguageMode.csharp.entityTemplate none view.toJson =
      csharpHead view.rootNamespace view.className view.imports view.created? ++
        String.join (view.properties.map (·.csharpLine)) ++
        String.join (view.navProperties.map (·.csharpLine)) ++ csharpFoot := by
  have hclass : (entityBodies .csharp).reverse.lookup LanguageMode.csharp.entityTemplate =
      some Parsed.csharpClass := rfl
  have himports : (entityBodies .csharp).reverse.lookup "imports" = some Parsed.csharpImports := rfl
  have hconstructor : (entityBodies .csharp).reverse.lookup "constructor" = some Parsed.csharpConstructor := rfl
  have hproperties : (entityBodies .csharp).reverse.lookup "properties" = some Parsed.csharpProperties := rfl
  have hnamespace : valueAt view.toJson ["namespace"] = .string view.rootNamespace := valueAt_field rfl
  have hname : valueAt view.toJson ["class_name"] = .string view.className := valueAt_field rfl
  rw [printedNamed_succ 1 none _ hclass, Parsed.csharpClass]
  simp only [Parsed.printed_cons, Parsed.printed_nil, Parsed.printed_inclusion, Parsed.printed_indent,
    Parsed.printed_text, Parsed.printed_value, hnamespace, hname, Json.printed,
    printedNamed_succ 0 none _ himports, printedNamed_succ 0 none _ hconstructor,
    printedNamed_succ 0 none _ hproperties, Parsed.printed_csharpImports, Parsed.printed_csharpConstructor,
    Parsed.printed_csharpProperties]
  unfold csharpHead csharpFoot
  simp [← String.toList_inj]

/-- What the templates of an interface print for a view. -/
theorem printedNamed_typescript (view : EntityTypeView) :
    printedNamed (entityBodies .typescript).reverse 2 LanguageMode.typescript.entityTemplate none view.toJson =
      typescriptHead view.className view.imports ++
        String.join (view.properties.map (·.typescriptLine)) ++
        String.join (view.navProperties.map (·.typescriptLine)) ++ typescriptFoot := by
  have hinterface : (entityBodies .typescript).reverse.lookup LanguageMode.typescript.entityTemplate =
      some Parsed.typescriptInterface := rfl
  have himports : (entityBodies .typescript).reverse.lookup "imports" = some Parsed.typescriptImports := rfl
  have hproperties : (entityBodies .typescript).reverse.lookup "properties" =
      some Parsed.typescriptProperties := rfl
  have hname : valueAt view.toJson ["class_name"] = .string view.className := valueAt_field rfl
  rw [printedNamed_succ 1 none _ hinterface, Parsed.typescriptInterface]
  simp only [Parsed.printed_cons, Parsed.printed_nil, Parsed.printed_inclusion, Parsed.printed_text,
    Parsed.printed_value, hname, Json.printed, printedNamed_succ 0 none _ himports,
    printedNamed_succ 0 none _ hproperties, Parsed.printed_typescriptImports,
    Parsed.printed_typescriptProperties]
  unfold typescriptHead typescriptFoot
  simp [← String.toList_inj]

end Bundled

/-! ## Generated text -/

/-- The text of an entity type: what comes before its members, a line for each property in order, a line for
each navigation in order, and what comes after them. -/
def EntityTypeView.text (view : EntityTypeView) : LanguageMode → String
  | .csharp => csharpHead view.rootNamespace view.className view.imports view.created? ++
      String.join (view.properties.map (·.csharpLine)) ++
      String.join (view.navProperties.map (·.csharpLine)) ++ csharpFoot
  | .typescript => typescriptHead view.className view.imports ++
      String.join (view.properties.map (·.typescriptLine)) ++
      String.join (view.navProperties.map (·.typescriptLine)) ++ typescriptFoot

theorem Bundled.printedNamed_entityBodies (language : LanguageMode) (view : EntityTypeView) :
    printedNamed (entityBodies language).reverse 2 language.entityTemplate none view.toJson =
      view.text language := by
  cases language with
  | csharp => exact printedNamed_csharp view
  | typescript => exact printedNamed_typescript view

namespace Scaffolder

variable {σ : Type}

/-- With the bundled templates every view of an entity type is rendered to its text, in either language: each
property has one line and then each navigation has one, in order. Before the members of a class stands what
follows from its namespace, its name, its imports and its collections, since the view of an entity type has a
constructor exactly if it has a collection. -/
theorem renderNamed_bundled (setup options : ScaffoldOptions) (hmode : setup.mode.generatesEntities = true) :
    ∃ (config : GenerationConfig σ) (scaffolder : Scaffolder σ),
      GenerationBuilder.buildBy [.ofOptions setup] = .ok config ∧
      new config Bundled.store.get? options = .ok scaffolder ∧
      (∀ view : EntityTypeView, view.IsCounted →
        scaffolder.renderer.renderNamed setup.language.entityTemplate view.toJson =
          .ok (view.text setup.language)) ∧
      ∀ (scope : GenerationScope) (entity : EntityType) (view : EntityTypeView),
        scope.renderer = scaffolder.renderer → scope.language = setup.language →
        EntityTypeView.complete setup.language scope entity = .ok view → view.IsCounted →
          (EntityTypeGenerator.rendering setup.language).writeCode scope entity =
            .ok (some (view.text setup.language)) ∧
          view.created? = if view.collections.isEmpty then none else some view.collections := by
  obtain ⟨renderer, hcompile, -, hentity⟩ := exists_compile_preset (σ := σ) setup.mode setup.naming
    Bundled.dbContext_fits (Bundled.entityType_fits setup.language)
  obtain ⟨bodies, hbodies, hprints⟩ := hentity hmode
  rw [Bundled.compileAll_entityBodies] at hbodies
  cases hbodies
  have hrender : ∀ view : EntityTypeView, view.IsCounted →
      renderer.renderNamed setup.language.entityTemplate view.toJson = .ok (view.text setup.language) := by
    intro view hcounted
    rw [hprints view.toJson hcounted.holds_shape, Bundled.printedNamed_entityBodies]
  refine ⟨.preset setup.mode setup.language setup.naming, ⟨_, options, renderer⟩, rfl,
    by rw [new_eq, hcompile]; rfl, hrender, ?_⟩
  intro scope entity view hscope hlanguage hview hcounted
  refine ⟨?_, EntityTypeView.created?_of_complete hview⟩
  have htext : scope.renderer.renderNamed scope.language.entityTemplate view.toJson =
      .ok (view.text setup.language) := by
    rw [hscope, hlanguage]
    exact hrender view hcounted
  rw [EntityTypeGenerator.writeCode, if_neg (not_not_intro hlanguage)]
  simp only [bind, Except.bind, hview, htext]
  rfl

/-- The class of an order. -/
def orderClass : String := Bundled.lines
  ["using System;",
    "using System.Collections.Generic;",
    "",
    "namespace Shop",
    "\x7b",
    "    public partial class OrderDto",
    "    \x7b",
    "        public OrderDto()",
    "        \x7b",
    "            MyLines = new HashSet<LineDto>();",
    "        \x7d",
    "",
    "        public int ItsId \x7b get; set; \x7d",
    "        public virtual ICollection<LineDto> MyLines \x7b get; set; \x7d",
    "        public virtual OrderDto MyParent \x7b get; set; \x7d",
    "    \x7d",
    "\x7d"]

/-- The class of an order has its property, its lines and its parent in order, and a constructor for the
lines. -/
theorem renderNamed_bundled_order :
    let setup : ScaffoldOptions := {}
    let view := { markedView "Its" "My" with imports := csharpImports true }
    setup.mode.generatesEntities = true ∧ view.IsCounted ∧
    ∃ (config : GenerationConfig Unit) (scaffolder : Scaffolder Unit),
      GenerationBuilder.buildBy [.ofOptions setup] = .ok config ∧
      new config Bundled.store.get? setup = .ok scaffolder ∧
      (EntityTypeGenerator.rendering .csharp).writeCode
        { markedScope "Its" "My" with renderer := scaffolder.renderer } markedOrder =
          .ok (some orderClass) := by
  intro setup view
  have hcounted : view.IsCounted := ⟨by decide, by decide, by decide⟩
  obtain ⟨config, scaffolder, hconfig, hnew, -, hcode⟩ := renderNamed_bundled (σ := Unit) setup setup rfl
  have horder : view.text .csharp = orderClass := by decide +kernel
  obtain ⟨htext, -⟩ := hcode { markedScope "Its" "My" with renderer := scaffolder.renderer } markedOrder view
    rfl rfl rfl hcounted
  exact ⟨rfl, hcounted, config, scaffolder, hconfig, hnew, horder ▸ htext⟩

end Scaffolder

end EntityScaffold
