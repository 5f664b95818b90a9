import EntityScaffold.Proofs.Generation.Loading
import EntityScaffold.Templates.Bundled

/-! # The bundled templates as elements

The bundled templates of entity types are given by their elements, each tag with its place in the source. What
they print can be read off the elements.
-/

namespace EntityScaffold.Bundled

open Template (Body Element Position)

/-! ## Sources -/

theorem toList_lines (all : List String) :
    (lines all).toList = all.flatMap fun line => line.toList ++ ['\n'] := by
  simp [lines, List.flatMap_map]

/-- The normal form of a path that is given by its characters; a literal is taken apart only once. -/
theorem normalizePath_ofList (cs : List Char) : normalizePath (String.ofList cs) =
    String.ofList ((dropDotSlashes (cs.map fun c => if c = '\\' then '/' else c)).dropWhile (· == '/')) := by
  rw [normalizePath, String.toList_ofList]

theorem map_normalizePath_all : (all.map fun entry => normalizePath entry.1) = all.map Prod.fst := by
  simp only [all, List.map_cons, List.map_nil]
  repeat rw [normalizePath_ofList]
  rfl

theorem nodup_paths : (all.map fun entry => normalizePath entry.1).Nodup := by
  rw [map_normalizePath_all]
  decide +kernel

/-- Every bundled template is found at its path. -/
theorem get?_store {path source : String} (i : Nat) (h : all[i]? = some (path, source)) :
    store.get? path = some source :=
  TemplateStore.get?_ofList nodup_paths (List.mem_of_getElem? h)

/-- An interface has no constructor. -/
theorem get?_typescriptConstructor :
    store.get? "TypeScriptEntityType/Partials/Constructor.hbs" = none := by
  have hnormal : normalizePath "TypeScriptEntityType/Partials/Constructor.hbs" =
      "TypeScriptEntityType/Partials/Constructor.hbs" := by
    rw [normalizePath_ofList]
    rfl
  refine TemplateStore.get?_ofList_eq_none ?_
  rw [map_normalizePath_all, hnormal]
  decide +kernel

namespace Parsed

/-! ## Tags -/

/-- The path to a field of the current value. -/
def field (key : String) : Template.Path := ⟨key, false, false, 0, [key]⟩

/-- A tag that prints a field. -/
def value (line column : Nat) (key : String) : Option Position × Element :=
  (some ⟨line, column⟩, .expression (.mk (.path (field key)) [] []))

/-- A tag that writes spaces. -/
def indent (line column count : Nat) : Option Position × Element :=
  (some ⟨line, column⟩, .expression (.mk (.word spacesName) [.literal (.integer count)] []))

/-- Text between tags. -/
def text (content : String) : Option Position × Element := (none, .text content)

/-- A block that asks for a field, without an alternative. -/
def block (line column : Nat) (word key : String) (elements : List (Option Position × Element)) :
    Option Position × Element :=
  (some ⟨line, column⟩,
    .block (.mk (.word word) [.path (field key)] []) .none (.ofList elements) .absent)

/-- An inclusion on a line of its own. -/
def inclusion (line : Nat) (name : String) : Option Position × Element :=
  (some ⟨line, 1⟩, .inclusion (.mk (.word name) [] []) none .absent)

/-! ## C# classes -/

/-- The elements of a C# class. -/
def csharpClass : Body := .ofList
  [inclusion 1 "imports", text "\nnamespace ", value 3 11 "namespace", text "\n\x7b\n", indent 5 1 4,
    text "public partial class ", value 5 34 "class_name", text "\n", indent 6 1 4, text "\x7b\n",
    inclusion 7 "constructor", inclusion 8 "properties", text "    \x7d\n\x7d\n"]

/-- The elements of the imports. -/
def csharpImports : Body := .ofList
  [block 1 1 "each" "imports" [text "using ", value 2 7 "name", text ";\n"]]

/-- The elements of the constructor. -/
def csharpConstructor : Body := .ofList
  [block 1 1 "if" "has_collections"
    [indent 2 1 8, text "public ", value 2 20 "class_name", text "()\n", indent 3 1 8, text "\x7b\n",
      block 4 1 "each" "nav_properties"
        [block 5 1 "if" "is_collection"
          [indent 6 1 12, value 6 14 "property_name", text " = new HashSet<", value 6 46 "element_type",
            text ">();\n"]],
      text "        \x7d\n\n"]]

/-- The elements of the properties and navigations. -/
def csharpProperties : Body := .ofList
  [block 1 1 "each" "properties"
      [indent 2 1 8, text "public ", value 2 20 "property_type", text " ", value 2 38 "property_name",
        text " \x7b get; set; \x7d\n"],
    block 4 1 "each" "nav_properties"
      [indent 5 1 8, text "public virtual ", value 5 28 "property_type", text " ",
        value 5 46 "property_name", text " \x7b get; set; \x7d\n"]]

/-! ## TypeScript interfaces -/

/-- The elements of a TypeScript interface. -/
def typescriptInterface : Body := .ofList
  [inclusion 1 "imports", text "\nexport interface ", value 3 18 "class_name", text " \x7b\n",
    inclusion 4 "properties", text "\x7d\n"]

/-- The elements of the imports. -/
def typescriptImports : Body := .ofList
  [block 1 1 "each" "imports"
    [text "import \x7b ", value 2 10 "name", text " \x7d from '", value 2 27 "path", text "';\n"]]

/-- The elements of the properties and navigations. -/
def typescriptProperties : Body := .ofList
  [block 1 1 "each" "properties"
      [indent 2 1 2, value 2 13 "property_name", block 2 30 "if" "property_is_nullable" [text "?"],
        text ": ", value 2 68 "property_type", text ";\n"],
    block 4 1 "each" "nav_properties"
      [indent 5 1 2, value 5 13 "property_name", text "?: ", value 5 33 "property_type", text ";\n"]]

end Parsed

/-! ## Roles -/

/-- The templates of entity types in a language, each under its name. -/
def entityBodies : LanguageMode → List (String × Body)
  | .csharp =>
    [(LanguageMode.csharp.entityTemplate, Parsed.csharpClass), ("imports", Parsed.csharpImports),
      ("constructor", Parsed.csharpConstructor), ("properties", Parsed.csharpProperties)]
  | .typescript =>
    [(LanguageMode.typescript.entityTemplate, Parsed.typescriptInterface),
      ("imports", Parsed.typescriptImports), ("properties", Parsed.typescriptProperties)]

-- Each source is taken apart into its characters before it is parsed, which is slow for a literal.
set_option maxRecDepth 4000 in
theorem compileAll_csharp : compileAll (presentSources store.get?
    (roleParts LanguageMode.csharp.entityTemplate LanguageMode.csharp.entityPartials)) =
      some (entityBodies .csharp) := by
  have hsources : List.Forall₂ (fun part source? => store.get? part.path = source?)
      (roleParts LanguageMode.csharp.entityTemplate LanguageMode.csharp.entityPartials)
      [some csharpClass, some csharpImports, some csharpConstructor, some csharpProperties] :=
    .cons (get?_store 4 rfl) <| .cons (get?_store 5 rfl) <| .cons (get?_store 6 rfl) <|
      .cons (get?_store 7 rfl) .nil
  rw [presentSources_eq hsources]
  simp only [roleParts, LanguageMode.entityPartials, List.zip_cons_cons, List.zip_nil_left,
    List.filterMap_cons, List.filterMap_nil, Option.map_some, csharpClass, csharpImports,
    csharpConstructor, csharpProperties, toList_lines, List.flatMap_cons, List.flatMap_nil]
  repeat rw [String.toList_ofList]
  rfl

set_option maxRecDepth 4000 in
theorem compileAll_typescript : compileAll (presentSources store.get?
    (roleParts LanguageMode.typescript.entityTemplate LanguageMode.typescript.entityPartials)) =
      some (entityBodies .typescript) := by
  have hsources : List.Forall₂ (fun part source? => store.get? part.path = source?)
      (roleParts LanguageMode.typescript.entityTemplate LanguageMode.typescript.entityPartials)
      [some typescriptInterface, some typescriptImports, none, some typescriptProperties] :=
    .cons (get?_store 8 rfl) <| .cons (get?_store 9 rfl) <| .cons get?_typescriptConstructor <|
      .cons (get?_store 10 rfl) .nil
  rw [presentSources_eq hsources]
  simp only [roleParts, LanguageMode.entityPartials, List.zip_cons_cons, List.zip_nil_left,
    List.filterMap_cons, List.filterMap_nil, Option.map_some, Option.map_none, typescriptInterface,
    typescriptImports, typescriptProperties, toList_lines, List.flatMap_cons, List.flatMap_nil]
  repeat rw [String.toList_ofList]
  rfl

theorem compileAll_entityBodies (language : LanguageMode) : compileAll (presentSources store.get?
    (roleParts language.entityTemplate language.entityPartials)) = some (entityBodies language) := by
  cases language with
  | csharp => exact compileAll_csharp
  | typescript => exact compileAll_typescript

end EntityScaffold.Bundled
