import EntityScaffold.Generation.View

/-! # Generated code

The generators of a run render views. A generator that generates nothing gives no code and no file. -/

namespace EntityScaffold

/-- A file that was generated. -/
structure GeneratedFile where
  fileName : String
  code : String
deriving DecidableEq, Repr

/-! ## Database contexts -/

/-- The code of the database context of a model. -/
def DbContextGenerator.writeCode (generator : DbContextGenerator) (scope : GenerationScope)
    (model : DatabaseModel) : Except GenerationError (Option String) :=
  match generator with
  | .null => .ok none
  | .rendering => do
    let view ← DbContextView.build scope model
    return some (← scope.renderer.renderNamed dbContextTemplate view.toJson)

/-! ## Entity types -/

/-- The namespaces that a class needs. -/
def csharpImports (hasCollections : Bool) : List ImportView :=
  ⟨"System", none⟩ :: if hasCollections then [⟨"System.Collections.Generic", none⟩] else []

/-- The classes that navigations lead to, except `own`, each with the path of its file. Of several
targets with one class name the first gives the path. -/
def typescriptImports (names : EntityNames) (own : String) (known : Keyed String) :
    List Navigation → Except GenerationError (Keyed String)
  | [] => .ok known
  | navigation :: rest => do
    let target ← names.get navigation.targetEntity
    if target.className = own || known.contains target.className then
      typescriptImports names own known rest
    else
      typescriptImports names own (known.insert target.className ("./" ++ target.fileStem)) rest

/-- What an entity type imports. -/
def LanguageMode.imports (language : LanguageMode) (scope : GenerationScope) (entity : EntityType)
    (view : EntityTypeView) : Except GenerationError (List ImportView) :=
  match language with
  | .csharp => .ok (csharpImports view.hasCollections)
  | .typescript => do
    let imports ← typescriptImports scope.names view.className .empty entity.navigations
    return imports.entries.map fun (name, path) => ⟨name, some path⟩

/-- The view that the template of an entity type is rendered with. -/
def EntityTypeView.complete (language : LanguageMode) (scope : GenerationScope)
    (entity : EntityType) : Except GenerationError EntityTypeView := do
  let view ← EntityTypeView.build scope entity
  return { view with imports := ← language.imports scope entity view }

/-- The code of an entity type. -/
def EntityTypeGenerator.writeCode (generator : EntityTypeGenerator) (scope : GenerationScope)
    (entity : EntityType) : Except GenerationError (Option String) :=
  match generator with
  | .null => .ok none
  | .rendering language => do
    if scope.language ≠ language then
      throw (.configuration (.wrongTemplates generator.name scope.language.name))
    let view ← EntityTypeView.complete language scope entity
    return some (← scope.renderer.renderNamed scope.language.entityTemplate view.toJson)

/-! ## Files -/

namespace ModelGenerator

/-- The file of a database context, which has the same extension in every language. -/
def dbContextFileName (contextName : String) : String := contextName ++ "." ++ dbContextExtension

/-- The file of an entity type. -/
def entityFileName (scope : GenerationScope) (entity : EntityType) :
    Except GenerationError String :=
  (scope.names.fileStem entity.name).map fun stem => stem ++ "." ++ scope.language.extension

/-- The file of the database context of a model. -/
def generateDbContext (generator : ModelGenerator) (context : DbContextGenerator)
    (scope : GenerationScope) (model : DatabaseModel) :
    Except GenerationError (Option GeneratedFile) := do
  if scope.language ≠ generator.language then
    throw (.configuration (.wrongService generator.name generator.language.name scope.language.name))
  let code ← context.writeCode scope model
  return code.map fun code => ⟨dbContextFileName scope.contextName, code⟩

/-- The file of an entity type. A failure names the entity, and the file if that is known. -/
def generateEntity (_ : ModelGenerator) (entityGenerator : EntityTypeGenerator)
    (scope : GenerationScope) (entity : EntityType) :
    Except EntityFailure (Option GeneratedFile) :=
  if !entityGenerator.isEnabled then .ok none
  else match entityFileName scope entity with
    | .error e => .error (.mk entity.name none e)
    | .ok fileName => match entityGenerator.writeCode scope entity with
      | .error e => .error (.mk entity.name (some fileName) e)
      | .ok code => .ok (code.map fun code => ⟨fileName, code⟩)

end ModelGenerator

end EntityScaffold
