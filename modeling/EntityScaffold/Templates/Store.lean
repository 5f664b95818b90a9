import EntityScaffold.Keyed

/-! # Template stores

Templates are found by relative paths. A store keeps every path in one normal form: slashes only, and
neither `./` nor a slash at the start.
-/

namespace EntityScaffold

/-- Gives the source of the template at a path, if there is one. -/
abbrev TemplateSource := String → Option String

/-- Drop `./` at the start as often as it is there. -/
def dropDotSlashes : List Char → List Char
  | '.' :: '/' :: rest => dropDotSlashes rest
  | cs => cs

/-- The normal form of a path. -/
def normalizePath (path : String) : String :=
  let slashed := path.toList.map fun c => if c = '\\' then '/' else c
  String.ofList ((dropDotSlashes slashed).dropWhile (· == '/'))

/-- Templates in memory. -/
structure TemplateStore where
  files : Keyed String

namespace TemplateStore

/-- No templates. -/
def empty : TemplateStore := ⟨.empty⟩

/-- Put a template at a path, in place of the one that was there. -/
def insert (store : TemplateStore) (path source : String) : TemplateStore :=
  ⟨store.files.insert (normalizePath path) source⟩

/-- The store of the templates in a list; of two at one path the later stays. -/
def ofList (templates : List (String × String)) : TemplateStore :=
  templates.foldl (fun store (path, source) => store.insert path source) empty

/-- The template at a path. -/
def get? (store : TemplateStore) : TemplateSource := fun path => store.files.get? (normalizePath path)

/-- Paths and templates in ascending order of the paths. -/
def toList (store : TemplateStore) : List (String × String) := store.files.entries

/-- The number of templates. -/
def size (store : TemplateStore) : Nat := store.files.size

/-- Whether there are no templates. -/
def isEmpty (store : TemplateStore) : Bool := store.files.isEmpty

end TemplateStore

end EntityScaffold
