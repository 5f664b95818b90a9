import EntityScaffold.Command.Arguments
import EntityScaffold.Command.Fault
import EntityScaffold.Command.Host
import EntityScaffold.Scaffolder
import EntityScaffold.Templates.Bundled

/-! # Generating files

Options come from a file, given or found under its usual name, and from arguments, which go before it.
Templates come from a directory and, where it has none, from the bundled ones. All is generated before
anything is written or printed; then come the generated files, and the failures of the others last.
-/

namespace EntityScaffold.Command

/-- What a command does in a host until it fails. -/
abbrev CommandM (m : Type → Type) := ExceptT CommandFault m

variable {m : Type → Type} [Monad m] [Host m]

/-- Go on with a result, or fail. -/
def orFail {α ε : Type} (fault : ε → CommandFault) (result : Except ε α) : CommandM m α :=
  ExceptT.mk (pure (result.mapError fault))

/-! ## Options -/

/-- The usual name of an option file. -/
def optionsFileName : String := "scaffold.toml"

/-- Put arguments in the place of options. -/
def GenerateArguments.layer (arguments : GenerateArguments) (options : ScaffoldOptions) :
    ScaffoldOptions where
  mode := arguments.mode.getD options.mode
  language := arguments.language.getD options.language
  rootNamespace := arguments.rootNamespace.getD options.rootNamespace
  contextName := arguments.contextName.or options.contextName
  naming := arguments.naming.getD options.naming
  failFast := options.failFast || arguments.failFast
  parallel := options.parallel || arguments.parallel

/-- The options in a file. -/
def readOptions (path : String) : CommandM m ScaffoldOptions := do
  let source ← orFail (.optionsUnreadable path) (← Host.readText path)
  orFail (.optionsInvalid path) (ScaffoldOptions.parse source)

/-- The options of a run. -/
def resolveOptions (arguments : GenerateArguments) : CommandM m ScaffoldOptions := do
  let options ← match arguments.options with
    | some path => readOptions path
    | none => do
      if ← Host.isFile optionsFileName then readOptions optionsFileName else pure {}
  return arguments.layer options

/-! ## Models and templates -/

/-- The model in a file. -/
def readModel (path : String) : CommandM m DatabaseModel := do
  let source ← orFail (.modelUnreadable path) (← Host.readText path)
  orFail (.modelInvalid path) (DatabaseModel.parse source)

/-- Put the templates of a directory in the place of those with the same paths. -/
def overlay (directory : String) (store : TemplateStore) : List String → m TemplateStore
  | [] => return store
  | path :: rest => do
    let store := match ← Host.readText (joinPath directory path) with
      | .ok source => store.insert path source
      | .error _ => store
    overlay directory store rest

/-- The bundled templates, with those of a directory before them. -/
def templateStore : Option String → m TemplateStore
  | some directory => overlay directory Bundled.store templatePaths
  | none => return Bundled.store

/-! ## Files -/

/-- The files as they are printed: each after its name, and each with a line break at its end. -/
def printedFiles (files : List (String × String)) : String :=
  String.join (files.map fun (name, code) =>
    "// ---- " ++ name ++ " ----\n" ++ code ++ if code.toList.getLast? = some '\n' then "" else "\n")

/-- Write files into a directory. -/
def writeEach (directory : String) : List (String × String) → CommandM m Unit
  | [] => return
  | (name, code) :: rest => do
    let path := joinPath directory name
    if ← Host.writeText path code then writeEach directory rest
    else throw (.file .output path)

/-- Write files into a directory, which is made if it is missing. -/
def writeFiles (directory : String) (files : List (String × String)) : CommandM m Unit := do
  if ← Host.makeDirectories directory then
    writeEach directory files
    Host.warn
      ("Generated " ++ toString files.length ++ " file(s) in " ++ directory ++ "\n")
  else throw (.directory .output directory)

/-! ## Runs -/

/-- Everything that is generated for a model. -/
def report (options : ScaffoldOptions) (templates : TemplateSource) (model : DatabaseModel) :
    Except GenerationError ScaffoldReport := do
  let config ← (GenerationBuilder.ofOptions options : GenerationBuilder Unit).build
  let scaffolder ← Scaffolder.new config templates options
  ((scaffolder.generateReport model).run ()).1

/-- Generate the files for a model. -/
def generate (arguments : GenerateArguments) : CommandM m Unit := do
  let options ← resolveOptions arguments
  let model ← readModel arguments.model
  let templates ← templateStore arguments.templates
  let report ← orFail .generation (report options templates.get? model)
  let files := report.model.files.entries
  match arguments.out with
  | some directory => writeFiles directory files
  | none => Host.print (printedFiles files)
  unless report.isSuccess do
    Host.warn (String.join (report.failures.map fun f => "Error: " ++ f.message ++ "\n"))
    throw (.outputs report.failures.length)

end EntityScaffold.Command
