import EntityScaffold.Generation.Code

/-! # Reports

The outcomes of a run are merged in order. An outcome is nothing, a file or a failure, and has an origin:
the name of the database context or of an entity. Two files of one name end the run; failures are
collected, or the first ends the run when that is asked for.
-/

namespace EntityScaffold

/-- The files generated for a model. -/
structure ScaffoldedModel where
  files : Keyed String
  /-- The file of the database context, if there is one. -/
  dbContextFile : Option String

namespace ScaffoldedModel

/-- The code of a file. -/
def get? (model : ScaffoldedModel) (fileName : String) : Option String := model.files.get? fileName

/-- The files of entity types in ascending order. -/
def entityFiles (model : ScaffoldedModel) : List String :=
  model.files.keys.filter fun name => model.dbContextFile ≠ some name

/-- The number of files. -/
def size (model : ScaffoldedModel) : Nat := model.files.size

/-- Whether there are no files. -/
def isEmpty (model : ScaffoldedModel) : Bool := model.files.isEmpty

end ScaffoldedModel

/-- The files of a run and the failures that were collected. -/
structure ScaffoldReport where
  model : ScaffoldedModel
  failures : List EntityFailure

namespace ScaffoldReport

/-- Nothing failed. -/
def isSuccess (report : ScaffoldReport) : Bool := report.failures.isEmpty

/-- The files if nothing failed. -/
def toResult (report : ScaffoldReport) : Except GenerationError ScaffoldedModel :=
  if report.failures.isEmpty then .ok report.model else .error (.entityFailures report.failures)

end ScaffoldReport

/-! ## Merging -/

/-- What became of one output. -/
structure Outcome where
  /-- The name of the database context or of the entity. -/
  origin : String
  /-- The output is the database context. -/
  isDbContext : Bool
  result : Except EntityFailure (Option GeneratedFile)

/-- What has been merged so far. -/
structure Collected where
  files : Keyed String
  /-- The origin of each file. -/
  origins : Keyed String
  dbContextFile : Option String
  failures : List EntityFailure

namespace Collected

/-- Nothing merged yet. -/
def empty : Collected := ⟨.empty, .empty, none, []⟩

/-- Add the outcome of one output. -/
def accept (failFast : Bool) (collected : Collected) (outcome : Outcome) :
    Except GenerationError Collected :=
  match outcome.result with
  | .ok none => .ok collected
  | .ok (some file) =>
    match collected.origins.get? file.fileName with
    | some first => .error (.fileNameCollision file.fileName first outcome.origin)
    | none => .ok { collected with
        files := collected.files.insert file.fileName file.code
        origins := collected.origins.insert file.fileName outcome.origin
        dbContextFile := if outcome.isDbContext then some file.fileName else collected.dbContextFile }
  | .error failure =>
    if failure.error.isFatal || failFast then .error failure.error
    else .ok { collected with failures := collected.failures ++ [failure] }

/-- Add outcomes in order. -/
def acceptAll (failFast : Bool) (collected : Collected) :
    List Outcome → Except GenerationError Collected
  | [] => .ok collected
  | outcome :: rest => (collected.accept failFast outcome).bind (acceptAll failFast · rest)

/-- The report of what has been merged. -/
def report (collected : Collected) : ScaffoldReport :=
  ⟨⟨collected.files, collected.dbContextFile⟩, collected.failures⟩

end Collected

end EntityScaffold
