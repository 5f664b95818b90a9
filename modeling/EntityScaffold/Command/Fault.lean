import EntityScaffold.Command.LogFilter
import EntityScaffold.Command.Workspace
import EntityScaffold.Error
import EntityScaffold.Model.Notation
import EntityScaffold.Options.File

/-! # Faults of commands -/

namespace EntityScaffold.Command

/-- What a command writes. -/
inductive Written where
  | output
  | template
deriving DecidableEq, Repr

/-- Why a command fails. -/
inductive CommandFault where
  /-- The log filter is none. -/
  | logFilter (fault : LogFilter.Fault)
  | optionsUnreadable (path : String) (fault : FileFault)
  | optionsInvalid (path : String) (fault : OptionsFault)
  | modelUnreadable (path : String) (fault : FileFault)
  | modelInvalid (path : String) (fault : ModelFault)
  /-- The run ended with an error. -/
  | generation (error : GenerationError)
  /-- The directory for what is written cannot be made. -/
  | directory (kind : Written) (path : String)
  /-- A file cannot be written. -/
  | file (kind : Written) (path : String)
  /-- Some outputs failed; the others are there. -/
  | outputs (count : Nat)

/-- What is told about a fault. -/
def CommandFault.message : CommandFault → String
  | .logFilter fault => fault.message
  | .optionsUnreadable path fault => "failed to read " ++ path ++ ": " ++ fault.message
  | .optionsInvalid path fault =>
    "failed to parse " ++ path ++ ": TOML parse error" ++ match fault.message? with
      | some message => "\n" ++ message
      | none => ""
  | .modelUnreadable path fault =>
    "Failed to read model file '" ++ path ++ "'\n\nCaused by:\n    " ++ fault.message
  | .modelInvalid path fault =>
    "Failed to parse model JSON '" ++ path ++ "'" ++ match fault.message? with
      | some message => "\n\nCaused by:\n    " ++ message
      | none => ""
  | .generation error => error.message
  | .directory .output path => "Failed to create output directory '" ++ path ++ "'"
  | .directory .template path => "Failed to create directory '" ++ path ++ "'"
  | .file .output path => "Failed to write output file '" ++ path ++ "'"
  | .file .template path => "Failed to write template '" ++ path ++ "'"
  | .outputs count => toString count ++ " entity type(s) failed to generate"

end EntityScaffold.Command
