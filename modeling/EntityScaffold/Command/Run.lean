import EntityScaffold.Command.Export

/-! # Carrying out command lines

A run ends with 0 if all went well, with 1 if the command failed, and with 2 if the arguments are no
command line.
-/

namespace EntityScaffold.Command

variable {m : Type → Type} [Monad m] [Host m]

/-- The name of the program and its version. -/
def versionText : String := "hbs-scaffold-ctl 0.1.0\n"

/-- The name of an option with its value, for the usage. -/
def OptionRule.usage (rule : OptionRule) : String :=
  " [--" ++ rule.name ++ (if rule.accepts.isSome then " VALUE]" else "]")

/-- A command with its options, for the usage. -/
def CommandRule.usage (rule : CommandRule) (name : String) : String :=
  "  hbs-scaffold-ctl " ++ name ++ String.join (rule.options.map OptionRule.usage) ++ "\n"

/-- How the program is used. -/
def usageText : String :=
  "Usage:\n" ++ generateRule.usage "generate" ++ listRule.usage "templates list" ++
    exportRule.usage "templates export"

/-- Carry out a command line; without a log filter of its own it has the one given. -/
def CommandLine.run (line : CommandLine) (log : String) : CommandM m Unit := do
  if let some fault := LogFilter.fault? (line.log.getD log) then throw (.logFilter fault)
  match line.job with
  | .generate arguments => generate arguments
  | .listTemplates => listTemplates
  | .exportTemplates out force => exportTemplates out force

/-- Carry out what the arguments say; gives the exit code. -/
def runArguments (log : String) (arguments : List String) : m Nat := do
  match CommandLine.parse arguments with
  | .error .misuse => do
    Host.warn usageText
    return 2
  | .error .help => do
    Host.print usageText
    return 0
  | .error .version => do
    Host.print versionText
    return 0
  | .ok line =>
    match ← (line.run log).run with
    | .ok () => return 0
    | .error fault => do
      Host.warn ("Error: " ++ fault.message ++ "\n")
      return 1

/-- Carry out what the arguments say in a workspace; gives the exit code and the session after it. -/
def runIn (workspace : Workspace) (log : String) (arguments : List String) : Nat × Session :=
  (runArguments log arguments : StateM Session Nat).run { workspace := workspace }

end EntityScaffold.Command
