import EntityScaffold.Language.Basic
import EntityScaffold.Transform

/-! # Command lines

A command line names a command after options that hold for all commands and before options of its own.
An option is given at most once for each command, by its name after two dashes or by its letter after
one; its value follows as the next argument or in the same one, after `=` or right after the letter.
The first argument that asks for help or for the version ends the reading.
-/

namespace EntityScaffold.Command

/-- What `generate` is asked for. -/
structure GenerateArguments where
  /-- The path of the model. -/
  model : String
  /-- The directory of templates that go before the bundled ones. -/
  templates : Option String := none
  /-- The path of the option file. -/
  options : Option String := none
  /-- The directory for the generated files, which are printed without it. -/
  out : Option String := none
  mode : Option ReverseEngineerMode := none
  language : Option LanguageMode := none
  rootNamespace : Option String := none
  contextName : Option String := none
  naming : Option NamingConvention := none
  failFast : Bool := false
  parallel : Bool := false
deriving DecidableEq, Repr

/-- A command with its arguments. -/
inductive Job where
  | generate (arguments : GenerateArguments)
  /-- List the paths of the bundled templates. -/
  | listTemplates
  /-- Write the bundled templates into a directory. -/
  | exportTemplates (out : String) (force : Bool)
deriving DecidableEq, Repr

/-- A command line that can be carried out. -/
structure CommandLine where
  /-- The log filter, if one is given. -/
  log : Option String
  job : Job
deriving DecidableEq, Repr

/-- Why a command line is not carried out. -/
inductive Stop where
  /-- The arguments are no command line. -/
  | misuse
  | help
  | version
deriving DecidableEq, Repr

/-! ## Options -/

/-- An option. -/
structure OptionRule where
  name : String
  letter : Option Char := none
  /-- Which texts are values of the option; without it the option is a flag. -/
  accepts : Option (String → Bool) := none

/-- An option with a path for its value. -/
def pathOption (name : String) (letter : Option Char := none) : OptionRule :=
  ⟨name, letter, some fun value => !value.isEmpty⟩

/-- An option with any text for its value. -/
def textOption (name : String) : OptionRule := ⟨name, none, some fun _ => true⟩

/-- An option whose value is read by a function that may fail. -/
def readOption {α ε : Type} (name : String) (read : String → Except ε α)
    (letter : Option Char := none) : OptionRule :=
  ⟨name, letter, some fun value => (read value).toOption.isSome⟩

/-- The option that holds for every command. -/
def logOption : OptionRule := textOption "log"

/-- What may follow the name of a command. -/
structure CommandRule where
  options : List OptionRule
  /-- The commands inside of this one. -/
  commands : List String := []
  /-- Whether one may ask for the version. -/
  hasVersion : Bool := false

/-- The program itself. -/
def programRule : CommandRule where
  options := [logOption]
  commands := ["generate", "templates", "help"]
  hasVersion := true

/-- The command that generates files. -/
def generateRule : CommandRule where
  options :=
    [pathOption "model" (some 'm'), pathOption "templates" (some 't'), pathOption "options",
      pathOption "out" (some 'o'), readOption "mode" ReverseEngineerMode.parse,
      readOption "language" LanguageMode.parse (some 'l'), textOption "namespace",
      textOption "context-name", readOption "naming" NamingConvention.parse, ⟨"fail-fast", none, none⟩,
      ⟨"parallel", none, none⟩, logOption]

/-- The commands for templates. -/
def templatesRule : CommandRule where
  options := [logOption]
  commands := ["list", "export", "help"]

/-- The command that lists templates. -/
def listRule : CommandRule where
  options := [logOption]

/-- The command that writes templates. -/
def exportRule : CommandRule where
  options := [pathOption "out" (some 'o'), ⟨"force", none, none⟩, logOption]

/-! ## Arguments -/

/-- An argument by its form. -/
inductive Argument where
  /-- Two dashes alone. -/
  | separator
  | long (name : String) (value : Option String)
  | short (letter : Char) (value : Option String)
  | plain (text : String)
deriving DecidableEq, Repr

/-- What follows the name of an option in the same argument. -/
def attachedValue : List Char → Option String
  | '=' :: rest => some (String.ofList rest)
  | _ => none

/-- The form of an argument. -/
def Argument.ofText (text : String) : Argument :=
  match text.toList with
  | ['-', '-'] => .separator
  | '-' :: '-' :: rest =>
    .long (String.ofList (rest.takeWhile (· != '='))) (attachedValue (rest.dropWhile (· != '=')))
  | '-' :: letter :: rest =>
    .short letter (if rest.isEmpty then none
      else some ((attachedValue rest).getD (String.ofList rest)))
  | _ => .plain text

/-- The options given so far with their values; a flag has the empty text. -/
abbrev Given := List (String × String)

/-- Give an option, which must not have been given before. -/
def give (given : Given) (rule : OptionRule) (value : String) : Except Stop Given :=
  let isFine := match rule.accepts with
    | some accepts => accepts value
    | none => true
  if isFine && (given.lookup rule.name).isNone then .ok ((rule.name, value) :: given)
  else .error .misuse

/-- What an option stands for that is found in the arguments. -/
inductive Found where
  | stop (reason : Stop)
  | option (rule : OptionRule) (value : Option String)

namespace CommandRule

/-- The option with a name. -/
def long (rule : CommandRule) (name : String) (value : Option String) : Found :=
  if name = "help" ∧ value.isNone then .stop .help
  else if name = "version" ∧ value.isNone ∧ rule.hasVersion then .stop .version
  else match rule.options.find? (·.name == name) with
    | some option => .option option value
    | none => .stop .misuse

/-- The option with a letter. -/
def short (rule : CommandRule) (letter : Char) (value : Option String) : Found :=
  if letter = 'h' then .stop .help
  else if letter = 'V' ∧ rule.hasVersion then .stop .version
  else match rule.options.find? (·.letter == some letter) with
    | some option => .option option value
    | none => .stop .misuse

/-- The option that an argument stands for. -/
def find (rule : CommandRule) : Argument → Found
  | .long name value => rule.long name value
  | .short letter value => rule.short letter value
  | .separator | .plain _ => .stop .misuse

/-- Read options up to the name of a command inside of this one, or to the end. -/
def read (rule : CommandRule) (given : Given) : List String → Except Stop (Given × List String)
  | [] => .ok (given, [])
  | argument :: rest =>
    if argument = "--" then
      if rest.isEmpty then .ok (given, []) else .error .misuse
    else if rule.commands.contains argument then .ok (given, argument :: rest)
    else match rule.find (.ofText argument) with
      | .stop reason => .error reason
      | .option option (some value) =>
        if option.accepts.isNone then .error .misuse
        else (give given option value).bind (rule.read · rest)
      | .option option none =>
        if option.accepts.isNone then (give given option "").bind (rule.read · rest)
        else match rest with
          | [] => .error .misuse
          | value :: rest =>
            match Argument.ofText value with
            | .plain value => (give given option value).bind (rule.read · rest)
            | _ => .error .misuse

end CommandRule

/-! ## Commands -/

/-- The arguments of `generate`; a model must be given. -/
def GenerateArguments.ofGiven (given : Given) : Except Stop GenerateArguments :=
  match given.lookup "model" with
  | none => .error .misuse
  | some model => .ok {
      model := model
      templates := given.lookup "templates"
      options := given.lookup "options"
      out := given.lookup "out"
      mode := (given.lookup "mode").bind fun value => (ReverseEngineerMode.parse value).toOption
      language := (given.lookup "language").bind fun value => (LanguageMode.parse value).toOption
      rootNamespace := given.lookup "namespace"
      contextName := given.lookup "context-name"
      naming := (given.lookup "naming").bind fun value => (NamingConvention.parse value).toOption
      failFast := (given.lookup "fail-fast").isSome
      parallel := (given.lookup "parallel").isSome }

/-- Help on a command that must exist. -/
def helpOn (commands : List (List String)) (path : List String) : Stop :=
  if commands.contains path then .help else .misuse

namespace CommandLine

/-- Read what follows `templates`. -/
def readTemplates (arguments : List String) : Except Stop (Given × Job) := do
  let (outer, rest) ← templatesRule.read [] arguments
  match rest with
  | "list" :: rest =>
    let (given, _) ← listRule.read [] rest
    return (given ++ outer, .listTemplates)
  | "export" :: rest =>
    let (given, _) ← exportRule.read [] rest
    match given.lookup "out" with
    | some out => return (given ++ outer, .exportTemplates out (given.lookup "force").isSome)
    | none => throw .misuse
  | "help" :: path => throw (helpOn [[], ["list"], ["export"], ["help"]] path)
  | _ => throw .misuse

/-- Read a command line. Of several log filters the last one holds. -/
def parse (arguments : List String) : Except Stop CommandLine := do
  let (outer, rest) ← programRule.read [] arguments
  match rest with
  | "generate" :: rest =>
    let (given, _) ← generateRule.read [] rest
    let own ← GenerateArguments.ofGiven given
    return ⟨(given ++ outer).lookup "log", .generate own⟩
  | "templates" :: rest =>
    let (given, job) ← readTemplates rest
    return ⟨(given ++ outer).lookup "log", job⟩
  | "help" :: path =>
    throw (helpOn [[], ["generate"], ["help"], ["templates"], ["templates", "list"],
      ["templates", "export"], ["templates", "help"]] path)
  | _ => throw .misuse

end CommandLine

end EntityScaffold.Command
