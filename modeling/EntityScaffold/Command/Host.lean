import EntityScaffold.Command.Workspace

/-! # Hosts

A command reads and writes files and tells what it does. Where that happens is up to its host. A session
in a workspace is a host that needs no system.
-/

namespace EntityScaffold.Command

/-- What a command needs of the place where it runs. -/
class Host (m : Type → Type) where
  /-- The text of a file. -/
  readText (path : String) : m (Except FileFault String)
  /-- Whether there is a file at a path. -/
  isFile (path : String) : m Bool
  /-- Whether there is anything at a path. -/
  pathExists (path : String) : m Bool
  /-- Make a directory and those that lead to it; tells whether it is there then. -/
  makeDirectories (path : String) : m Bool
  /-- Write a file; tells whether that went well. -/
  writeText (path text : String) : m Bool
  /-- Add to the output. -/
  print (text : String) : m Unit
  /-- Add to the diagnostics. -/
  warn (text : String) : m Unit

/-- A workspace with what commands have told so far. -/
structure Session where
  workspace : Workspace
  output : String := ""
  diagnostics : String := ""
deriving DecidableEq, Repr

namespace Session

/-- Change the workspace if that is possible. -/
def attempt (change : Workspace → Option Workspace) : StateM Session Bool := fun session =>
  match change session.workspace with
  | some workspace => (true, { session with workspace := workspace })
  | none => (false, session)

end Session

instance : Host (StateM Session) where
  readText path := return (← get).workspace.readText path
  isFile path := return match (← get).workspace.entry? path with
    | some (.file _) => true
    | _ => false
  pathExists path := return ((← get).workspace.entry? path).isSome
  makeDirectories path := Session.attempt (·.makeDirectories path)
  writeText path text := Session.attempt (·.writeText path text)
  print text := modify fun session => { session with output := session.output ++ text }
  warn text := modify fun session => { session with diagnostics := session.diagnostics ++ text }

/-- What may fail runs where the host runs. -/
instance {m : Type → Type} {ε : Type} [Monad m] [Host m] : Host (ExceptT ε m) where
  readText path := ExceptT.lift (Host.readText path)
  isFile path := ExceptT.lift (Host.isFile path)
  pathExists path := ExceptT.lift (Host.pathExists path)
  makeDirectories path := ExceptT.lift (Host.makeDirectories path)
  writeText path text := ExceptT.lift (Host.writeText path text)
  print text := ExceptT.lift (Host.print text)
  warn text := ExceptT.lift (Host.warn text)

/-! ## Paths -/

/-- The path of something inside of a directory. A path from the root of the system stays as it is. -/
def joinPath (directory path : String) : String :=
  if Workspace.isAbsolute path || directory.isEmpty then path
  else if directory.toList.getLast? == some '/' then directory ++ path
  else directory ++ "/" ++ path

/-- The path of the directory that something inside of another stands in. -/
def parentPath (path : String) : String :=
  String.ofList ((Text.dropEndWhile (· != '/') path.toList).dropLast)

end EntityScaffold.Command
