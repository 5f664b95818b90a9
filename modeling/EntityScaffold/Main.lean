import EntityScaffold.Command.Run

/-! # The program

Commands run in the file system and tell what they do on the standard streams.
-/

namespace EntityScaffold.Command

/-- Why a file of the system cannot be read. -/
def FileFault.ofError : IO.Error → FileFault
  | .noFileOrDirectory .. => .missing
  | .inappropriateType .. => .isDirectory
  | error => .other (toString error)

/-- Whether an action of the system ends without an error. -/
def succeeds {α : Type} (action : IO α) : IO Bool := do
  try
    let _ ← action
    return true
  catch _ => return false

/-- The text of a file of the system. -/
def readFile (path : String) : IO (Except FileFault String) := do
  try
    return .ok (← IO.FS.readFile path)
  catch error => return .error (.ofError error)

instance : Host IO where
  readText := readFile
  isFile path := return match ← readFile path with
    | .ok _ | .error (.other _) => true
    | .error _ => false
  pathExists path := succeeds (IO.FS.realPath path)
  makeDirectories path := succeeds (IO.FS.createDirAll path)
  writeText path text := succeeds (IO.FS.writeFile path text)
  print text := IO.print text
  warn text := IO.eprint text

end EntityScaffold.Command

/-- Carry out the arguments of the program. -/
def main (arguments : List String) : IO UInt32 := do
  let log := (← IO.getEnv "HBS_SCAFFOLD_LOG").getD "hbs_scaffold=info"
  return (← EntityScaffold.Command.runArguments log arguments).toUInt32
