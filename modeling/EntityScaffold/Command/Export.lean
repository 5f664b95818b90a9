import EntityScaffold.Command.Generate

/-! # Bundled templates as files

The bundled templates are written into a directory under their paths. What is there already stays unless
it is to be replaced.
-/

namespace EntityScaffold.Command

variable {m : Type → Type} [Monad m] [Host m]

/-- Write a template in a directory that is made if it is missing. -/
def writeTemplate (path source : String) : CommandM m Unit := do
  unless ← Host.makeDirectories (parentPath path) do
    throw (.directory .template (parentPath path))
  unless ← Host.writeText path source do
    throw (.file .template path)

/-- Write templates into a directory; gives the number of those written. -/
def exportEach (directory : String) (force : Bool) : List (String × String) → CommandM m Nat
  | [] => return 0
  | (name, source) :: rest => do
    let path := joinPath directory name
    if !force && (← Host.pathExists path) then
      Host.warn ("Skipping existing " ++ path ++ " (use --force to overwrite)\n")
      exportEach directory force rest
    else
      writeTemplate path source
      return (← exportEach directory force rest) + 1

/-- Write the bundled templates into a directory. -/
def exportTemplates (directory : String) (force : Bool) : CommandM m Unit := do
  let count ← exportEach directory force Bundled.store.toList
  Host.warn ("Exported " ++ toString count ++ " template(s) to " ++ directory ++ "\n")

/-- List the paths of the bundled templates. -/
def listTemplates : CommandM m Unit :=
  Host.print (String.join (Bundled.store.toList.map fun (path, _) => path ++ "\n"))

end EntityScaffold.Command
