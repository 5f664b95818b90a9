import EntityScaffold.Command.Run
import EntityScaffold.Proofs.Command.Outputs

/-! # What a command generates

Before it writes or prints anything, `generate` only reads. What it generates, or why it fails, is up to its arguments
and the workspace alone. A delivery follows, and the failures of some outputs end the run after it.
-/

namespace EntityScaffold.Command

open Workspace

/-! ## What is read -/

section

variable {α β : Type} {x : CommandM (StateM Session) α} {read : Workspace → Except CommandFault α}

/-- A value is read in the workspace, and nothing else happens. -/
def Reads (x : CommandM (StateM Session) α) (read : Workspace → Except CommandFault α) : Prop :=
  ∀ session, x.run session = (read session.workspace, session)

theorem Reads.run_bind (h : Reads x read) (f : α → CommandM (StateM Session) β) (session : Session) :
    (x >>= f).run session =
      match read session.workspace with
      | .ok a => (f a).run session
      | .error fault => (.error fault, session) := by
  rw [Command.run_bind, h session]
  cases read session.workspace <;> rfl

/-- What is read may decide what is read next. -/
theorem Reads.bind (h : Reads x read) {f : α → CommandM (StateM Session) β}
    {next : α → Workspace → Except CommandFault β} (hf : ∀ a, Reads (f a) (next a)) :
    Reads (x >>= f) fun workspace => (read workspace).bind (next · workspace) := by
  intro session
  rw [h.run_bind]
  dsimp only
  cases read session.workspace with
  | error fault => rfl
  | ok a => exact hf a session

theorem reads_pure (value : α) : Reads (pure value) fun _ => .ok value := fun _ => rfl

theorem reads_orFail {ε : Type} (fault : ε → CommandFault) (result : Except ε α) :
    Reads (orFail fault result) fun _ => result.mapError fault := fun _ => rfl

theorem reads_readText (path : String) : Reads (Host.readText path) fun workspace => .ok (workspace.readText path) :=
  fun _ => rfl

end

namespace Workspace

variable (workspace : Workspace)

/-- Whether there is a file at a path. -/
def hasFile (path : String) : Bool := match workspace.entry? path with
  | some (.file _) => true
  | _ => false

/-- The options in a file. -/
def optionsAt (path : String) : Except CommandFault ScaffoldOptions :=
  ((workspace.readText path).mapError (.optionsUnreadable path)).bind fun source =>
    (ScaffoldOptions.parse source).mapError (.optionsInvalid path)

/-- The options of a run: those of the given file, or of the usual one if it is there, below the arguments. -/
def optionsOf (arguments : GenerateArguments) : Except CommandFault ScaffoldOptions :=
  (match arguments.options with
    | some path => workspace.optionsAt path
    | none => if workspace.hasFile optionsFileName then workspace.optionsAt optionsFileName else .ok {}).bind
      fun options => .ok (arguments.layer options)

/-- The model in a file. -/
def modelAt (path : String) : Except CommandFault DatabaseModel :=
  ((workspace.readText path).mapError (.modelUnreadable path)).bind fun source =>
    (DatabaseModel.parse source).mapError (.modelInvalid path)

/-- A store with the templates of a directory in the place of those with the same paths. -/
def overlaid (directory : String) (store : TemplateStore) (paths : List String) : TemplateStore :=
  paths.foldl (fun store path => match workspace.readText (joinPath directory path) with
    | .ok source => store.insert path source
    | .error _ => store) store

/-- The templates of a run. -/
def templatesOf : Option String → TemplateStore
  | some directory => workspace.overlaid directory Bundled.store templatePaths
  | none => Bundled.store

/-- What is generated: the options and the model must be readable, and the run must not end with an error. -/
def generated (arguments : GenerateArguments) : Except CommandFault ScaffoldReport :=
  (workspace.optionsOf arguments).bind fun options =>
  (workspace.modelAt arguments.model).bind fun model =>
  (report options (workspace.templatesOf arguments.templates).get? model).mapError .generation

/-- What is generated with a log filter, which must be one. -/
def generatedWith (filter : String) (arguments : GenerateArguments) : Except CommandFault ScaffoldReport :=
  match LogFilter.fault? filter with
  | some fault => .error (.logFilter fault)
  | none => workspace.generated arguments

end Workspace

theorem reads_readOptions (path : String) : Reads (readOptions path) (·.optionsAt path) :=
  (reads_readText path).bind fun source => (reads_orFail _ source).bind fun _ => reads_orFail _ _

theorem reads_resolveOptions (arguments : GenerateArguments) :
    Reads (resolveOptions arguments) (·.optionsOf arguments) := by
  have hfile : Reads (Host.isFile optionsFileName) fun workspace => .ok (workspace.hasFile optionsFileName) :=
    fun _ => rfl
  unfold resolveOptions optionsOf
  cases arguments.options with
  | some path => exact (reads_readOptions path).bind fun _ => reads_pure _
  | none =>
    intro session
    rw [hfile.run_bind]
    dsimp only
    cases session.workspace.hasFile optionsFileName with
    | true => exact (reads_readOptions optionsFileName).bind (fun _ => reads_pure _) session
    | false => rfl

theorem reads_readModel (path : String) : Reads (readModel path) (·.modelAt path) :=
  (reads_readText path).bind fun source => (reads_orFail _ source).bind fun _ => reads_orFail _ _

theorem reads_overlay (directory : String) (store : TemplateStore) (paths : List String) :
    Reads (overlay directory store paths) fun workspace => .ok (workspace.overlaid directory store paths) := by
  intro session
  induction paths generalizing store with
  | nil => rfl
  | cons path rest ih =>
    rw [overlay, (reads_readText _).run_bind]
    exact ih _

theorem reads_templateStore (directory : Option String) :
    Reads (templateStore directory) fun workspace => .ok (workspace.templatesOf directory) := by
  cases directory with
  | none => exact fun _ => rfl
  | some directory => exact reads_overlay directory Bundled.store templatePaths

/-- What is generated before anything is delivered. -/
def prepare {m : Type → Type} [Monad m] [Host m] (arguments : GenerateArguments) : CommandM m ScaffoldReport := do
  let options ← resolveOptions arguments
  let model ← readModel arguments.model
  let templates ← templateStore arguments.templates
  orFail .generation (report options templates.get? model)

theorem reads_prepare (arguments : GenerateArguments) : Reads (prepare arguments) (·.generated arguments) :=
  (reads_resolveOptions arguments).bind fun _ => (reads_readModel arguments.model).bind fun _ =>
    (reads_templateStore arguments.templates).bind fun _ => reads_orFail _ _

/-! ## What is told -/

/-- What is told once files are written. -/
def generatedText (directory : String) (count : Nat) : String :=
  "Generated " ++ toString count ++ " file(s) in " ++ directory ++ "\n"

/-- What is told of the failures of outputs. -/
def failuresText (failures : List EntityFailure) : String :=
  String.join (failures.map fun failure => "Error: " ++ failure.message ++ "\n")

/-! ## Deliveries -/

section

variable {m : Type → Type} [Monad m] [Host m]

/-- Tell the failures of outputs and fail, if there are any. -/
def tellFailures (made : ScaffoldReport) : CommandM m Unit := do
  unless made.isSuccess do
    Host.warn (failuresText made.failures)
    throw (.outputs made.failures.length)

/-- Write what was generated, or print it, and tell the failures. -/
def deliver (out : Option String) (made : ScaffoldReport) : CommandM m Unit :=
  match out with
  | some directory => do
    writeFiles directory made.model.files.entries
    tellFailures made
  | none => do
    Host.print (printedFiles made.model.files.entries)
    tellFailures made

/-- Nothing is written or printed before all is generated. -/
theorem generate_eq_prepare [LawfulMonad m] (arguments : GenerateArguments) :
    (generate arguments : CommandM m Unit) = prepare arguments >>= deliver arguments.out := by
  unfold prepare
  simp only [bind_assoc]
  rfl

end

variable {session : Session}

/-- What is delivered is up to what is generated for the workspace at the start. -/
theorem run_generate (arguments : GenerateArguments) (session : Session) :
    (generate arguments : CommandM (StateM Session) Unit).run session =
      match session.workspace.generated arguments with
      | .ok made => (deliver arguments.out made : CommandM (StateM Session) Unit).run session
      | .error fault => (.error fault, session) := by
  rw [generate_eq_prepare, (reads_prepare arguments).run_bind]
  cases session.workspace.generated arguments <;> rfl

theorem run_commandLine (log : Option String) (filter : String) (arguments : GenerateArguments) (session : Session) :
    (CommandLine.run ⟨log, .generate arguments⟩ filter : CommandM (StateM Session) Unit).run session =
      match session.workspace.generatedWith (log.getD filter) arguments with
      | .ok made => (deliver arguments.out made : CommandM (StateM Session) Unit).run session
      | .error fault => (.error fault, session) := by
  unfold CommandLine.run generatedWith
  cases LogFilter.fault? (log.getD filter) with
  | some fault => rfl
  | none => exact run_generate arguments session

/-- How a run ends after the delivery. -/
def ending (made : ScaffoldReport) : Except CommandFault Unit :=
  if made.failures = [] then .ok () else .error (.outputs made.failures.length)

theorem run_tellFailures (made : ScaffoldReport) (session : Session) :
    (tellFailures made : CommandM (StateM Session) Unit).run session =
      (ending made, { session with diagnostics := session.diagnostics ++ failuresText made.failures }) := by
  obtain ⟨model, failures⟩ := made
  cases failures with
  | nil =>
    have hnone : session.diagnostics ++ failuresText [] = session.diagnostics := String.append_empty
    rw [hnone]
    rfl
  | cons failure rest => rfl

theorem run_deliver_print (made : ScaffoldReport) (session : Session) :
    (deliver none made : CommandM (StateM Session) Unit).run session =
      (ending made, { session with
        output := session.output ++ printedFiles made.model.files.entries
        diagnostics := session.diagnostics ++ failuresText made.failures }) := by
  rw [deliver, run_bind]
  exact run_tellFailures made _

/-! ## Writing files -/

/-- The files that can be written are written. -/
theorem run_writeEach {directory : String} {files : List (String × String)} {before after : Workspace}
    (h : Writes directory before files after) (session : Session) :
    (writeEach directory files : CommandM (StateM Session) Unit).run { session with workspace := before } =
      (.ok (), { session with workspace := after }) := by
  induction h with
  | nil => rfl
  | cons hwrite _ ih =>
    rw [writeEach_cons]
    dsimp only
    rw [hwrite]
    exact ih

theorem run_writeFiles {directory : String} {files : List (String × String)} {before after : Workspace}
    (hmade : session.workspace.makeDirectories directory = some before) (h : Writes directory before files after) :
    (writeFiles directory files : CommandM (StateM Session) Unit).run session =
      (.ok (), { session with
        workspace := after
        diagnostics := session.diagnostics ++ generatedText directory files.length }) := by
  have hhost : (Host.makeDirectories directory : CommandM (StateM Session) Bool) =
      ExceptT.lift (Session.attempt (·.makeDirectories directory)) := rfl
  rw [writeFiles, run_bind, hhost, run_attempt, hmade]
  dsimp only
  rw [if_pos rfl, run_bind, run_writeEach h session]
  rfl

theorem run_deliver_write {made : ScaffoldReport} {directory : String} {before after : Workspace}
    (hmade : session.workspace.makeDirectories directory = some before)
    (h : Writes directory before made.model.files.entries after) :
    (deliver (some directory) made : CommandM (StateM Session) Unit).run session =
      (ending made, { session with
        workspace := after
        diagnostics := session.diagnostics ++ generatedText directory made.model.files.entries.length ++
          failuresText made.failures }) := by
  rw [deliver, run_bind, run_writeFiles hmade h]
  exact run_tellFailures made _

/-! ## Exit codes -/

/-- The exit code of a run. -/
def exitCode : Except CommandFault Unit → Nat
  | .ok () => 0
  | .error _ => 1

/-- What is told at the end of a run. -/
def endingText : Except CommandFault Unit → String
  | .ok () => ""
  | .error fault => "Error: " ++ fault.message ++ "\n"

theorem exitCode_ending (made : ScaffoldReport) : exitCode (ending made) = if made.failures = [] then 0 else 1 := by
  unfold ending
  split <;> rfl

/-- What the arguments say is carried out, and then its fault is told. -/
theorem runIn_of_parse {arguments : List String} {line : CommandLine} (h : CommandLine.parse arguments = .ok line)
    (workspace : Workspace) (log : String) {result : Except CommandFault Unit} {after : Session}
    (hrun : (line.run log : CommandM (StateM Session) Unit).run { workspace := workspace } = (result, after)) :
    runIn workspace log arguments =
      (exitCode result, { after with diagnostics := after.diagnostics ++ endingText result }) := by
  change (runArguments log arguments : StateM Session Nat) { workspace := workspace } = _
  unfold runArguments
  rw [h]
  dsimp only
  rw [state_bind, hrun]
  cases result with
  | ok _ =>
    have hnone : after.diagnostics ++ endingText (.ok ()) = after.diagnostics := String.append_empty
    rw [hnone]
    rfl
  | error fault => rfl

end EntityScaffold.Command
