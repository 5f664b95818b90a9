import EntityScaffold.Template.Basic
import EntityScaffold.Json.Printer

/-! # Calls in diagnostics

A block whose name is computed by a call has no name that could be told. Diagnostics show the structure
of the call instead.
-/

namespace EntityScaffold.Template

/-! ## Paths -/

/-- The steps of a path as diagnostics show them: where it starts, steps outwards, and names. -/
def Path.inspectSteps (path : Path) : List String :=
  (if path.fromRoot then ["Ruled(path_root)"] else []) ++
    (if path.isLocal then ["Ruled(path_local)"] else []) ++
    List.replicate path.ups "Ruled(path_up)" ++
    path.keys.map fun key => "Named(" ++ Text.quoted key ++ ")"

/-- A path as diagnostics show it. -/
def Path.inspect (path : Path) : String :=
  match path.isLocal && !path.fromRoot, path.keys with
  | true, name :: _ =>
    "Local((" ++ toString path.ups ++ ", " ++ Text.quoted name ++ ", " ++ Text.quoted path.written ++ "))"
  | _, _ =>
    "Relative((" ++ Text.listText path.inspectSteps ++ ", " ++ Text.quoted path.written ++ "))"

/-! ## Operands and calls -/

/-- A call with given texts for its parts. -/
def callText (name : String) (arguments : List String) (named : List (String × String)) : String :=
  let call := Text.recordText "HelperTemplate"
    [("name", name), ("params", Text.listText arguments), ("hash", Text.dictionaryText named),
      ("block_param", "None"), ("template", "None"), ("inverse", "None"), ("block", "false"),
      ("chain", "false")]
  "Subexpression(" ++ Text.recordText "Subexpression" [("element", "Expression(" ++ call ++ ")")] ++ ")"

mutual

/-- An operand as diagnostics show it. -/
def Operand.inspect : Operand → String
  | .literal value => "Literal(" ++ value.inspect ++ ")"
  | .path path => "Path(" ++ path.inspect ++ ")"
  | .call call => call.inspect

/-- A call as diagnostics show it. -/
def Call.inspect : Call → String
  | .mk callee arguments named =>
    callText callee.inspect (inspectArguments arguments) (inspectNamed named)

/-- What is called, as diagnostics show it. -/
def Callee.inspect : Callee → String
  | .word name => "Name(" ++ Text.quoted name ++ ")"
  | .path path => "Path(" ++ path.inspect ++ ")"
  | .computed call => call.inspect

/-- Positional arguments as diagnostics show them. -/
def inspectArguments : List Operand → List String
  | [] => []
  | operand :: rest => operand.inspect :: inspectArguments rest

/-- Named arguments as diagnostics show them. -/
def inspectNamed : List (String × Operand) → List (String × String)
  | [] => []
  | (name, operand) :: rest => (name, operand.inspect) :: inspectNamed rest

end

/-- The name of a callee, or its structure if the name is computed. -/
def Callee.title (callee : Callee) : String := callee.writtenName?.getD callee.inspect

end EntityScaffold.Template
