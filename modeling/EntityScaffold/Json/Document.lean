import EntityScaffold.Json.Basic

/-! # JSON documents

A document is the structure of a JSON text as it is written: fields in their order with repeated
names, numbers and strings that have no value, and at the place where the text stops being JSON, a
broken part after which nothing follows. Reading a document proceeds in the order of the text, so the
first fault on the way is the one reported. A part that is skipped is held to the notation only, not
to having a value.
-/

namespace EntityScaffold

/-- Why a text is no JSON at some place. -/
inductive Fault where
  /-- The text ends too early. -/
  | unfinished
  /-- The text ends where an array goes on or is closed. -/
  | unclosed
  /-- The text goes on with something that cannot stand there, or denotes no value. -/
  | malformed
deriving DecidableEq, Repr

/-- A JSON text as it is written. -/
inductive Document where
  | null
  | bool (value : Bool)
  | number (value : Option Number)
  | string (value : Except Fault String)
  | array (items : List Document)
  | object (fields : List (Except Fault String × Document))
  | broken (read skipped : Fault)

namespace Document

instance : Inhabited Document := ⟨.null⟩

/-! ## Skipping -/

mutual

/-- The first fault of the notation. -/
def skip : Document → Except Fault Unit
  | .array items => skipItems items
  | .object fields => skipFields fields
  | .broken _ fault => .error fault
  | _ => .ok ()

/-- The first fault among the items. -/
def skipItems : List Document → Except Fault Unit
  | [] => .ok ()
  | item :: rest => match skip item with
    | .ok () => skipItems rest
    | .error fault => .error fault

/-- The first fault among the fields. -/
def skipFields : List (Except Fault String × Document) → Except Fault Unit
  | [] => .ok ()
  | (_, value) :: rest => match skip value with
    | .ok () => skipFields rest
    | .error fault => .error fault

end

/-! ## Values -/

mutual

/-- The value of a document whose arrays and objects are nested less than `depth` deep. -/
def toJson (depth : Nat) : Document → Except Fault Json
  | .null => .ok .null
  | .bool b => .ok (.bool b)
  | .number (some n) => .ok (.number n)
  | .number none => .error .malformed
  | .string (.ok s) => .ok (.string s)
  | .string (.error fault) => .error fault
  | .array items => do
    if depth ≤ 1 then throw .malformed
    return .array (← itemsToJson (depth - 1) items)
  | .object fields => do
    if depth ≤ 1 then throw .malformed
    return .ofFields (← fieldsToJson (depth - 1) fields)
  | .broken fault _ => .error fault

/-- The values of the items. -/
def itemsToJson (depth : Nat) : List Document → Except Fault (List Json)
  | [] => .ok []
  | item :: rest => do
    let value ← toJson depth item
    return value :: (← itemsToJson depth rest)

/-- The values of the fields. -/
def fieldsToJson (depth : Nat) :
    List (Except Fault String × Document) → Except Fault (List (String × Json))
  | [] => .ok []
  | (name, item) :: rest => do
    let name ← name
    let value ← toJson depth item
    return (name, value) :: (← fieldsToJson depth rest)

end

/-- Arrays and objects may be nested less than this deep. -/
def depthLimit : Nat := 128

end Document

/-- A document, and whether something other than blanks follows it. -/
structure JsonText where
  document : Document
  trailing : Bool

namespace JsonText

/-- The end of the text: nothing may follow the document. -/
def finish (text : JsonText) : Except Fault Unit :=
  if text.trailing then .error .malformed else .ok ()

/-- The value that a whole text denotes. -/
def toJson (text : JsonText) : Except Fault Json := do
  let value ← text.document.toJson Document.depthLimit
  text.finish
  return value

end JsonText

end EntityScaffold
