import EntityScaffold.Template.Inspect
import EntityScaffold.Template.Layout
import EntityScaffold.Template.Scanner

/-! # From source texts to templates

The tags of a source open and close blocks. A source whose tags do not nest is malformed wherever the
fault is; otherwise the first tag that closes another block than the open one, or that holds a literal
without value, is the error. A chain of alternatives is a block within the alternative of the block
before it; the inner block has no place of its own.
-/

namespace EntityScaffold.Template

/-! ## Nesting -/

/-- What is open. -/
inductive OpenKind where
  /-- A block that may still get an alternative. -/
  | helper
  /-- A block in its last alternative. -/
  | helperLast
  | raw
  | decorator
  | inclusion
deriving DecidableEq, Repr

/-- Whether the tags open and close in order, given what is open. -/
def nests : List OpenKind → List Tag → Bool
  | stack, [] => stack.isEmpty
  | stack, tag :: rest =>
    match tag, stack with
    | .openBlock .., stack => nests (.helper :: stack) rest
    | .openRaw .., stack => nests (.raw :: stack) rest
    | .openDecorator _, stack => nests (.decorator :: stack) rest
    | .openInclusion _, stack => nests (.inclusion :: stack) rest
    | .orElse, .helper :: stack => nests (.helperLast :: stack) rest
    | .orElse, _ => false
    | .orElseBlock .., .helper :: stack => nests (.helper :: stack) rest
    | .orElseBlock .., _ => false
    | .closeRaw _, .raw :: stack => nests stack rest
    | .closeRaw _, _ => false
    | .close _ (some _), .inclusion :: stack => nests stack rest
    | .close (some _) _, .helper :: stack | .close (some _) _, .helperLast :: stack
    | .close (some _) _, .decorator :: stack => nests stack rest
    | .close .., _ => false
    | .comment, stack | .expression _, stack | .decorator _, stack | .inclusion _, stack =>
      nests stack rest

/-! ## Assembly -/

/-- Elements in reverse order, those of tags with their place. -/
abbrev Pending := List (Option Position × Element)

/-- The elements in order. -/
def Pending.body (pending : Pending) : Body := .ofList pending.reverse

/-- Add a text unless it is empty. -/
def Pending.text (pending : Pending) (text : String) : Pending :=
  if text.isEmpty then pending else (none, .text text) :: pending

/-- What a closing tag will complete. -/
inductive Opening where
  /-- A block: its sections in reverse order, each with its call, and the call of the open section. The
  last alternative has none. -/
  | block (name : String) (finished : List (Call × Binders × Body)) (current : Option (Call × Binders))
  | decorator (call : Call)
  | inclusion (call : Call) (indent : Option String)

/-- An open block, its place and the elements before it. -/
structure Frame where
  opening : Opening
  position : Position
  outer : Pending

/-- The block of a chain of sections in reverse order; `inverse` is the alternative of the last. -/
def chainBlock (inverse : Branch) : List (Call × Binders × Body) → Option Element
  | [] => none
  | [(call, binders, body)] => some (.block call binders body inverse)
  | (call, binders, body) :: before =>
    chainBlock (.present (.cons none (.block call binders body inverse) .nil)) before

/-- The block whose open section has the given elements. -/
def Opening.close (pending : Pending) : Opening → Option Element
  | .block _ finished (some (call, binders)) =>
    chainBlock .absent ((call, binders, pending.body) :: finished)
  | .block _ finished none => chainBlock (.present pending.body) finished
  | .decorator call => some (.decorator call (.present pending.body))
  | .inclusion call indent => some (.inclusion call indent (.present pending.body))

/-- What a closing tag must close: the kind of the block, its name if it has one, and what is told. -/
def Opening.name : Opening → BlockKind × Option String × String
  | .block name _ _ => (.helper, some name, name)
  | .decorator call => (.decorator, call.callee.writtenName?, call.callee.title)
  | .inclusion call _ => (.decorator, call.callee.writtenName?, call.callee.title)

/-- Close the innermost block by a name. -/
def closeFrame (name : String) (pending : Pending) :
    List Frame → Except SourceError (Pending × List Frame)
  | [] => .error .malformed
  | frame :: frames =>
    let (kind, opened, title) := frame.opening.name
    if opened = some name then
      match frame.opening.close pending with
      | some element => .ok ((some frame.position, element) :: frame.outer, frames)
      | none => .error .malformed
    else .error (.mismatch kind title name)

/-- The word that a block tag calls. -/
def Call.word (call : Call) : String := call.callee.writtenName?.getD ""

/-- Put the elements of the segments together. -/
def assemble (final : String) (pending : Pending) (frames : List Frame) :
    List Laid → Except SourceError Body
  | [] => if frames.isEmpty then .ok (pending.text final).body else .error .malformed
  | laid :: rest =>
    let pending := pending.text laid.text
    let position := laid.segment.position
    match laid.segment.invalid with
    | some literal => .error (.invalidLiteral literal)
    | none =>
      let add (element : Element) := assemble final ((some position, element) :: pending) frames rest
      let enter (opening : Opening) := assemble final [] (⟨opening, position, pending⟩ :: frames) rest
      let leave (name : String) :=
        match closeFrame name pending frames with
        | .ok (pending, frames) => assemble final pending frames rest
        | .error e => .error e
      match laid.segment.tag, frames with
      | .comment, frames => assemble final pending frames rest
      | .expression call, _ => add (.expression call)
      | .decorator call, _ => add (.decorator call .absent)
      | .inclusion call, _ => add (.inclusion call laid.indent .absent)
      | .openBlock call binders, _ | .openRaw call binders, _ =>
        enter (.block call.word [] (some (call, binders)))
      | .openDecorator call, _ => enter (.decorator call)
      | .openInclusion call, _ => enter (.inclusion call none)
      | .closeRaw name, _ => leave name
      | .close word template, _ => leave (word.getD (template.getD ""))
      | .orElse, ⟨.block name finished (some (call, binders)), p, outer⟩ :: frames =>
        assemble final []
          (⟨.block name ((call, binders, pending.body) :: finished) none, p, outer⟩ :: frames) rest
      | .orElseBlock next names, ⟨.block name finished (some (call, binders)), p, outer⟩ :: frames =>
        assemble final []
          (⟨.block name ((call, binders, pending.body) :: finished) (some (next, names)), p, outer⟩
            :: frames) rest
      | .orElse, _ | .orElseBlock .., _ => .error .malformed

/-- The elements of a source text. -/
def parse (source : String) : Except SourceError Body :=
  match scan source with
  | none => .error .malformed
  | some scan =>
    if nests [] (scan.segments.map (·.tag)) then
      let (laid, final) := scan.lay
      assemble final [] [] laid
    else .error .malformed

/-! ## Messages -/

/-- The word for a kind of block. -/
def BlockKind.word : BlockKind → String
  | .helper => "helper"
  | .decorator => "decorator"

/-- What is told about a text that is no template. -/
def SourceError.message : SourceError → String
  | .malformed => "Template error: invalid handlebars syntax"
  | .mismatch kind opened closed =>
    "Template error: " ++ kind.word ++ " " ++ Text.quoted opened ++ " was opened, but " ++
      Text.quoted closed ++ " is closing"
  | .invalidLiteral written => "invalid parameter " ++ Text.quoted written

end EntityScaffold.Template
