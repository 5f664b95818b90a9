import EntityScaffold.Template.Basic

/-! # Tags

A source text is text with tags in between: `text tag text tag … text`. The text before a tag is kept
as it is written, which decides about white space, and as it shows, with escapes resolved.
-/

namespace EntityScaffold.Template

/-- What stands in a tag. -/
inductive Tag where
  | comment
  | expression (call : Call)
  | openBlock (call : Call) (binders : Binders)
  | orElse
  | orElseBlock (call : Call) (binders : Binders)
  | openRaw (call : Call) (binders : Binders)
  | closeRaw (name : String)
  | decorator (call : Call)
  | openDecorator (call : Call)
  | inclusion (call : Call)
  | openInclusion (call : Call)
  /-- A closing tag: its name if it is a word, and its name if it can name a template. -/
  | close (word template : Option String)

/-- Text between tags. -/
structure Gap where
  written : List Char
  shown : List Char
deriving DecidableEq, Repr

/-- A tag with the text before it. -/
structure Segment where
  before : Gap
  tag : Tag
  /-- A tilde at the start of the tag. -/
  trimBefore : Bool
  /-- A tilde at the end of the tag. -/
  trimAfter : Bool
  position : Position
  /-- The first literal in the tag that is no JSON value. -/
  invalid : Option String

/-- A source text cut into segments and the text after the last tag. -/
structure Scan where
  segments : List Segment
  last : Gap

end EntityScaffold.Template
