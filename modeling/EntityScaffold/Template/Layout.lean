import EntityScaffold.Template.Tag
import EntityScaffold.Text.Blank

/-! # White space around tags

A tag that stands alone on its line, with only blanks beside it, is standalone: the blanks before it
and the rest of its line with the line break are dropped. Tags that print are never standalone, and an
inclusion keeps the blanks before it, which indent the included lines. A tilde drops all white space
on its side of the tag.
-/

namespace EntityScaffold.Template

/-! ## Lines -/

/-- Blanks within a line. -/
def isLineBlank (c : Char) : Bool := c == ' ' || c == '\t'

/-- Ends of lines. -/
def isLineBreak (c : Char) : Bool := c == '\n' || c == '\r'

/-- Nothing but blanks up to a line break. -/
def startsWithBlankLine (cs : List Char) : Bool :=
  match cs.dropWhile isLineBlank with
  | c :: _ => isLineBreak c
  | [] => false

/-- Nothing but blanks since the last line break, or since the start of the source. -/
def endsWithBlankLine (atStart : Bool) (cs : List Char) : Bool :=
  match (Text.dropEndWhile isLineBlank cs).getLast? with
  | some c => isLineBreak c
  | none => atStart

/-- Drop blanks and one line break. -/
def dropLine (cs : List Char) : List Char :=
  match cs.dropWhile isLineBlank with
  | '\r' :: '\n' :: rest => rest
  | '\n' :: rest => rest
  | rest => rest

/-! ## From tag to tag -/

/-- What a tag leaves behind for the text after it. -/
structure Carry where
  /-- The tag ended with a tilde. -/
  trim : Bool
  /-- The tag was standalone: the rest of its line goes. -/
  line : Bool
deriving DecidableEq, Repr

/-- The blanks and line breaks that separate tags. -/
def isSpace (c : Char) : Bool := isLineBlank c || isLineBreak c

/-- The text that stays of a gap, and what is carried past it. A gap that is dropped whole leaves a
standalone line still to be ended. -/
def keepText (carry : Carry) (gap : Gap) : List Char × Carry :=
  if carry.trim then
    if gap.written.all isSpace then ([], carry)
    else (Text.trimStart gap.shown, { carry with line := false })
  else if gap.written.isEmpty then ([], carry)
  else (if carry.line then dropLine gap.shown else gap.shown, { carry with line := false })

/-- Tags that print a value do not care for lines. -/
def Tag.prints : Tag → Bool
  | .expression _ => true
  | _ => false

/-- An inclusion keeps the blanks before it. -/
def Tag.keepsIndent : Tag → Bool
  | .inclusion _ => true
  | _ => false

/-- Comments have no tildes and leave those of the tag before in force. -/
def Tag.isComment : Tag → Bool
  | .comment => true
  | _ => false

/-- A tag with the text that stays before it. -/
structure Laid where
  text : String
  segment : Segment
  /-- The blanks before an inclusion, unless a tilde drops them. -/
  indent : Option String

/-- The text that stays before a tag, and what the tag leaves behind. -/
def laySegment (atStart : Bool) (carry : Carry) (segment : Segment) (after : Gap) : Laid × Carry :=
  let (text, carry) := keepText carry segment.before
  let text := if segment.trimBefore then Text.trimEnd text else text
  let trim := if segment.tag.isComment then carry.trim else segment.trimAfter
  let standalone := !segment.tag.prints && startsWithBlankLine after.written &&
    endsWithBlankLine atStart segment.before.written
  let text := if standalone && !segment.tag.keepsIndent then Text.dropEndWhile isLineBlank text
    else text
  let blanks := Text.takeEndWhile isLineBlank segment.before.written
  let indent := if segment.tag.keepsIndent && !segment.trimBefore && !blanks.isEmpty then
    some (String.ofList blanks) else none
  (⟨String.ofList text, segment, indent⟩,
    ⟨trim, if segment.tag.prints then carry.line else standalone⟩)

/-- The segments with the text that stays, and the text at the end. -/
def layFrom (last : Gap) (atStart : Bool) (carry : Carry) : List Segment → List Laid × String
  | [] => ([], String.ofList (keepText carry last).1)
  | segment :: rest =>
    let after := match rest with
      | next :: _ => next.before
      | [] => last
    let (laid, carry) := laySegment atStart carry segment after
    let (others, final) := layFrom last false carry rest
    (laid :: others, final)

/-- The segments of a source with the text that stays, and the text at the end. -/
def Scan.lay (scan : Scan) : List Laid × String :=
  layFrom scan.last true ⟨false, false⟩ scan.segments

end EntityScaffold.Template
