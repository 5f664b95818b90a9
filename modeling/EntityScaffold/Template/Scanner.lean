import EntityScaffold.Template.Tag
import EntityScaffold.Template.Notation

/-! # Cutting a source into text and tags

Text runs up to the next `\x7b\x7b`. A backslash in front of these braces makes them text, and of several
backslashes in front of them one is dropped. The section of a raw block runs up to four braces and is
text throughout.
-/

namespace EntityScaffold.Template

/-! ## Text -/

/-- Two opening braces. -/
def openBraces : List Char := ['\x7b', '\x7b']

/-- Four opening braces. -/
def rawBraces : List Char := openBraces ++ openBraces

/-- Two closing braces. -/
def closeBraces : List Char := ['\x7d', '\x7d']

/-- Put characters in front of a gap. -/
def Gap.prepend (written shown : List Char) (gap : Gap) : Gap :=
  ⟨written ++ gap.written, shown ++ gap.shown⟩

/-- Text up to the characters `stop`, and the rest that starts with them. -/
def gapUntil (stop : List Char) : Nat → List Char → Gap × List Char
  | 0, cs => (⟨[], []⟩, cs)
  | _, [] => (⟨[], []⟩, [])
  | fuel + 1, c :: cs =>
    if c = '\\' then
      if openBraces.isPrefixOf cs then
        let size := if rawBraces.isPrefixOf cs then 4 else 2
        let (gap, rest) := gapUntil stop fuel (cs.drop size)
        (gap.prepend (c :: cs.take size) (cs.take size), rest)
      else
        let slashes := cs.takeWhile (· == '\\')
        if !slashes.isEmpty && openBraces.isPrefixOf (cs.drop slashes.length) then
          let (gap, rest) := gapUntil stop fuel (cs.drop slashes.length)
          (gap.prepend (c :: slashes) slashes, rest)
        else
          let (gap, rest) := gapUntil stop fuel cs
          (gap.prepend [c] [c], rest)
    else if stop.isPrefixOf (c :: cs) then (⟨[], []⟩, c :: cs)
    else
      let (gap, rest) := gapUntil stop fuel cs
      (gap.prepend [c] [c], rest)

/-! ## Tags -/

/-- A tag with its tildes. -/
structure TrimmedTag where
  tag : Tag
  trimBefore : Bool
  trimAfter : Bool

namespace Reader

/-- Skip the text up to and including `stop`. -/
def skipPast (stop : List Char) : Reader Unit := do
  let cs ← rest
  go cs (cs.length + 1)
where
  /-- Look for `stop` from a place on. -/
  go (cs : List Char) : Nat → Reader Unit
    | 0 => reject
    | fuel + 1 =>
      if stop.isPrefixOf cs then goto (cs.drop stop.length)
      else match cs with
        | [] => reject
        | _ :: cs => go cs fuel

/-- A comment, closed by `--` and braces if it starts with `--`, or else by braces. -/
def comment : Reader TrimmedTag := do
  exact (openBraces ++ ['!'])
  either (do blanks; exact ['-', '-']; skipPast ('-' :: '-' :: closeBraces)) (skipPast closeBraces)
  return ⟨.comment, false, false⟩

/-- A tilde with blanks around it. -/
def tilde : Reader Bool := do
  blanks
  let found ← flag ['~']
  blanks
  return found

/-- A tag between braces, with a tilde at either end. -/
def between (opening closing : List Char) (inside : Reader Tag) : Reader TrimmedTag := do
  exact opening
  let trimBefore ← tilde
  let tag ← inside
  let trimAfter ← tilde
  exact closing
  return ⟨tag, trimBefore, trimAfter⟩

/-- `else` or `^`, alone or followed by a block call. -/
def alternative : Reader TrimmedTag :=
  let keyword := either (exact ['e', 'l', 's', 'e']) (exact ['^'])
  either
    (between openBraces closeBraces do
      keyword
      return .orElse)
    (between openBraces closeBraces do
      keyword
      blanks
      let call ← blockCall
      blanks
      return .orElseBlock call (← binders))

/-- A tag that prints, in one of its four spellings. -/
def printing : Reader TrimmedTag :=
  let inside : Reader Tag := do return .expression (← expressionCall)
  either (between openBraces closeBraces inside) <|
  either (between ('\x7b' :: openBraces) ('\x7d' :: closeBraces) inside) <|
  either
    (between openBraces closeBraces do
      exact ['\x7b']
      blanks
      let tag ← inside
      blanks
      exact ['\x7d']
      return tag)
    (between openBraces closeBraces do
      exact ['&']
      blanks
      return .expression (← nameCall))

/-- A mark, and then what it stands in front of. -/
def marked (mark : List Char) (inside : Reader Tag) : Reader TrimmedTag :=
  between openBraces closeBraces do
    marks mark
    inside
where
  /-- The characters of the mark with blanks after each. -/
  marks : List Char → Reader Unit
    | [] => return ()
    | c :: mark => do
      exact [c]
      blanks
      marks mark

/-- A closing tag: a word, or the name of a template. -/
def closing : Reader TrimmedTag :=
  either
    (marked ['/'] do
      let name ← identifier
      return .close (some name) (if name.toList.contains '$' then none else some name))
    (marked ['/'] do return .close none (some (← templateName)))

/-- Any tag that does not open a raw block. -/
def tag : Reader TrimmedTag :=
  either alternative <| either printing <|
  either (marked ['#'] do
    let call ← blockCall
    blanks
    return .openBlock call (← binders)) <|
  either comment <|
  either (marked ['*'] do return .decorator (← decoratorCall)) <|
  either (marked ['#', '*'] do return .openDecorator (← decoratorCall)) <|
  either (marked ['>'] do return .inclusion (← inclusionCall)) <|
  either (marked ['#', '>'] do return .openInclusion (← inclusionCall)) closing
where
  /-- What a decorator holds; names that it binds have no use. -/
  decoratorCall : Reader Call := do
    let call ← blockCall
    blanks
    let _ ← binders
    return call

/-- The opening tag of a raw block. -/
def rawOpening : Reader TrimmedTag :=
  let closing := closeBraces ++ closeBraces
  between rawBraces closing do
    let call ← blockCall
    blanks
    return .openRaw call (← binders)

/-- The closing tag of a raw block. -/
def rawClosing : Reader TrimmedTag :=
  between rawBraces (closeBraces ++ closeBraces) do
    exact ['/']
    blanks
    return .closeRaw (← identifier)

end Reader

/-! ## Sources -/

/-- A tag at the start of a text, as a segment with the text before it, and the rest. -/
def segment? (before : Gap) (position : Position) (reader : Reader TrimmedTag) (cs : List Char) :
    Option (Segment × List Char) :=
  match reader ⟨cs, []⟩ with
  | some (t, cursor) =>
    some (⟨before, t.tag, t.trimBefore, t.trimAfter, position, cursor.invalid.head?⟩, cursor.rest)
  | none => none

/-- The place after the part of `cs` in front of `rest`. -/
def Position.past (p : Position) (cs rest : List Char) : Position :=
  p.advance (cs.take (cs.length - rest.length))

/-- Cut a text into segments; `none` when a tag is misspelled. -/
def scanFrom : Nat → Position → List Char → Option Scan
  | 0, _, _ => none
  | fuel + 1, p, cs =>
    let (gap, tagged) := gapUntil openBraces (cs.length + 1) cs
    if tagged.isEmpty then some ⟨[], gap⟩
    else
      let p := p.advance gap.written
      match segment? gap p Reader.tag tagged with
      | some (segment, rest) => do
        let scan ← scanFrom fuel (p.past tagged rest) rest
        return { scan with segments := segment :: scan.segments }
      | none => do
        let (opening, body) ← segment? gap p Reader.rawOpening tagged
        let p := p.past tagged body
        let (text, closing) := gapUntil rawBraces (body.length + 1) body
        let p := p.advance text.written
        let (closingTag, rest) ←
          segment? ⟨text.written, Json.skipSeparators text.shown⟩ p Reader.rawClosing closing
        let scan ← scanFrom fuel (p.past closing rest) rest
        return { scan with segments := opening :: closingTag :: scan.segments }

/-- Cut a source into segments; `none` when a tag is misspelled. -/
def scan (source : String) : Option Scan :=
  scanFrom (source.length + 1) .start source.toList

end EntityScaffold.Template
