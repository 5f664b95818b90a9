import EntityScaffold.Json.Document
import EntityScaffold.Json.NumberNotation
import EntityScaffold.Text.Blank

/-! # Reading JSON documents

The reader turns any text into a document. What it hands on is the part read and the rest of the
text, or no rest when the part is broken.
-/

namespace EntityScaffold.Json

/-- Blanks between the parts of a JSON text. -/
def isSeparator (c : Char) : Bool := c == ' ' || c == '\n' || c == '\t' || c == '\r'

/-- Drop the blanks at the start. -/
def skipSeparators (cs : List Char) : List Char := cs.dropWhile isSeparator

/-! ## Strings -/

/-- A part of a string: a character, or a unit of sixteen bits written as an escape. -/
inductive StringPart where
  | char (c : Char)
  | unit (n : Nat)
deriving DecidableEq, Repr

/-- How a string goes on to its end: the rest after the closing quote, or a fault. -/
abbrev StringEnd := Except Fault (List Char)

/-- The value of a hexadecimal digit in any letter case. -/
def hexValue? (c : Char) : Option Nat :=
  if c.isDigit then some (c.toNat - 48)
  else if 'a' ≤ c ∧ c ≤ 'f' then some (c.toNat - 87)
  else if 'A' ≤ c ∧ c ≤ 'F' then some (c.toNat - 55)
  else none

/-- The number of four hexadecimal digits. Fewer than four bytes up to the end of the text are an
unfinished text, whatever they are. -/
def hexUnit (cs : List Char) : Except Fault (Nat × List Char) :=
  if (cs.take 4).foldl (fun n c => n + c.utf8Size) 0 < 4 then .error .unfinished
  else match cs with
    | a :: b :: c :: d :: rest =>
      match hexValue? a, hexValue? b, hexValue? c, hexValue? d with
      | some a, some b, some c, some d => .ok (((a * 16 + b) * 16 + c) * 16 + d, rest)
      | _, _, _, _ => .error .malformed
    | _ => .error .malformed

/-- The character that a one letter escape stands for. -/
def shortEscape? (c : Char) : Option Char :=
  if c = '"' ∨ c = '\\' ∨ c = '/' then some c
  else if c = 'b' then some '\x08'
  else if c = 'f' then some '\x0c'
  else if c = 'n' then some '\n'
  else if c = 'r' then some '\r'
  else if c = 't' then some '\t'
  else none

/-- The parts of a string after its opening quote, and how it ends. -/
def stringParts : Nat → List Char → List StringPart × StringEnd
  | 0, _ | _, [] => ([], .error .unfinished)
  | _, '"' :: rest => ([], .ok rest)
  | _, ['\\'] => ([], .error .unfinished)
  | fuel + 1, '\\' :: 'u' :: rest =>
    match hexUnit rest with
    | .ok (n, rest) => let (parts, after) := stringParts fuel rest; (.unit n :: parts, after)
    | .error fault => ([], .error fault)
  | fuel + 1, '\\' :: c :: rest =>
    match shortEscape? c with
    | some c => let (parts, after) := stringParts fuel rest; (.char c :: parts, after)
    | none => ([], .error .malformed)
  | fuel + 1, c :: rest =>
    if c.toNat < 32 then ([], .error .malformed)
    else let (parts, after) := stringParts fuel rest; (.char c :: parts, after)

/-- A first unit of a pair. -/
def isHighUnit (n : Nat) : Bool := 0xD800 ≤ n && n ≤ 0xDBFF

/-- A second unit of a pair. -/
def isLowUnit (n : Nat) : Bool := 0xDC00 ≤ n && n ≤ 0xDFFF

/-- The character of a pair of units. -/
def pairChar (high low : Nat) : Char := Char.ofNat ((high - 0xD800) * 1024 + (low - 0xDC00) + 0x10000)

/-- The text that the parts denote. A unit that needs a partner and has none is malformed, or the
fault at the end when the text breaks off there. -/
def joinParts (after : StringEnd) : List StringPart → Except Fault (List Char)
  | [] => match after with
    | .ok _ => .ok []
    | .error fault => .error fault
  | .char c :: rest => (joinParts after rest).map (c :: ·)
  | [.unit n] =>
    if isLowUnit n then .error .malformed
    else if isHighUnit n then match after with
      | .ok _ => .error .malformed
      | .error fault => .error fault
    else match after with
      | .ok _ => .ok [Char.ofNat n]
      | .error fault => .error fault
  | .unit n :: .unit m :: rest =>
    if isLowUnit n then .error .malformed
    else if isHighUnit n then
      if isLowUnit m then (joinParts after rest).map (pairChar n m :: ·) else .error .malformed
    else (joinParts after (.unit m :: rest)).map (Char.ofNat n :: ·)
  | .unit n :: .char c :: rest =>
    if isLowUnit n || isHighUnit n then .error .malformed
    else (joinParts after (.char c :: rest)).map (Char.ofNat n :: ·)

/-- A string after its opening quote: its value, and how it ends when it is skipped. -/
def stringAfterQuote (cs : List Char) : Except Fault String × StringEnd :=
  let (parts, after) := stringParts (cs.length + 1) cs
  ((joinParts after parts).map String.ofList, after)

/-! ## Numbers and words -/

/-- A part of a document and the rest of the text, if the part is not broken. -/
abbrev Part := Document × Option (List Char)

/-- A broken part. -/
def brokenPart (read skipped : Fault) : Part := (.broken read skipped, none)

/-- Some digit must follow: a text that ends is unfinished, and skipping finds it malformed. -/
def missingDigit (rest : List Char) : Part :=
  brokenPart (if rest.isEmpty then .unfinished else .malformed) .malformed

/-- A number after its digits in front of the exponent. -/
def numberExponent (negative : Bool) (whole : List Char) (fraction : Option (List Char))
    (rest : List Char) : Part :=
  match rest with
  | 'e' :: rest | 'E' :: rest =>
    let (below, rest) := match rest with
      | '+' :: r => (false, r)
      | '-' :: r => (true, r)
      | r => (false, r)
    let digits := rest.takeWhile Char.isDigit
    if digits.isEmpty then missingDigit rest
    else (.number (NumberNotation.value? ⟨negative, whole, fraction, some (below, digits)⟩),
      some (rest.dropWhile Char.isDigit))
  | rest => (.number (NumberNotation.value? ⟨negative, whole, fraction, none⟩), some rest)

/-- A number after its digits in front of the point. -/
def numberFraction (negative : Bool) (whole rest : List Char) : Part :=
  match rest with
  | '.' :: rest =>
    let digits := rest.takeWhile Char.isDigit
    if digits.isEmpty then missingDigit rest
    else numberExponent negative whole (some digits) (rest.dropWhile Char.isDigit)
  | rest => numberExponent negative whole none rest

/-- A number after its sign. No digit follows a leading zero. -/
def numberAfterSign (negative : Bool) (cs : List Char) : Part :=
  match cs with
  | '0' :: rest =>
    if (rest.takeWhile Char.isDigit).isEmpty then numberFraction negative ['0'] rest
    else brokenPart .malformed .malformed
  | cs =>
    let digits := cs.takeWhile Char.isDigit
    if digits.isEmpty then missingDigit cs
    else numberFraction negative digits (cs.dropWhile Char.isDigit)

/-- The letters of a word that must follow. -/
def word (letters : List Char) (document : Document) : List Char → Part
  | cs => match letters, cs with
    | [], cs => (document, some cs)
    | _ :: _, [] => brokenPart .unfinished .unfinished
    | l :: letters, c :: cs =>
      if l = c then word letters document cs else brokenPart .malformed .malformed

/-! ## Documents -/

/-- The place after a field name. -/
def afterColon (cs : List Char) : Except Fault (List Char) :=
  match skipSeparators cs with
  | ':' :: rest => .ok rest
  | [] => .error .unfinished
  | _ => .error .malformed

mutual

/-- A value at the start of a text, blanks skipped. -/
def documentPart : Nat → List Char → Part
  | 0, _ => brokenPart .unfinished .unfinished
  | fuel + 1, cs =>
    match skipSeparators cs with
    | [] => brokenPart .unfinished .unfinished
    | '[' :: rest => let (items, after) := itemParts fuel true rest; (.array items, after)
    | '{' :: rest => let (fields, after) := fieldParts fuel true rest; (.object fields, after)
    | '"' :: rest => match stringAfterQuote rest with
      | (value, .ok rest) => (.string value, some rest)
      | (.error read, .error skipped) => brokenPart read skipped
      | (.ok _, .error skipped) => brokenPart skipped skipped
    | 'n' :: rest => word ['u', 'l', 'l'] .null rest
    | 't' :: rest => word ['r', 'u', 'e'] (.bool true) rest
    | 'f' :: rest => word ['a', 'l', 's', 'e'] (.bool false) rest
    | '-' :: rest => numberAfterSign true rest
    | c :: rest =>
      if c.isDigit then numberAfterSign false (c :: rest) else brokenPart .malformed .malformed

/-- The items of an array up to its closing bracket. -/
def itemParts : Nat → Bool → List Char → List Document × Option (List Char)
  | 0, _, _ => ([.broken .unfinished .unfinished], none)
  | fuel + 1, first, cs =>
    match skipSeparators cs, first with
    | [], _ => ([.broken .unclosed .unclosed], none)
    | ']' :: rest, _ => ([], some rest)
    | cs, true => itemPart fuel cs
    | ',' :: rest, false => match skipSeparators rest with
      | [] => ([.broken .unfinished .unfinished], none)
      | ']' :: _ => ([.broken .malformed .malformed], none)
      | rest => itemPart fuel rest
    | _, false => ([.broken .malformed .malformed], none)

/-- One item and those after it. -/
def itemPart : Nat → List Char → List Document × Option (List Char)
  | 0, _ => ([.broken .unfinished .unfinished], none)
  | fuel + 1, cs => match documentPart fuel cs with
    | (item, some rest) => let (items, after) := itemParts fuel false rest; (item :: items, after)
    | (item, none) => ([item], none)

/-- The fields of an object up to its closing brace. -/
def fieldParts : Nat → Bool → List Char →
    List (Except Fault String × Document) × Option (List Char)
  | 0, _, _ => ([(.error .unfinished, .broken .unfinished .unfinished)], none)
  | fuel + 1, first, cs =>
    match skipSeparators cs, first with
    | [], _ => ([(.error .unfinished, .broken .unfinished .unfinished)], none)
    | '}' :: rest, _ => ([], some rest)
    | cs, true => fieldPart fuel cs
    | ',' :: rest, false => fieldPart fuel (skipSeparators rest)
    | _, false => ([(.error .malformed, .broken .malformed .malformed)], none)

/-- One field and those after it. -/
def fieldPart : Nat → List Char →
    List (Except Fault String × Document) × Option (List Char)
  | 0, _ | _, [] => ([(.error .unfinished, .broken .unfinished .unfinished)], none)
  | fuel + 1, '"' :: rest => match stringAfterQuote rest with
    | (name, .ok rest) => match afterColon rest with
      | .error fault => ([(name, .broken fault fault)], none)
      | .ok rest => match documentPart fuel rest with
        | (value, some rest) =>
          let (fields, after) := fieldParts fuel false rest
          ((name, value) :: fields, after)
        | (value, none) => ([(name, value)], none)
    | (.error read, .error skipped) => ([(.error read, .broken skipped skipped)], none)
    | (.ok _, .error skipped) => ([(.error skipped, .broken skipped skipped)], none)
  | _, _ => ([(.error .malformed, .broken .malformed .malformed)], none)

end

/-- The document of a text. Every call reads a character or is followed by one that does, so that
three calls for a character suffice. -/
def documentOf (cs : List Char) : JsonText :=
  match documentPart (3 * cs.length + 3) cs with
  | (document, some rest) => ⟨document, !(skipSeparators rest).isEmpty⟩
  | (document, none) => ⟨document, false⟩

/-- The value that a text denotes. -/
def parse (s : String) : Except Fault Json := (documentOf s.toList).toJson

end EntityScaffold.Json
