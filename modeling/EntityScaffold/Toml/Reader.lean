import EntityScaffold.Toml.Basic
import EntityScaffold.Json.Reader

/-! # Reading TOML

The notation of TOML 1.1. A text that is no TOML gives nothing.
-/

namespace EntityScaffold.Toml

open Decimal (Extended digitsNumber)

/-- Reads from the front of the text, or does not fit. -/
abbrev Reader := StateT (List Char) Option

namespace Reader

/-! ## Characters -/

/-- Nothing fits. -/
def reject {α : Type} : Reader α := fun _ => none

/-- The next characters are these. -/
def exact (expected : List Char) : Reader Unit := fun cs =>
  if expected.isPrefixOf cs then some ((), cs.drop expected.length) else none

/-- Whether the next characters are these. -/
def startsWith (expected : List Char) : Reader Bool := return expected.isPrefixOf (← get)

/-- The longest run of characters satisfying `p`. -/
def run (p : Char → Bool) : Reader (List Char) := fun cs => some (cs.takeWhile p, cs.dropWhile p)

/-- Blanks within a line. -/
def isBlank (c : Char) : Bool := c == ' ' || c == '\t'

/-- Skip blanks within the line. -/
def blanks : Reader Unit := do
  let _ ← run isBlank

/-- Characters that may stand in comments and in literal strings. -/
def isPlain (c : Char) : Bool := c == '\t' || (32 ≤ c.toNat && c.toNat != 127)

/-- Skip a comment, if there is one. -/
def comment : Reader Unit := do
  if ← startsWith ['#'] then
    let _ ← run isPlain

/-- The end of a line. -/
def lineBreak : Reader Unit := fun cs =>
  match cs with
  | '\n' :: rest => some ((), rest)
  | '\r' :: '\n' :: rest => some ((), rest)
  | _ => none

/-- Skip blanks, comments and line breaks. -/
def space : Nat → Reader Unit
  | 0 => return ()
  | fuel + 1 => do
    blanks
    comment
    match lineBreak (← get) with
    | some ((), rest) =>
      set rest
      space fuel
    | none => return ()

/-- Skip blanks, comments and line breaks as far as they go. -/
def spaces : Reader Unit := do space ((← get).length + 1)

/-! ## Strings -/

/-- A character given by its code in hexadecimal digits. -/
def codeChar (digits : List Char) : Option Char :=
  (digits.mapM Json.hexValue?).bind fun values =>
    let n := values.foldl (fun n d => 16 * n + d) 0
    if n < 0xD800 ∨ (0xDFFF < n ∧ n < 0x110000) then some (Char.ofNat n) else none

/-- The character of an escape, and the rest. -/
def escape : List Char → Option (Char × List Char)
  | 'b' :: rest => some ('\x08', rest)
  | 't' :: rest => some ('\t', rest)
  | 'n' :: rest => some ('\n', rest)
  | 'f' :: rest => some ('\x0c', rest)
  | 'r' :: rest => some ('\r', rest)
  | 'e' :: rest => some ('\x1b', rest)
  | '"' :: rest => some ('"', rest)
  | '\\' :: rest => some ('\\', rest)
  | 'x' :: rest => sized 2 rest
  | 'u' :: rest => sized 4 rest
  | 'U' :: rest => sized 8 rest
  | _ => none
where
  /-- A code of a fixed number of digits. -/
  sized (size : Nat) (rest : List Char) : Option (Char × List Char) :=
    if rest.length < size then none
    else (codeChar (rest.take size)).map fun c => (c, rest.drop size)

/-- A string on one line, after its opening quote. -/
def basicRest : Nat → List Char → Option (List Char × List Char)
  | 0, _ | _, [] => none
  | _, '"' :: rest => some ([], rest)
  | fuel + 1, '\\' :: rest => do
    let (c, rest) ← escape rest
    let (cs, rest) ← basicRest fuel rest
    return (c :: cs, rest)
  | fuel + 1, c :: rest =>
    if isPlain c then do
      let (cs, rest) ← basicRest fuel rest
      return (c :: cs, rest)
    else none

/-- A literal string on one line, after its opening quote. -/
def literalRest : List Char → Option (List Char × List Char)
  | [] => none
  | '\'' :: rest => some ([], rest)
  | c :: rest =>
    if isPlain c then do
      let (cs, rest) ← literalRest rest
      return (c :: cs, rest)
    else none

/-- The line break right after the opening of a string of several lines does not count. -/
def dropLineBreak : List Char → List Char
  | '\n' :: rest => rest
  | '\r' :: '\n' :: rest => rest
  | cs => cs

/-- The end of a string of several lines: three quotes, of up to five the first two belong to it. -/
def closing (quote : Char) (cs : List Char) : Option (List Char × List Char) :=
  let quotes := (cs.takeWhile (· == quote)).take 5
  if quotes.length < 3 then none else some (quotes.drop 3, cs.drop quotes.length)

/-- A backslash at the end of a line joins the lines: what follows it up to the next character that is no
blank and no line break is dropped. -/
def joinedLine (cs : List Char) : Option (List Char) :=
  match cs.dropWhile isBlank with
  | '\n' :: rest => some (skipBreaks rest.length rest)
  | '\r' :: '\n' :: rest => some (skipBreaks rest.length rest)
  | _ => none
where
  /-- Drop blanks and line breaks. -/
  skipBreaks : Nat → List Char → List Char
    | 0, cs => cs
    | fuel + 1, cs => match cs with
      | '\r' :: '\n' :: rest => skipBreaks fuel rest
      | c :: rest => if isBlank c || c == '\n' then skipBreaks fuel rest else c :: rest
      | [] => []

/-- A string of several lines, after its opening; escapes count in double quotes only. -/
def longRest (quote : Char) : Nat → List Char → Option (List Char × List Char)
  | 0, _ | _, [] => none
  | fuel + 1, c :: rest =>
    if c = quote then
      match closing quote (c :: rest) with
      | some result => some result
      | none => do
        let (cs, rest) ← longRest quote fuel rest
        return (c :: cs, rest)
    else if c = '\\' ∧ quote = '"' then
      match joinedLine rest with
      | some rest => longRest quote fuel rest
      | none => do
        let (c, rest) ← escape rest
        let (cs, rest) ← longRest quote fuel rest
        return (c :: cs, rest)
    else if c = '\r' then
      match rest with
      | '\n' :: rest => do
        let (cs, rest) ← longRest quote fuel rest
        return ('\r' :: '\n' :: cs, rest)
      | _ => none
    else if isPlain c || c == '\n' then do
      let (cs, rest) ← longRest quote fuel rest
      return (c :: cs, rest)
    else none

/-- A string of one line. -/
def shortString : Reader String := fun cs =>
  (match cs with
    | '"' :: rest => basicRest (rest.length + 1) rest
    | '\'' :: rest => literalRest rest
    | _ => none).map fun (text, rest) => (String.ofList text, rest)

/-- A string in any notation. -/
def string : Reader String := fun cs =>
  match cs with
  | '"' :: '"' :: '"' :: rest => long '"' rest
  | '\'' :: '\'' :: '\'' :: rest => long '\'' rest
  | cs => shortString cs
where
  /-- A string of several lines. -/
  long (quote : Char) (rest : List Char) : Option (String × List Char) :=
    let rest := dropLineBreak rest
    (longRest quote (rest.length + 1) rest).map fun (text, rest) => (String.ofList text, rest)

/-! ## Numbers and times -/

/-- Digits with single underscores between them, without the underscores. -/
def digits? (isDigit : Char → Bool) : List Char → Option (List Char)
  | [] => none
  | [c] => if isDigit c then some [c] else none
  | c :: '_' :: rest => if isDigit c then (digits? isDigit rest).map (c :: ·) else none
  | c :: rest => if isDigit c then (digits? isDigit rest).map (c :: ·) else none

/-- Decimal digits without a leading zero. -/
def wholeDigits? (cs : List Char) : Option (List Char) :=
  match cs with
  | ['0'] => some ['0']
  | '0' :: _ => none
  | cs => digits? Char.isDigit cs

/-- The sign of a number, and what follows it. -/
def signed (cs : List Char) : Bool × List Char :=
  match cs with
  | '-' :: rest => (true, rest)
  | '+' :: rest => (false, rest)
  | cs => (false, cs)

/-- An integer, if 128 bits hold it with a sign or without. -/
def ofInteger (n : Int) : Value :=
  if -Nat.pow 2 127 ≤ n ∧ n < Nat.pow 2 128 then .integer n else .oversized

/-- An integer in a base given by its letter. -/
def basedInteger? (base : Nat) (isDigit : Char → Bool) (cs : List Char) : Option Value :=
  ((digits? isDigit cs).bind (·.mapM Json.hexValue?)).map fun values =>
    ofInteger (values.foldl (fun n d => base * n + d) 0 : Nat)

/-- An integer. -/
def integer? (cs : List Char) : Option Value :=
  match cs with
  | '0' :: 'x' :: rest => basedInteger? 16 (fun c => (Json.hexValue? c).isSome) rest
  | '0' :: 'o' :: rest => basedInteger? 8 (fun c => '0' ≤ c && c ≤ '7') rest
  | '0' :: 'b' :: rest => basedInteger? 2 (fun c => c == '0' || c == '1') rest
  | cs =>
    let (negative, rest) := signed cs
    (wholeDigits? rest).map fun digits =>
      let n : Int := digitsNumber digits
      ofInteger (if negative then -n else n)

/-- The exponent of a float after its `e`. -/
def exponent? (cs : List Char) : Option Int :=
  let (negative, rest) := signed cs
  (digits? Char.isDigit rest).map fun digits =>
    let n : Int := digitsNumber digits
    if negative then -n else n

/-- A number that has been rounded to a double, unless it is beyond the largest one. -/
def ofRounded : Extended → Value
  | .infinite _ => .oversized
  | value => .float value

/-- A float: digits with a fraction, an exponent or both, or a name. -/
def float? (cs : List Char) : Option Value :=
  let (negative, rest) := signed cs
  if rest = ['i', 'n', 'f'] then some (.float (.infinite negative))
  else if rest = ['n', 'a', 'n'] then some (.float .notANumber)
  else
    let isE (c : Char) : Bool := c == 'e' || c == 'E'
    let mantissa := rest.takeWhile fun c => !isE c
    let tail := rest.dropWhile fun c => !isE c
    let whole := mantissa.takeWhile (· != '.')
    let point := mantissa.dropWhile (· != '.')
    if point.isEmpty && tail.isEmpty then none
    else do
      let whole ← wholeDigits? whole
      let fraction ← if point.isEmpty then some [] else digits? Char.isDigit (point.drop 1)
      let e ← if tail.isEmpty then some 0 else exponent? (tail.drop 1)
      return ofRounded (.ofScaled negative (digitsNumber (whole ++ fraction)) (e - fraction.length))

/-- The days of a month. -/
def daysIn (year month : Nat) : Nat :=
  if month = 2 then
    if year % 4 = 0 ∧ (year % 100 ≠ 0 ∨ year % 400 = 0) then 29 else 28
  else if month = 4 ∨ month = 6 ∨ month = 9 ∨ month = 11 then 30
  else 31

/-- Two digits that are at most `most`, and the rest. -/
def twoDigits? (most : Nat) : List Char → Option (List Char)
  | a :: b :: rest =>
    if a.isDigit && b.isDigit && digitsNumber [a, b] ≤ most then some rest else none
  | _ => none

/-- A date at the start. -/
def date? : List Char → Option (List Char)
  | a :: b :: c :: d :: '-' :: e :: f :: '-' :: g :: h :: rest =>
    if [a, b, c, d, e, f, g, h].all Char.isDigit then
      let year := digitsNumber [a, b, c, d]
      let month := digitsNumber [e, f]
      let day := digitsNumber [g, h]
      if 1 ≤ month ∧ month ≤ 12 ∧ 1 ≤ day ∧ day ≤ daysIn year month then some rest else none
    else none
  | _ => none

/-- A time at the start; seconds and their fraction may be missing. -/
def time? (cs : List Char) : Option (List Char) := do
  let afterHour ← twoDigits? 23 cs
  match afterHour with
  | ':' :: rest =>
    let afterMinute ← twoDigits? 59 rest
    match afterMinute with
    | ':' :: rest =>
      let afterSecond ← twoDigits? 60 rest
      match afterSecond with
      | '.' :: rest =>
        if (rest.takeWhile Char.isDigit).isEmpty then none else some (rest.dropWhile Char.isDigit)
      | rest => some rest
    | rest => some rest
  | _ => none

/-- An offset from universal time, up to the end. -/
def isOffset : List Char → Bool
  | ['Z'] | ['z'] => true
  | sign :: rest =>
    (sign == '+' || sign == '-') && match twoDigits? 23 rest with
      | some (':' :: rest) => twoDigits? 59 rest == some []
      | _ => false
  | [] => false

/-- A date, a time, or both. -/
def moment? (cs : List Char) : Option Value :=
  match date? cs with
  | some [] => some .moment
  | some (c :: rest) =>
    if c = 'T' ∨ c = 't' ∨ c = ' ' then
      match time? rest with
      | some rest => if rest.isEmpty || isOffset rest then some .moment else none
      | none => none
    else none
  | none => if time? cs = some [] then some .moment else none

/-- Characters of numbers, times and words. -/
def isScalar (c : Char) : Bool :=
  c.isAlphanum || c == '_' || c == '+' || c == '-' || c == '.' || c == ':'

/-- A number, a time or a word. A blank between a date and a time belongs to them. -/
def scalar : Reader Value := do
  let front ← run isScalar
  let after ← get
  let token ← match date? front, after with
    | some [], ' ' :: c :: _ =>
      if c.isDigit then do
        set (after.drop 1)
        pure (front ++ ' ' :: (← run isScalar))
      else pure front
    | _, _ => pure front
  if token = "true".toList then return .bool true
  if token = "false".toList then return .bool false
  match (integer? token).or ((float? token).or (moment? token)) with
  | some value => return value
  | none => reject

/-! ## Keys -/

/-- Characters of keys without quotes. -/
def isKeyChar (c : Char) : Bool := c.isAlphanum || c == '_' || c == '-'

/-- A key without points. -/
def simpleKey : Reader String := do
  match ← get with
  | '"' :: _ | '\'' :: _ => shortString
  | _ =>
    let cs ← run isKeyChar
    if cs.isEmpty then reject else return String.ofList cs

/-- A key, at most `fuel` parts long. -/
def keyParts : Nat → Reader (List String)
  | 0 => reject
  | fuel + 1 => do
    blanks
    let part ← simpleKey
    blanks
    if ← startsWith ['.'] then
      exact ['.']
      return part :: (← keyParts fuel)
    else return [part]

/-- How deep arrays and tables between braces may stand inside of each other, and how deep a key may
lead. -/
def maxDepth : Nat := 80

/-- A key: its parts between points, with blanks around them. -/
def key : Reader (List String) := do
  let parts ← keyParts ((← get).length + 1)
  if maxDepth < parts.length then reject else return parts

/-! ## Values -/

mutual

/-- A value, with `depth` brackets allowed inside of each other. -/
def value (depth : Nat) : Nat → Reader Value
  | 0 => reject
  | fuel + 1 => do
    match ← get with
    | '"' :: _ | '\'' :: _ => return .string (← string)
    | '[' :: rest =>
      if depth = 0 then reject
      set rest
      return .array (← items (depth - 1) fuel)
    | '\x7b' :: rest =>
      if depth = 0 then reject
      set rest
      return .table .inline (← fields (depth - 1) fuel [])
    | _ => scalar

/-- The items of an array up to its bracket; a comma may follow the last one. -/
def items (depth : Nat) : Nat → Reader (List Value)
  | 0 => reject
  | fuel + 1 => do
    spaces
    if ← startsWith [']'] then
      exact [']']
      return []
    else
      let item ← value depth fuel
      spaces
      if ← startsWith [','] then
        exact [',']
        return item :: (← items depth fuel)
      else
        exact [']']
        return [item]

/-- The entries of a table between braces; a comma may follow the last one. -/
def fields (depth : Nat) : Nat → Entries → Reader Entries
  | 0, _ => reject
  | fuel + 1, entries => do
    spaces
    if ← startsWith ['\x7d'] then
      exact ['\x7d']
      return entries
    else
      let name ← key
      exact ['=']
      blanks
      let item ← value depth fuel
      match assign item true name entries with
      | none => reject
      | some entries =>
        spaces
        if ← startsWith [','] then
          exact [',']
          fields depth fuel entries
        else
          exact ['\x7d']
          return entries

end

/-! ## Documents -/

/-- The root table so far and the path of the header that holds now. -/
structure State where
  root : Entries
  header : List String

/-- The last part of a key and the parts before it. -/
def splitKey (name : List String) : Option (List String × String) :=
  name.getLast?.map fun last => (name.dropLast, last)

/-- One line: a header, an entry, or nothing. -/
def line (state : State) : Reader State := do
  blanks
  match ← get with
  | '[' :: '[' :: rest =>
    set rest
    let name ← key
    exact [']', ']']
    match splitKey name with
    | some (path, last) => match addTable path last state.root with
      | some root => return ⟨root, name⟩
      | none => reject
    | none => reject
  | '[' :: rest =>
    set rest
    let name ← key
    exact [']']
    match splitKey name with
    | some (path, last) => match define path last state.root with
      | some root => return ⟨root, name⟩
      | none => reject
    | none => reject
  | [] | '#' :: _ | '\n' :: _ | '\r' :: _ => return state
  | _ =>
    let name ← key
    exact ['=']
    blanks
    let item ← value maxDepth ((← get).length + 1)
    match within (assign item true name) state.header state.root with
    | some root => return { state with root := root }
    | none => reject

/-- All lines up to the end of the text. -/
def lines : Nat → State → Reader State
  | 0, _ => reject
  | fuel + 1, state => do
    let state ← line state
    blanks
    comment
    if (← get).isEmpty then return state
    else
      lineBreak
      lines fuel state

end Reader

/-- The entries of the root table of a text. A mark of the byte order at the start is skipped. -/
def parse (source : String) : Option Entries :=
  let cs := match source.toList with
    | '\ufeff' :: rest => rest
    | cs => cs
  (Reader.lines (cs.length + 1) ⟨[], []⟩ cs).map (·.1.root)

end EntityScaffold.Toml
