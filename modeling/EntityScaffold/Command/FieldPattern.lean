import EntityScaffold.Json.Reader
import EntityScaffold.Text.LetterCase

/-! # Patterns for field values

A field in a log filter can have a value, which is a number or a regular expression. Only whether an
expression can be used matters here. Nothing is known of the letters, digits and letter cases of
scripts beyond ASCII, so that expressions that need them cannot be used. No value holds a closing
brace; what needs one is no expression.
-/

namespace EntityScaffold.Command.FieldPattern

/-- Why a pattern cannot be used. -/
inductive Fault where
  /-- It is no expression, or it needs more than what is known of characters. -/
  | invalid
  /-- It looks for the edges of words in every script. -/
  | wordEdge
deriving DecidableEq, Repr

/-- What is told about a fault. -/
def Fault.message : Fault → String
  | .invalid => "error building NFA"
  | .wordEdge =>
    "unsupported regex feature for DFAs: cannot build DFAs for regexes with Unicode word boundaries; " ++
      "switch to ASCII word boundaries, or heuristically enable Unicode word boundaries or use a " ++
      "different regex engine"

/-! ## Reading -/

/-- How a part of an expression is read. -/
structure Mode where
  /-- Letters match in any case. -/
  anyCase : Bool := false
  /-- Characters are those of every script, and not only ASCII. -/
  allScripts : Bool := true
  /-- Blanks and comments do not count. -/
  spaced : Bool := false
deriving DecidableEq, Repr

/-- The text that is left, and what is known of what was read. -/
structure Cursor where
  rest : List Char
  mode : Mode
  /-- The names of groups. -/
  names : List (List Char)
  /-- Whether edges of words in every script were asked for. -/
  wordEdge : Bool

/-- Reads from the front of the text, or does not fit. -/
abbrev Reader := StateT Cursor Option

namespace Reader

/-- The text that is left. -/
def rest : Reader (List Char) := return (← get).rest

/-- Go on at a later place. -/
def goto (cs : List Char) : Reader Unit := modify fun cursor => { cursor with rest := cs }

/-- How is read. -/
def mode : Reader Mode := return (← get).mode

/-- From here on another mode holds. -/
def setMode (mode : Mode) : Reader Unit := modify fun cursor => { cursor with mode }

/-- Nothing fits. -/
def reject {α : Type} : Reader α := fun _ => none

/-- Go on only if a condition holds. -/
def require (condition : Bool) : Reader Unit := if condition then return () else reject

/-- What follows blanks and comments. A comment goes from `#` to the end of the line. -/
def skipSpaces : Bool → List Char → List Char
  | _, [] => []
  | true, c :: cs => skipSpaces (c != '\n') cs
  | false, c :: cs =>
    if c = '#' then skipSpaces true cs
    else if Text.isBlank c then skipSpaces false cs
    else c :: cs

/-- Skip blanks and comments if they do not count. -/
def spaces : Reader Unit := do
  if (← mode).spaced then goto (skipSpaces false (← rest))

/-- The next character. -/
def next : Reader Char := do
  match ← rest with
  | [] => reject
  | c :: cs =>
    goto cs
    return c

/-- Skip the given character, and spaces after it, if it comes next. -/
def flag (c : Char) : Reader Bool := do
  match ← rest with
  | d :: cs =>
    if c = d then
      goto cs
      spaces
      return true
    else return false
  | [] => return false

/-! ## Single characters -/

/-- What stands for one character, or for a place. -/
inductive Atom where
  /-- A character. One that is written as a `byte` beyond ASCII is a part of a character. -/
  | literal (c : Char) (byte : Bool)
  /-- Digits, blanks or letters, or all that are not. -/
  | kind (negated : Bool)
  /-- The start or the end. -/
  | border
  /-- An edge of a word. -/
  | wordEdge

/-- Characters that stand for themselves after a backslash. -/
def isEscapable (c : Char) : Bool := c.toNat < 128 && !c.isAlphanum && c != '<' && c != '>'

/-- A number of so many hexadecimal digits. -/
def hexadecimal : Nat → Nat → Reader Nat
  | 0, value => return value
  | digits + 1, value => do
    match Json.hexValue? (← next) with
    | none => reject
    | some digit =>
      spaces
      hexadecimal digits (16 * value + digit)

/-- A character by its code. -/
def code (digits : Nat) : Reader Atom := do
  spaces
  let n ← hexadecimal digits 0
  require (n < 0xD800 || (0xDFFF < n && n < 0x110000))
  return .literal (Char.ofNat n) (digits == 2)

/-- What follows a backslash. -/
def escape : Reader Atom := do
  let c ← next
  match c with
  | 'd' | 's' | 'w' => return .kind false
  | 'D' | 'S' | 'W' => return .kind true
  | 'x' => code 2
  | 'u' => code 4
  | 'U' => code 8
  | 'a' => return .literal '\x07' false
  | 'f' => return .literal '\x0c' false
  | 't' => return .literal '\t' false
  | 'n' => return .literal '\n' false
  | 'r' => return .literal '\r' false
  | 'v' => return .literal '\x0b' false
  | 'A' | 'z' => return .border
  | 'b' | 'B' | '<' | '>' => return .wordEdge
  | _ =>
    require (isEscapable c)
    return .literal c false

/-- A character, or what follows a backslash. -/
def atom : Reader Atom := do
  let c ← next
  if c = '\\' then escape else return .literal c false

/-- What stands for one character or a place outside of sets. -/
def single : Reader Unit := do
  let mode ← mode
  match ← rest with
  | '.' :: cs =>
    require mode.allScripts
    goto cs
  | '^' :: cs | '$' :: cs => goto cs
  | _ =>
    match ← atom with
    | .literal c byte =>
      require (if mode.allScripts then !mode.anyCase else !byte || c.toNat < 128)
    | .kind negated => require (!mode.allScripts && !negated)
    | .border => return ()
    | .wordEdge =>
      if mode.allScripts then modify fun cursor => { cursor with wordEdge := true }

/-! ## Sets of characters -/

/-- The names of sets. -/
def setNames : List String :=
  ["alnum", "alpha", "ascii", "blank", "cntrl", "digit", "graph", "lower", "print", "punct", "space",
    "upper", "word", "xdigit"]

/-- A named set such as `[:alpha:]`: whether it is negated, and what follows it. -/
def namedSet? : List Char → Option (Bool × List Char)
  | '[' :: ':' :: cs =>
    let (negated, cs) := match cs with
      | '^' :: cs => (true, cs)
      | cs => (false, cs)
    match cs.dropWhile (· != ':') with
    | ':' :: ']' :: rest =>
      if setNames.contains (String.ofList (cs.takeWhile (· != ':'))) then some (negated, rest) else none
    | _ => none
  | _ => none

/-- A character that is a member of a set, or the end of a range. -/
def member : Atom → Reader Char
  | .literal c _ => do
    require ((← mode).allScripts || c.toNat < 128)
    return c
  | _ => reject

/-- A member of a set or a range of them. A dash before another one or before the closing bracket
makes no range. -/
def range : Reader Unit := do
  let first ← atom
  spaces
  let mode ← mode
  let isAlone := match ← rest with
    | '-' :: cs =>
      (if mode.spaced then skipSpaces false cs else cs).head?.any fun c => c == ']' || c == '-'
    | _ => true
  if isAlone then
    match first with
    | .kind negated => require (!mode.allScripts && !negated)
    | first =>
      let _ ← member first
  else
    let _ ← flag '-'
    let last ← atom
    require ((← member first) ≤ (← member last))

/-- Parts side by side: how many there are, and how deep the deepest is. -/
structure Parts where
  count : Nat := 0
  deepest : Nat := 0

/-- One more part of a given depth. -/
def Parts.add (parts : Parts) (depth : Nat) : Parts := ⟨parts.count + 1, max parts.deepest depth⟩

/-- The depth of parts together; a part that stands alone is no deeper for it. -/
def Parts.depth (parts : Parts) : Nat := if parts.count ≤ 1 then parts.deepest else parts.deepest + 1

/-- The dashes that a set starts with. -/
def dashes : Nat → Parts → Reader Parts
  | 0, parts => return parts
  | fuel + 1, parts => do if ← flag '-' then dashes fuel (parts.add 0) else return parts

/-- The depth of what was combined so far together with more members. -/
def combinedDepth (combined : Option Nat) (parts : Parts) : Nat :=
  match combined with
  | none => parts.depth
  | some depth => max depth parts.depth + 1

mutual

/-- A set after its opening bracket; gives its depth. A closing bracket that comes first is a member. -/
def set : Nat → Reader Nat
  | 0 => reject
  | fuel + 1 => do
    spaces
    let mode ← mode
    require (!(mode.anyCase && mode.allScripts))
    if ← flag '^' then require mode.allScripts
    let parts ← dashes fuel {}
    let parts ← if parts.count == 0 then do
        if ← flag ']' then pure (parts.add 0) else pure parts
      else pure parts
    members fuel none parts

/-- The members of a set up to its closing bracket. Sets are combined by `&&`, `--` and `~~`. -/
def members : Nat → Option Nat → Parts → Reader Nat
  | 0, _, _ => reject
  | fuel + 1, combined, parts => do
    spaces
    match ← rest with
    | ']' :: cs =>
      goto cs
      return combinedDepth combined parts + 1
    | '[' :: cs =>
      match namedSet? ('[' :: cs) with
      | some (negated, after) =>
        require ((← mode).allScripts || !negated)
        goto after
        members fuel combined (parts.add 0)
      | none =>
        goto cs
        let depth ← set fuel
        members fuel combined (parts.add depth)
    | '&' :: '&' :: cs | '-' :: '-' :: cs | '~' :: '~' :: cs =>
      goto cs
      members fuel (some (combinedDepth combined parts)) {}
    | _ =>
      range
      members fuel combined (parts.add 0)

end

/-! ## Groups and modes -/

/-- A character of the name of a group. -/
def isNameChar (isFirst : Bool) (c : Char) : Bool :=
  c == '_' || (Text.isAlphanumeric c && !(isFirst && c.isDigit)) ||
    (!isFirst && (c == '.' || c == '[' || c == ']'))

/-- The name of a group up to its closing bracket; no other group has it. -/
def groupName (cs : List Char) : Reader Unit := do
  let name := cs.takeWhile (· != '>')
  match cs.dropWhile (· != '>'), name with
  | '>' :: after, first :: others =>
    require (isNameChar true first && others.all (isNameChar false))
    require (!(← get).names.contains name)
    modify fun cursor => { cursor with names := name :: cursor.names }
    goto after
  | _, _ => reject

/-- Letters that name modes, before and after a dash. Each occurs once. -/
def isModeText (cs : List Char) : Bool :=
  cs.all (['i', 'm', 's', 'U', 'u', 'R', 'x', '-'].contains ·) && cs.eraseDups.length == cs.length &&
    cs.getLast? != some '-'

/-- What a mode is after its letters: set before the dash, not set after it. -/
def modeAfter (cs : List Char) (letter : Char) (before : Bool) : Bool :=
  if (cs.takeWhile (· != '-')).contains letter then true
  else if cs.contains letter then false
  else before

/-- The mode after the letters of modes. -/
def changedMode (mode : Mode) (cs : List Char) : Mode :=
  { anyCase := modeAfter cs 'i' mode.anyCase
    allScripts := modeAfter cs 'u' mode.allScripts
    spaced := modeAfter cs 'x' mode.spaced }

/-! ## Expressions -/

/-- How often what was read is repeated: each `*`, `+` or `?` makes it deeper. A `?` directly after one
of them belongs to it. -/
def repetitions : Nat → Reader Nat
  | 0 => return 0
  | fuel + 1 => do
    spaces
    match ← rest with
    | '*' :: cs | '+' :: cs | '?' :: cs =>
      goto (match cs with
        | '?' :: after => after
        | after => after)
      return (← repetitions fuel) + 1
    | _ => return 0

mutual

/-- Alternatives up to a closing parenthesis or the end; gives their depth. -/
def alternatives : Nat → Parts → Reader Nat
  | 0, _ => reject
  | fuel + 1, parts => do
    let depth ← sequence fuel {}
    let parts := parts.add depth
    match ← rest with
    | '|' :: cs =>
      goto cs
      alternatives fuel parts
    | _ => return parts.depth

/-- One part after the other; gives their depth. -/
def sequence : Nat → Parts → Reader Nat
  | 0, _ => reject
  | fuel + 1, parts => do
    spaces
    match ← rest with
    | [] | '|' :: _ | ')' :: _ => return parts.depth
    | '*' :: _ | '+' :: _ | '?' :: _ | '\x7b' :: _ => reject
    | '[' :: cs =>
      goto cs
      let depth ← set fuel
      let repeated ← repetitions fuel
      sequence fuel (parts.add (depth + repeated))
    | '(' :: cs =>
      goto cs
      spaces
      match ← group fuel with
      | none => sequence fuel (parts.add 0)
      | some depth =>
        let repeated ← repetitions fuel
        sequence fuel (parts.add (depth + repeated))
    | _ =>
      single
      let repeated ← repetitions fuel
      sequence fuel (parts.add repeated)

/-- A group after its opening parenthesis; gives its depth. If it only sets modes, it has none and they
hold up to the end of the group around it. -/
def group : Nat → Reader (Option Nat)
  | 0 => reject
  | fuel + 1 => do
    let outer ← mode
    match ← rest with
    | '?' :: 'P' :: '<' :: cs | '?' :: '<' :: cs =>
      groupName cs
      inGroup fuel outer
    | '?' :: cs =>
      let letters := cs.takeWhile fun c => c != ':' && c != ')'
      require (isModeText letters)
      setMode (changedMode outer letters)
      match cs.dropWhile fun c => c != ':' && c != ')' with
      | ':' :: after =>
        goto after
        inGroup fuel outer
      | ')' :: after =>
        require (!letters.isEmpty)
        goto after
        return none
      | _ => reject
    | _ => inGroup fuel outer

/-- What is in a group, and its closing parenthesis. The mode from before the group holds after it. -/
def inGroup : Nat → Mode → Reader (Option Nat)
  | 0, _ => reject
  | fuel + 1, outer => do
    let depth ← alternatives fuel {}
    let c ← next
    require (c == ')')
    setMode outer
    return some (depth + 1)

end

end Reader

/-! ## Patterns -/

/-- How deep an expression can be. -/
def maxDepth : Nat := 250

/-- The fault of an expression. -/
def expressionFault? (cs : List Char) : Option Fault :=
  match (Reader.alternatives (4 * cs.length + 4) {}).run ⟨cs, {}, [], false⟩ with
  | some (depth, ⟨[], _, _, wordEdge⟩) =>
    if maxDepth < depth then some .invalid
    else if wordEdge then some .wordEdge
    else none
  | _ => some .invalid

/-- The text without a sign. -/
def withoutSign : List Char → List Char
  | '+' :: cs | '-' :: cs => cs
  | cs => cs

/-- A number in decimal notation, an infinity, or a value that is no number. -/
def isNumber (cs : List Char) : Bool :=
  let cs := withoutSign cs
  ["inf", "infinity", "nan"].contains (Text.asciiLower (String.ofList cs)) ||
    let (fraction, after) := match cs.dropWhile Char.isDigit with
      | '.' :: rest => (rest.takeWhile Char.isDigit, rest.dropWhile Char.isDigit)
      | rest => ([], rest)
    (!(cs.takeWhile Char.isDigit).isEmpty || !fraction.isEmpty) && match after with
      | [] => true
      | c :: rest =>
        let digits := withoutSign rest
        (c == 'e' || c == 'E') && !digits.isEmpty && digits.all Char.isDigit

/-- The fault of a pattern: numbers have none. -/
def fault? (cs : List Char) : Option Fault := if isNumber cs then none else expressionFault? cs

end EntityScaffold.Command.FieldPattern
