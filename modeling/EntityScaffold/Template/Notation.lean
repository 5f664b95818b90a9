import EntityScaffold.Template.Basic
import EntityScaffold.Json.Reader

/-! # Inside a tag

The notation of names, paths, literals and calls. Alternatives are tried in order and the first that
fits is final; blanks may stand between the parts of a call but not within names, paths and strings.
A literal that the notation admits may still be no JSON value; such literals are noted and reading
goes on.
-/

namespace EntityScaffold.Template

/-- The text that is left, and the literals without value so far. -/
structure Cursor where
  rest : List Char
  invalid : List String

/-- Reads from the front of the text, or does not fit. -/
abbrev Reader := StateT Cursor Option

namespace Reader

/-! ## Characters -/

/-- The text that is left. -/
def rest : Reader (List Char) := return (← get).rest

/-- Go on at a later place. -/
def goto (cs : List Char) : Reader Unit := modify fun cursor => { cursor with rest := cs }

/-- Nothing fits. -/
def reject {α : Type} : Reader α := fun _ => none

/-- The text starts with the given characters, which are skipped. -/
def exact (expected : List Char) : Reader Unit := do
  let cs ← rest
  if expected.isPrefixOf cs then goto (cs.drop expected.length) else reject

/-- Skip the given characters if the text starts with them. -/
def flag (expected : List Char) : Reader Bool := do
  let cs ← rest
  if expected.isPrefixOf cs then
    goto (cs.drop expected.length)
    return true
  else return false

/-- Skip blanks. -/
def blanks : Reader Unit := do goto (Json.skipSeparators (← rest))

/-- The longest run of characters satisfying `p`. -/
def run (p : Char → Bool) : Reader (List Char) := do
  let cs ← rest
  goto (cs.dropWhile p)
  return cs.takeWhile p

/-- The longest run of characters satisfying `p`, at least one. -/
def run1 (p : Char → Bool) : Reader (List Char) := do
  let cs ← run p
  if cs.isEmpty then reject else return cs

/-- What `reader` reads, or nothing. -/
def optional {α : Type} (reader : Reader α) : Reader (Option α) := fun cursor =>
  match reader cursor with
  | some (a, cursor) => some (some a, cursor)
  | none => some (none, cursor)

/-- What the first reader reads, or the second if it does not fit. -/
def either {α : Type} (first second : Reader α) : Reader α := fun cursor =>
  match first cursor with
  | some result => some result
  | none => second cursor

/-- Read as often as it fits, at most `fuel` times. -/
def many {α : Type} (reader : Reader α) : Nat → Reader (List α)
  | 0 => return []
  | fuel + 1 => do
    match ← optional reader with
    | none => return []
    | some a => return a :: (← many reader fuel)

/-- What is read together with its written form. -/
def written {α : Type} (reader : Reader α) : Reader (α × List Char) := do
  let before ← rest
  let a ← reader
  let after ← rest
  return (a, before.take (before.length - after.length))

/-! ## Names and paths -/

/-- Characters of names. -/
def isSymbol (c : Char) : Bool :=
  c.isAlphanum || c == '-' || c == '_' || c == '$' || 128 ≤ c.toNat

/-- A name. -/
def identifier : Reader String := return String.ofList (← run1 isSymbol)

/-- What stands up to the closing single quote, and what follows it. A quote after a backslash does not
close. -/
def quotedRest : List Char → Option (List Char × List Char)
  | [] => none
  | '\\' :: '\'' :: rest => (quotedRest rest).map fun (inner, rest) => ('\\' :: '\'' :: inner, rest)
  | '\'' :: rest => some ([], rest)
  | c :: rest => (quotedRest rest).map fun (inner, rest) => (c :: inner, rest)

/-- The name of a template to include: symbols but no `$`, slashes and points; or anything in single
quotes, which belong to the name. -/
def templateName : Reader String := do
  let word := run1 fun c => (isSymbol c && c != '$') || c == '/' || c == '.'
  let quote := do
    exact ['\'']
    match quotedRest (← rest) with
    | some (inner@(_ :: _), after) =>
      goto after
      return '\'' :: inner ++ ['\'']
    | _ => reject
  return String.ofList (← either word quote)

/-- Stands between the steps of a path. -/
def separator : Reader Unit := either (exact ['/']) (exact ['.'])

/-- One step of a path: a name, or anything in brackets. -/
def step : Reader String := do
  let bracketed := do
    exact ['[']
    let inner ← run (· != ']')
    exact [']']
    return inner
  return String.ofList (← either (run1 isSymbol) bracketed)

/-- A path. -/
def path : Reader Path := do
  let parts : Reader (Bool × Bool × Nat × List String) := do
    let _ ← optional (either (do exact "this".toList; separator) (exact ['.', '/']))
    let root ← optional (do exact "@root".toList; separator)
    let isLocal ← flag ['@']
    let size := (← rest).length
    let ups ← many (do exact ['.', '.']; separator) size
    let first ← step
    let others ← many (do separator; step) size
    return (root.isSome, isLocal, ups.length, (first :: others).filter (· != "this"))
  let ((fromRoot, isLocal, ups, keys), text) ← written parts
  return ⟨String.ofList text, fromRoot, isLocal, ups, keys⟩

/-! ## Literals -/

/-- The place is not within a name. -/
def endOfWord : Reader Unit := do
  match ← rest with
  | c :: _ => if isSymbol c then reject else return ()
  | [] => return ()

/-- A number: digits, an optional point, and an exponent written with a capital `E`. -/
def numberLiteral : Reader Unit := do
  let _ ← flag ['-']
  let _ ← run1 Char.isDigit
  let _ ← flag ['.']
  let _ ← run Char.isDigit
  let _ ← optional do
    exact ['E']
    let _ ← flag ['-']
    let _ ← run1 Char.isDigit
  endOfWord

/-- The characters of a string up to its quote. An escape is one letter, the quote itself, or four
hexadecimal digits. -/
def stringRest (quote : Char) : Nat → List Char → Option (List Char)
  | 0, _ | _, [] => none
  | fuel + 1, '\\' :: 'u' :: a :: b :: c :: d :: rest =>
    if [a, b, c, d].all fun h => (Json.hexValue? h).isSome then stringRest quote fuel rest else none
  | fuel + 1, '\\' :: c :: rest =>
    if c = quote ∨ c ∈ ['\\', '/', 'b', 'f', 'n', 'r', 't'] then stringRest quote fuel rest else none
  | fuel + 1, c :: rest =>
    if c = quote then some rest else if c = '\\' then none else stringRest quote fuel rest

/-- A string in double or single quotes. -/
def stringLiteral : Reader Unit := do
  match ← rest with
  | c :: cs =>
    if c = '"' ∨ c = '\'' then
      match stringRest c (cs.length + 1) cs with
      | some after => goto after
      | none => reject
    else reject
  | [] => reject

/-- A literal: the notation of JSON with single quotes allowed. -/
def literalSpan : Nat → Reader Unit
  | 0 => reject
  | fuel + 1 =>
    let array : Reader Unit := do
      exact ['[']
      blanks
      let _ ← optional (literalSpan fuel)
      let _ ← many (do blanks; exact [',']; blanks; literalSpan fuel) fuel
      blanks
      exact [']']
    let field : Reader Unit := do
      stringLiteral
      blanks
      exact [':']
      blanks
      literalSpan fuel
    let object : Reader Unit := do
      exact ['{']
      blanks
      let _ ← optional field
      let _ ← many (do blanks; exact [',']; blanks; field) fuel
      blanks
      exact ['}']
    let word (letters : List Char) : Reader Unit := do
      exact letters
      endOfWord
    either stringLiteral <| either array <| either object <| either numberLiteral <|
      either (word "null".toList) <| either (word "true".toList) (word "false".toList)

/-- Replace the escape of a single quote by the quote, and a double quote by its escape. -/
def requote : List Char → List Char
  | [] => []
  | '\\' :: '\'' :: rest => '\'' :: requote rest
  | '"' :: rest => '\\' :: '"' :: requote rest
  | c :: rest => c :: requote rest

/-- The JSON notation of a literal: a string in single quotes is put into double quotes. -/
def literalNotation (text : List Char) : List Char :=
  match text with
  | '\'' :: inner => '"' :: requote inner.dropLast ++ ['"']
  | text => text

/-- A literal. One without value is noted and stands for null. -/
def literal : Reader Json := do
  let (_, text) ← written (literalSpan (← rest).length)
  match (Json.documentOf (literalNotation text)).toJson with
  | .ok value => return value
  | .error _ =>
    modify fun cursor => { cursor with invalid := cursor.invalid ++ [String.ofList text] }
    return .null

/-! ## Calls -/

/-- The words `as` and `else` are no operands, unless the next thing after blanks is a name. -/
def notKeyword : Reader Unit := fun cursor =>
  let keyword (letters : List Char) : Bool :=
    letters.isPrefixOf cursor.rest &&
      match Json.skipSeparators (cursor.rest.drop letters.length) with
      | c :: _ => !isSymbol c
      | [] => true
  if keyword ['a', 's'] || keyword ['e', 'l', 's', 'e'] then none else some ((), cursor)

mutual

/-- An operand: a literal, a path, or a call in parentheses. -/
def operand : Nat → Reader Operand
  | 0 => reject
  | fuel + 1 => do
    notKeyword
    either (return .literal (← literal)) <| either (return .path (← path)) <|
      return .call (← parenthesized fuel)

/-- A call in parentheses: a name with arguments, or a path alone. -/
def parenthesized : Nat → Reader Call
  | 0 => reject
  | fuel + 1 => do
    exact ['(']
    blanks
    let call ← either (callWithArguments fuel) (return .mk (.path (← path)) [] [])
    blanks
    exact [')']
    return call

/-- A name with at least one argument. -/
def callWithArguments : Nat → Reader Call
  | 0 => reject
  | fuel + 1 => do
    let name ← identifier
    let (arguments, named) ← arguments fuel
    if arguments.isEmpty && named.isEmpty then reject
    return .mk (.word name) arguments named

/-- Positional and named arguments in any order; of two under one name the later counts. -/
def arguments : Nat → Reader (List Operand × List (String × Operand))
  | 0 => return ([], [])
  | fuel + 1 => do
    match ← optional (argument fuel) with
    | none => return ([], [])
    | some (name, value) =>
      let (positional, named) ← arguments fuel
      match name with
      | none => return (value :: positional, named)
      | some name =>
        return (positional,
          if (named.lookup name).isSome then named else insertEntry name value named)

/-- One argument with the blanks before it, with its name if it has one. -/
def argument : Nat → Reader (Option String × Operand)
  | 0 => reject
  | fuel + 1 => do
    blanks
    let withName : Reader (Option String × Operand) := do
      let name ← identifier
      blanks
      exact ['=']
      blanks
      return (some name, ← operand fuel)
    either withName (return (none, ← operand fuel))

end

/-- A bound for the depth of calls: every level reads a character or is followed by one that does. -/
def callFuel : Reader Nat := return 4 * (← rest).length + 8

/-- What an expression holds: a call with arguments, or a name alone. -/
def expressionCall : Reader Call := do
  let fuel ← callFuel
  either (callWithArguments fuel) (bareName fuel)
where
  /-- A path, or a call that computes a name. -/
  bareName (fuel : Nat) : Reader Call :=
    either (return .mk (.computed (← parenthesized fuel)) [] []) (return .mk (.path (← path)) [] [])

/-- A name alone. -/
def nameCall : Reader Call := do expressionCall.bareName (← callFuel)

/-- What a block tag holds: a name and any arguments. -/
def blockCall : Reader Call := do
  let name ← identifier
  let (arguments, named) ← arguments (← callFuel)
  return .mk (.word name) arguments named

/-- What an inclusion holds: the name of a template, or a name alone, and any arguments. -/
def inclusionCall : Reader Call := do
  let callee ← either (return .word (← templateName)) (return (← nameCall).callee)
  let (arguments, named) ← arguments (← callFuel)
  return .mk callee arguments named

/-- The names that a block binds: `as |value|` or `as |value place|`. -/
def binders : Reader Binders := do
  let given ← optional do
    exact ['a', 's']
    blanks
    exact ['|']
    blanks
    let value ← identifier
    blanks
    let place ← optional identifier
    blanks
    exact ['|']
    return match place with
      | none => Binders.one value
      | some place => .two value place
  return given.getD .none

end Reader

end EntityScaffold.Template
