import EntityScaffold.Text.LetterCase

/-! # Words of an identifier

An identifier falls into words at every character that is neither letter nor digit and at changes
of letter case: between a small letter and a capital (`orderLine`), and before the last capital of a
row that a small letter follows (`XMLFile`). Digits belong to the word they stand in.
-/

namespace EntityScaffold.Text

/-! ## Splitting -/

/-- What the letters since the last boundary say about the next one. -/
inductive CaseState where
  /-- No cased letter since the last boundary. -/
  | start
  /-- The last cased letter was small. -/
  | small
  /-- The last cased letter was a capital. -/
  | capital
deriving DecidableEq, Repr

/-- The state after a character that does not start a word. -/
def CaseState.next (state : CaseState) (c : Char) : CaseState :=
  if isLowercase c then .small else if isUppercase c then .capital else state

/-- Split a row of letters and digits. `word` is the current word in reverse, a word ends before a
capital that follows a small letter, and before a capital that follows a capital and precedes a
small letter. -/
def splitCase (word : List Char) (state : CaseState) : List Char → List (List Char)
  | [] => if word.isEmpty then [] else [word.reverse]
  | [c] => [(c :: word).reverse]
  | c :: d :: rest =>
    let state' := state.next c
    if state' == .small && isUppercase d then
      (c :: word).reverse :: splitCase [] .start (d :: rest)
    else if state == .capital && isUppercase c && isLowercase d then
      word.reverse :: splitCase [c] .start (d :: rest)
    else
      splitCase (c :: word) state' (d :: rest)

/-- The rows of letters and digits between other characters; some may be empty. -/
def alphanumericRows : List Char → List (List Char)
  | [] => [[]]
  | c :: cs =>
    match alphanumericRows cs with
    | [] => [[c]]
    | row :: rows => if isAlphanumeric c then (c :: row) :: rows else [] :: row :: rows

/-- The words of an identifier, in order, as they are written in it. -/
def words (s : String) : List (List Char) :=
  (alphanumericRows s.toList).flatMap (splitCase [] .start)

/-! ## Joining -/

/-- A word in small letters; a capital sigma at its end becomes the final sigma. -/
def lowerWord : List Char → List Char
  | [] => []
  | [c] => if c = 'Σ' then ['ς'] else toLowercase c
  | c :: d :: rest => toLowercase c ++ lowerWord (d :: rest)

/-- A word with a capital first letter and small letters after it. -/
def capitalWord : List Char → List Char
  | [] => []
  | c :: rest => toUppercase c ++ lowerWord rest

/-- Every word starts with a capital: `order_line` becomes `OrderLine`. -/
def pascalCase (s : String) : String := String.ofList ((words s).flatMap capitalWord)

/-- Every word but the first starts with a capital: `order_line` becomes `orderLine`. -/
def camelCase (s : String) : String :=
  match words s with
  | [] => ""
  | word :: rest => String.ofList (lowerWord word ++ rest.flatMap capitalWord)

end EntityScaffold.Text
