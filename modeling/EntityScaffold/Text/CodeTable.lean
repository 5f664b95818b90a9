import EntityScaffold.Text.Blank

/-! # Tables of code points

A property of characters is written down as the runs of code points that have it: hexadecimal
`first-last`, or `first-last/step` for every `step`-th code point of the run. A letter mapping adds
to each run the distance to the image, `+` upwards and `~` downwards.
-/

namespace EntityScaffold.Text

/-- Every `step`-th code point from `first` to `last`. -/
structure CodeRun where
  first : Nat
  last : Nat
  step : Nat
deriving DecidableEq, Repr

namespace CodeRun

/-- Whether a code point lies on the run. -/
def contains (run : CodeRun) (n : Nat) : Bool :=
  run.first ≤ n && n ≤ run.last && (n - run.first) % run.step == 0

end CodeRun

/-- The value of a hexadecimal digit in capitals. -/
def hexDigit (c : Char) : Nat :=
  if c.isDigit then c.toNat - 48 else c.toNat - 55

/-- The number that a row of hexadecimal digits denotes. -/
def hexNumber (cs : List Char) : Nat := cs.foldl (fun n c => 16 * n + hexDigit c) 0

/-- Read `first`, `first-last` or `first-last/step`. -/
def CodeRun.ofText (cs : List Char) : CodeRun :=
  let range := cs.takeWhile (· != '/')
  let step := (cs.dropWhile (· != '/')).drop 1
  let first := hexNumber (range.takeWhile (· != '-'))
  let last := (range.dropWhile (· != '-')).drop 1
  ⟨first, if last.isEmpty then first else hexNumber last, if step.isEmpty then 1 else hexNumber step⟩

/-- The entries of a table, separated by blanks and line breaks. -/
def tableEntries (table : String) : List (List Char) :=
  ((splitAt '\n' table.toList).flatMap (splitAt ' ')).filter fun entry => !entry.isEmpty

/-- The runs of a table. -/
def codeRuns (table : String) : List CodeRun := (tableEntries table).map CodeRun.ofText

/-- Whether a code point lies on one of the runs. -/
def onRuns (runs : List CodeRun) (n : Nat) : Bool := runs.any (·.contains n)

/-! ## Mappings -/

/-- A run whose code points all move by the same distance. -/
structure CodeShift where
  run : CodeRun
  distance : Int
deriving DecidableEq, Repr

/-- Read a run followed by `+distance` or `~distance`. -/
def CodeShift.ofText (cs : List Char) : CodeShift :=
  let run := cs.takeWhile fun c => c != '+' && c != '~'
  match cs.dropWhile fun c => c != '+' && c != '~' with
  | '+' :: digits => ⟨.ofText run, hexNumber digits⟩
  | _ :: digits => ⟨.ofText run, -(hexNumber digits : Int)⟩
  | [] => ⟨.ofText run, 0⟩

/-- The shifts of a table. -/
def codeShifts (table : String) : List CodeShift := (tableEntries table).map CodeShift.ofText

/-- The image of a code point: moved by the first run that holds it, else itself. -/
def shiftCode (shifts : List CodeShift) (n : Nat) : Nat :=
  match shifts.find? (·.run.contains n) with
  | some shift => (n + shift.distance).toNat
  | none => n

/-- A code point whose image is several characters, written `code=code,code`. -/
def codeExpansions (table : String) : List (Nat × List Char) :=
  (tableEntries table).map fun entry =>
    (hexNumber (entry.takeWhile (· != '=')),
      (splitAt ',' ((entry.dropWhile (· != '=')).drop 1)).map fun code => Char.ofNat (hexNumber code))

end EntityScaffold.Text
