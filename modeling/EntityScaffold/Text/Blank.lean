/-! # Blank characters and trimming

A character is blank when Unicode gives it the property `White_Space`. Trimming drops blank
characters at one or both ends of a text and nothing else.
-/

namespace EntityScaffold.Text

/-- The characters with the property `White_Space`. -/
def isBlank (c : Char) : Bool :=
  let n := c.toNat
  (9 ≤ n && n ≤ 13) || n == 0x20 || n == 0x85 || n == 0xA0 || n == 0x1680 ||
    (0x2000 ≤ n && n ≤ 0x200A) || n == 0x2028 || n == 0x2029 || n == 0x202F || n == 0x205F ||
    n == 0x3000

/-! ## Trimming -/

/-- Drop the characters that satisfy `p` at the end. -/
def dropEndWhile (p : Char → Bool) (cs : List Char) : List Char :=
  (cs.reverse.dropWhile p).reverse

/-- The longest run of characters satisfying `p` at the end. -/
def takeEndWhile (p : Char → Bool) (cs : List Char) : List Char :=
  (cs.reverse.takeWhile p).reverse

theorem dropEndWhile_append_takeEndWhile (p : Char → Bool) (cs : List Char) :
    dropEndWhile p cs ++ takeEndWhile p cs = cs := by
  rw [dropEndWhile, takeEndWhile, ← List.reverse_append, List.takeWhile_append_dropWhile,
    List.reverse_reverse]

/-- Drop blank characters at the start. -/
def trimStart (cs : List Char) : List Char := cs.dropWhile isBlank

/-- Drop blank characters at the end. -/
def trimEnd (cs : List Char) : List Char := dropEndWhile isBlank cs

/-- Drop blank characters at both ends. -/
def trim (cs : List Char) : List Char := trimEnd (trimStart cs)

/-! ## ASCII letters -/

/-- Capital ASCII letters become small ones, all else stays. -/
def asciiLower (s : String) : String := String.ofList (s.toList.map Char.toLower)

/-- Small ASCII letters become capitals, all else stays. -/
def asciiUpper (s : String) : String := String.ofList (s.toList.map Char.toUpper)

/-! ## Splitting -/

/-- The pieces between the occurrences of a separator; a text without it is one piece. -/
def splitAt (separator : Char) : List Char → List (List Char)
  | [] => [[]]
  | c :: cs =>
    if c = separator then [] :: splitAt separator cs
    else match splitAt separator cs with
      | [] => [[c]]
      | piece :: pieces => (c :: piece) :: pieces

end EntityScaffold.Text
