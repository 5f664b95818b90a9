import EntityScaffold.Helper.Spaces
import EntityScaffold.Proofs.Text.Trimming
import Mathlib.Data.List.Induction
import Mathlib.Data.Nat.Digits.Defs

/-! # Counts of spaces

A count is an integer, or a text of digits between blanks, perhaps after a plus sign. The helper `spaces` writes a
count of at most 4096 spaces in full; for anything else it reports an error and writes nothing.
-/

namespace EntityScaffold

/-! ## Digits -/

namespace Decimal

variable {cs sign digits : List Char} {n : Nat}

/-- The number that a digit stands for. -/
def digitValue (c : Char) : Nat := c.toNat - '0'.toNat

/-- The last digit counts ones, the one before it tens, and so on. -/
theorem digitsNumber_eq_ofDigits (digits : List Char) :
    digitsNumber digits = Nat.ofDigits 10 (digits.reverse.map digitValue) := by
  induction digits using List.reverseRecOn with
  | nil => rfl
  | append_singleton before digit ih =>
    rw [digitsNumber, List.foldl_append, List.reverse_append, List.map_append, ← digitsNumber, ih]
    exact Nat.add_comm _ _

/-- Digits, perhaps after a plus sign, are read if their value fits. -/
theorem natural64?_append (hsign : sign = [] ∨ sign = ['+']) (hne : digits ≠ [])
    (hdigits : ∀ c ∈ digits, c.isDigit = true) : natural64? (sign ++ digits) =
      if digitsNumber digits ≤ maxNatural64 then some (digitsNumber digits) else none := by
  have hread : (digits.isEmpty || !digits.all Char.isDigit) = false := by
    rw [Bool.or_eq_false_iff, List.isEmpty_eq_false_iff, Bool.not_eq_false', List.all_eq_true]
    exact ⟨hne, hdigits⟩
  unfold natural64?
  rcases hsign with rfl | rfl
  · split
    · next rest heq =>
      -- A plus sign is no digit.
      rw [List.nil_append] at heq
      subst heq
      exact absurd (hdigits '+' List.mem_cons_self) (by decide)
    · exact if_neg (ne_true_of_eq_false hread)
  · exact if_neg (ne_true_of_eq_false hread)

/-- What is read are digits, perhaps after a plus sign. -/
theorem exists_of_natural64? (h : natural64? cs = some n) : ∃ sign digits, cs = sign ++ digits ∧
    (sign = [] ∨ sign = ['+']) ∧ digits ≠ [] ∧ (∀ c ∈ digits, c.isDigit = true) ∧ n = digitsNumber digits := by
  have hread : ∀ digits : List Char, (if digits.isEmpty || !digits.all Char.isDigit then none
      else if digitsNumber digits ≤ maxNatural64 then some (digitsNumber digits) else none) = some n →
        digits ≠ [] ∧ (∀ c ∈ digits, c.isDigit = true) ∧ n = digitsNumber digits := by
    intro digits h
    split at h
    · cases h
    · next hsome =>
      rw [Bool.not_eq_true, Bool.or_eq_false_iff, List.isEmpty_eq_false_iff, Bool.not_eq_false',
        List.all_eq_true] at hsome
      split at h
      · cases h
        exact ⟨hsome.1, hsome.2, rfl⟩
      · cases h
  unfold natural64? at h
  split at h
  · next rest => exact ⟨['+'], rest, rfl, .inr rfl, hread rest h⟩
  · exact ⟨[], cs, rfl, .inl rfl, hread cs h⟩

theorem isBlank_eq_false_of_isDigit {c : Char} (h : c.isDigit = true) : Text.isBlank c = false := by
  have hrange : 48 ≤ c.toNat ∧ c.toNat ≤ 57 := by
    simpa [Char.isDigit, UInt32.le_iff_toNat_le] using h
  simp only [Text.isBlank, Bool.or_eq_false_iff, Bool.and_eq_false_iff, decide_eq_false_iff_not, beq_eq_false_iff_ne]
  omega

end Decimal

/-! ## Counts -/

open Decimal (digitValue digitsNumber maxNatural64)

/-- A value spells a count: it is that integer, or a text of digits with that value, perhaps after a plus sign,
between blanks. -/
inductive Json.Spells : Json → Nat → Prop
  | integer (count : Nat) : Spells (.integer count) count
  | text {before sign digits after : List Char} (hbefore : ∀ c ∈ before, Text.isBlank c = true)
      (hsign : sign = [] ∨ sign = ['+']) (hne : digits ≠ []) (hdigits : ∀ c ∈ digits, c.isDigit = true)
      (hafter : ∀ c ∈ after, Text.isBlank c = true) :
      Spells (.string (String.ofList (before ++ (sign ++ digits) ++ after)))
        (Nat.ofDigits 10 (digits.reverse.map digitValue))

variable {value : Json} {count : Nat}

theorem Json.Spells.of_spacesCount? (h : spacesCount? value = some count) : value.Spells count := by
  unfold spacesCount? at h
  split at h
  · next n =>
    unfold Number.natural? at h
    split at h
    · next i =>
      split at h
      · next hpositive =>
        cases h
        have hinteger := Json.Spells.integer i.toNat
        rwa [Int.toNat_of_nonneg hpositive] at hinteger
      · cases h
    · cases h
  · next s =>
    obtain ⟨sign, digits, htrim, hsign, hne, hdigits, rfl⟩ := Decimal.exists_of_natural64? h
    obtain ⟨before, after, hs, hbefore, hafter⟩ := Text.exists_blanks_trim s.toList
    rw [htrim] at hs
    rw [Decimal.digitsNumber_eq_ofDigits, ← String.ofList_toList (s := s), hs]
    exact .text hbefore hsign hne hdigits hafter
  · cases h

/-- A count that is spelled is read, unless it is a text beyond 64 bits. -/
theorem Json.Spells.spacesCount?_eq (h : value.Spells count) :
    spacesCount? value = some count ∨ spacesCount? value = none ∧ maxNatural64 < count := by
  cases h with
  | integer => exact .inl (by simp [spacesCount?, Json.integer, Number.natural?])
  | @text before sign digits after hbefore hsign hne hdigits hafter =>
    have hlast : ∀ c, (sign ++ digits).getLast? = some c → Text.isBlank c = false := by
      intro c hc
      rw [List.getLast?_append_of_ne_nil _ hne] at hc
      exact Decimal.isBlank_eq_false_of_isDigit (hdigits c (List.mem_of_getLast? hc))
    have hhead : ∀ c, (sign ++ digits).head? = some c → Text.isBlank c = false := by
      intro c hc
      rcases hsign with rfl | rfl
      · exact Decimal.isBlank_eq_false_of_isDigit (hdigits c (List.mem_of_head? hc))
      · cases hc
        decide
    rw [spacesCount?, String.toList_ofList, Text.trim_append hbefore hafter hhead hlast,
      Decimal.natural64?_append hsign hne hdigits, ← Decimal.digitsNumber_eq_ofDigits]
    split
    · exact .inl rfl
    · next hlong => exact .inr ⟨rfl, Nat.lt_of_not_le hlong⟩

/-! ## Writing -/

/-- Write what an inline helper makes to a sink. An error leaves the sink as it was. -/
def InlineHelper.writeTo (helper : InlineHelper) (context : Json) (arguments : List Json) :
    ExceptT String (StateM String) Unit :=
  match helper context arguments with
  | .ok text => modify (· ++ text)
  | .error message => throw message

section

variable {helper : InlineHelper} {context : Json} {arguments : List Json} {text message : String}

theorem InlineHelper.run_writeTo_of_ok (h : helper context arguments = .ok text) (sink : String) :
    (helper.writeTo context arguments).run sink = (.ok (), sink ++ text) := by
  unfold writeTo
  rw [h]
  rfl

theorem InlineHelper.run_writeTo_of_error (h : helper context arguments = .error message) (sink : String) :
    (helper.writeTo context arguments).run sink = (.error message, sink) := by
  unfold writeTo
  rw [h]
  rfl

end

/-- A count that is read is written if it is not too large. -/
theorem spaces_of_count {argument : Json} (h : spacesCount? argument = some count) (context : Json)
    (rest : List Json) : spaces context (argument :: rest) =
      if maxSpaces < count then
        .error ("spaces helper count " ++ toString count ++ " exceeds the maximum of " ++ toString maxSpaces)
      else .ok (String.ofList (List.replicate count ' ')) := by
  simp only [spaces, h]

/-- What `spaces` does is decided by its first argument alone. A count up to the largest one that is accepted is
written in full behind what is in the sink; for anything else there is an error, and the sink stays as it was. -/
theorem spaces_writesCount (context : Json) (sink : String) :
    ((spaces.writeTo context []).run sink = (.ok (), sink)) ∧
    ∀ (argument : Json) (rest : List Json),
      (∀ count ≤ 4096, argument.Spells count →
        (spaces.writeTo context (argument :: rest)).run sink =
          (.ok (), sink ++ String.ofList (List.replicate count ' '))) ∧
      ((∀ count ≤ 4096, ¬ argument.Spells count) →
        ∃ message, (spaces.writeTo context (argument :: rest)).run sink = (.error message, sink)) ∧
      ∀ otherContext otherRest, spaces otherContext (argument :: otherRest) = spaces context (argument :: rest) := by
  refine ⟨congrArg (Prod.mk _) String.append_empty, fun argument rest => ⟨fun count hfits hspells => ?_,
    fun hnone => ?_, fun _ _ => rfl⟩⟩
  · have hcount : spacesCount? argument = some count := by
      rcases hspells.spacesCount?_eq with hcount | ⟨-, hlong⟩
      · exact hcount
      · have hsmall : 4096 ≤ maxNatural64 := by decide
        omega
    have hshort : ¬ maxSpaces < count := Nat.not_lt.2 hfits
    have hspaces := spaces_of_count hcount context rest
    rw [if_neg hshort] at hspaces
    exact InlineHelper.run_writeTo_of_ok hspaces sink
  · cases hcount : spacesCount? argument with
    | none =>
      have hspaces : spaces context (argument :: rest) =
          .error ("spaces helper expects a non-negative integer, got " ++ argument.compact) := by
        simp only [spaces, hcount]
      exact ⟨_, InlineHelper.run_writeTo_of_error hspaces sink⟩
    | some count =>
      have hlong : maxSpaces < count :=
        Nat.lt_of_not_le fun hfits => hnone count hfits (.of_spacesCount? hcount)
      have hspaces := spaces_of_count hcount context rest
      rw [if_pos hlong] at hspaces
      exact ⟨_, InlineHelper.run_writeTo_of_error hspaces sink⟩

example : spaces .null [.string "\u2003+0007 "] = .ok "       " := by decide +kernel

end EntityScaffold
