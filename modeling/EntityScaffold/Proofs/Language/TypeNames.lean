import EntityScaffold.Language.Types
import EntityScaffold.Proofs.Text.Trimming

/-! # Spellings of one type

A type may be followed by question marks. In C# a value type that may be null is called the same under each of these
spellings, and any other spelling is a name of its own. In TypeScript blanks around a type do not matter either, and
there are only five names.
-/

namespace EntityScaffold

open LanguageMode (csharp typescript)

variable {t : String} {k : Nat}

/-! ## Question marks -/

/-- A number of question marks. -/
def questionMarks (k : Nat) : String := String.ofList (List.replicate k '?')

theorem toList_questionMarks (k : Nat) : (questionMarks k).toList = List.replicate k '?' := String.toList_ofList

theorem withoutMarks_eq_self (h : t.toList.getLast? ≠ some '?') : withoutMarks t = t := by
  have hkeep : Text.dropEndWhile (· == '?') t.toList = t.toList :=
    Text.dropEndWhile_of_getLast? fun c hc => beq_eq_false_iff_ne.2 fun heq => h (heq ▸ hc)
  rw [withoutMarks, hkeep, String.ofList_toList]

/-- Question marks at the end are dropped however many there are. -/
theorem withoutMarks_append (h : t.toList.getLast? ≠ some '?') (k : Nat) :
    withoutMarks (t ++ questionMarks k) = t := by
  have hmarks : ∀ c ∈ (questionMarks k).toList, (c == '?') = true := fun c hc => by
    rw [toList_questionMarks] at hc
    exact beq_iff_eq.2 (List.eq_of_mem_replicate hc)
  rw [withoutMarks, String.toList_append, Text.dropEndWhile_append hmarks]
  exact withoutMarks_eq_self h

/-- A type is what dropping question marks leaves of it, with question marks behind it. -/
theorem exists_withoutMarks_append (t : String) :
    (∃ k, t = withoutMarks t ++ questionMarks k) ∧ (withoutMarks t).toList.getLast? ≠ some '?' := by
  have hmarks : Text.takeEndWhile (· == '?') t.toList =
      List.replicate (Text.takeEndWhile (· == '?') t.toList).length '?' :=
    List.eq_replicate_iff.2 ⟨rfl, fun c hc => by simpa using Text.of_mem_takeEndWhile hc⟩
  refine ⟨⟨(Text.takeEndWhile (· == '?') t.toList).length, ?_⟩, fun hlast => ?_⟩
  · rw [withoutMarks, questionMarks, ← hmarks, ← String.ofList_append, Text.dropEndWhile_append_takeEndWhile,
      String.ofList_toList]
  · rw [withoutMarks, String.toList_ofList] at hlast
    exact absurd (Text.getLast?_dropEndWhile hlast) (by decide)

/-! ## C# -/

theorem getLast?_ne_of_mem_valueTypes (h : t ∈ valueTypes) : t.toList.getLast? ≠ some '?' := by
  have hall : ∀ t ∈ valueTypes, t.toList.getLast? ≠ some '?' := by decide +kernel
  exact hall t h

/-- A value type that may be null has one name. -/
theorem csharpType_append_questionMarks (h : t ∈ valueTypes) (k : Nat) :
    csharpType (t ++ questionMarks k) true = t ++ "?" := by
  have hbase := withoutMarks_append (getLast?_ne_of_mem_valueTypes h) k
  rw [csharpType, hbase, Bool.true_and, if_pos (List.contains_iff_mem.2 h)]

theorem csharpType_eq_self (h : withoutMarks t ∉ valueTypes) (nullable : Bool) : csharpType t nullable = t := by
  have hother : valueTypes.contains (withoutMarks t) = false :=
    Bool.eq_false_iff.2 fun hmem => h (List.contains_iff_mem.1 hmem)
  rw [csharpType, hother, Bool.and_false, if_neg Bool.false_ne_true]

/-- A name in C# is the name of itself. -/
theorem csharpType_csharpType (t : String) (nullable : Bool) :
    csharpType (csharpType t nullable) nullable = csharpType t nullable := by
  by_cases hvalue : withoutMarks t ∈ valueTypes
  · cases nullable with
    | false => rfl
    | true =>
      obtain ⟨⟨k, hspelled⟩, -⟩ := exists_withoutMarks_append t
      rw [hspelled, csharpType_append_questionMarks hvalue]
      exact csharpType_append_questionMarks hvalue 1
  · rw [csharpType_eq_self hvalue, csharpType_eq_self hvalue]

/-! ## TypeScript -/

/-- A type as it is written on its own: without blanks around it and without question marks at the end. -/
structure IsBareType (t : String) : Prop where
  head : ∀ c, t.toList.head? = some c → Text.isBlank c = false
  last : ∀ c, t.toList.getLast? = some c → Text.isBlank c = false
  unmarked : t.toList.getLast? ≠ some '?'

/-- Text of nothing but blanks. -/
def IsBlankText (s : String) : Prop := ∀ c ∈ s.toList, Text.isBlank c = true

theorem typescriptType_eq_of_withoutMarks {s : String}
    (h : withoutMarks (String.ofList (Text.trim s.toList)) = withoutMarks (String.ofList (Text.trim t.toList))) :
    typescriptType s = typescriptType t := by
  unfold typescriptType
  rw [h]

/-- Neither blanks around a type nor question marks behind it matter in TypeScript. -/
theorem typescriptType_decorated {before after : String} (h : IsBareType t) (hbefore : IsBlankText before)
    (hafter : IsBlankText after) (k : Nat) :
    typescriptType (before ++ (t ++ questionMarks k) ++ after) = typescriptType t := by
  have hmark : ∀ c ∈ List.replicate k '?', Text.isBlank c = false := fun c hc => by
    rw [List.eq_of_mem_replicate hc]
    decide
  have hhead : ∀ c, (t ++ questionMarks k).toList.head? = some c → Text.isBlank c = false := by
    intro c hc
    rw [String.toList_append, toList_questionMarks, List.head?_append, Option.or_eq_some_iff] at hc
    exact hc.elim (h.head c) fun hc => hmark c (List.mem_of_head? hc.2)
  have hlast : ∀ c, (t ++ questionMarks k).toList.getLast? = some c → Text.isBlank c = false := by
    intro c hc
    rw [String.toList_append, toList_questionMarks, List.getLast?_append, Option.or_eq_some_iff] at hc
    exact hc.elim (fun hc => hmark c (List.mem_of_getLast? hc)) fun hc => h.last c hc.2
  have htrim : Text.trim (before ++ (t ++ questionMarks k) ++ after).toList = (t ++ questionMarks k).toList := by
    rw [String.toList_append, String.toList_append]
    exact Text.trim_append hbefore hafter hhead hlast
  have hbare : Text.trim t.toList = t.toList := by
    have htrim : Text.trim ([] ++ t.toList ++ []) = t.toList := Text.trim_append nofun nofun h.head h.last
    rwa [List.nil_append, List.append_nil] at htrim
  apply typescriptType_eq_of_withoutMarks
  rw [htrim, hbare, String.ofList_toList, String.ofList_toList, withoutMarks_append h.unmarked,
    withoutMarks_eq_self h.unmarked]

theorem typescriptType_mem (t : String) : typescriptType t ∈ ["number", "string", "boolean", "Date", "any"] := by
  unfold typescriptType
  dsimp only
  split_ifs <;> decide

/-! ## Both languages -/

/-- In C# a name is the name of itself; a value type that may be null is called by the type and one question mark
however many stand behind it, and all else is called as it is. In TypeScript a type is called the same whatever
question marks and blanks stand around it, by the helper too, and has one of five names. -/
theorem typeName_canonical :
    (∀ t nullable, csharp.typeName (csharp.typeName t nullable) nullable = csharp.typeName t nullable) ∧
    (∀ t ∈ valueTypes, ∀ k, csharp.typeName (t ++ questionMarks k) true = t ++ "?") ∧
    (∀ t, withoutMarks t ∉ valueTypes → ∀ nullable, csharp.typeName t nullable = t) ∧
    (∀ t, (∃ k, t = withoutMarks t ++ questionMarks k) ∧ (withoutMarks t).toList.getLast? ≠ some '?') ∧
    (∀ t before k after, IsBareType t → IsBlankText before → IsBlankText after →
      ∀ nullable other context rest,
        typescript.typeName (before ++ (t ++ questionMarks k) ++ after) nullable = typescript.typeName t other ∧
        tsType context (.string (before ++ (t ++ questionMarks k) ++ after) :: rest) =
          .ok (typescript.typeName t other)) ∧
    ∀ t nullable, typescript.typeName t nullable ∈ ["number", "string", "boolean", "Date", "any"] := by
  refine ⟨csharpType_csharpType, fun t h => csharpType_append_questionMarks h, fun t h => csharpType_eq_self h,
    exists_withoutMarks_append, fun t before k after h hbefore hafter _ _ _ _ => ?_, fun t _ => typescriptType_mem t⟩
  have hname := typescriptType_decorated h hbefore hafter k
  exact ⟨hname, congrArg Except.ok hname⟩

example : csharp.typeName "int??" true = "int?" ∧ typescript.typeName "\tint? ?" false = "any" := by decide +kernel

end EntityScaffold
