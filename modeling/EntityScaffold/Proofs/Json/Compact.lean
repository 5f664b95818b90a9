import EntityScaffold.Json.Reader
import EntityScaffold.Json.Printer
import Mathlib.Data.List.Basic
import Mathlib.Tactic.IntervalCases

/-! # Reading the compact notation

The compact notation of a value without numbers is read as the document of the value: strings with their
escapes, items and fields in their order. The fields of an object are not sorted for that, nor need their
names be distinct.
-/

namespace EntityScaffold.Json

/-! ## Documents of values -/

mutual

/-- The document that a value is written as, with its fields in their order. -/
def document : Json → Document
  | .null => .null
  | .bool b => .bool b
  | .number n => .number (some n)
  | .string s => .string (.ok s)
  | .array items => .array (documents items)
  | .object fields => .object (fieldDocuments fields)

/-- The documents of the items. -/
def documents : List Json → List Document
  | [] => []
  | item :: rest => document item :: documents rest

/-- The documents of the fields under their names. -/
def fieldDocuments : List (String × Json) → List (Except Fault String × Document)
  | [] => []
  | (name, value) :: rest => (.ok name, document value) :: fieldDocuments rest

end

mutual

/-- No number stands in the value. -/
def isNumberFree : Json → Bool
  | .number _ => false
  | .array items => itemsNumberFree items
  | .object fields => fieldsNumberFree fields
  | _ => true

/-- No number stands in the items. -/
def itemsNumberFree : List Json → Bool
  | [] => true
  | item :: rest => isNumberFree item && itemsNumberFree rest

/-- No number stands in the fields. -/
def fieldsNumberFree : List (String × Json) → Bool
  | [] => true
  | (_, value) :: rest => isNumberFree value && fieldsNumberFree rest

end

theorem documents_eq_map (items : List Json) : documents items = items.map document := by
  induction items with
  | nil => rfl
  | cons item rest ih => rw [documents, ih, List.map_cons]

theorem fieldDocuments_eq_map (fields : List (String × Json)) :
    fieldDocuments fields = fields.map fun field => (.ok field.1, field.2.document) := by
  induction fields with
  | nil => rfl
  | cons field rest ih => rw [fieldDocuments, ih, List.map_cons]

theorem itemsNumberFree_eq_all (items : List Json) : itemsNumberFree items = items.all isNumberFree := by
  induction items with
  | nil => rfl
  | cons item rest ih => rw [itemsNumberFree, ih, List.all_cons]

theorem fieldsNumberFree_eq_all (fields : List (String × Json)) :
    fieldsNumberFree fields = fields.all fun field => field.2.isNumberFree := by
  induction fields with
  | nil => rfl
  | cons field rest ih => rw [fieldsNumberFree, ih, List.all_cons]

/-! ## Strings -/

/-- The characters with an escape of one letter. -/
def hasShortEscape (c : Char) : Bool :=
  c = '"' || c = '\\' || c = '\n' || c = '\r' || c = '\t' || c = '\x08' || c = '\x0c'

/-- What an escaped character is read as: a control without a letter of its own is written as a unit. -/
def partOf (c : Char) : StringPart :=
  if hasShortEscape c then .char c else if c.toNat < 32 then .unit c.toNat else .char c

/-- The hexadecimal digits of a control are read as its number. -/
theorem hexUnit_control {n : Nat} (h : n < 32) (rest : List Char) :
    hexUnit ('0' :: '0' :: (if n < 16 then '0' else '1') :: Nat.digitChar (n % 16) :: rest) = .ok (n, rest) := by
  interval_cases n <;> rfl

/-- A control without a letter of its own is written in four digits. -/
theorem escapedChar_control {c : Char} (h : hasShortEscape c = false) (hc : c.toNat < 32) :
    (escapedChar c).toList =
      ['\\', 'u', '0', '0', if c.toNat < 16 then '0' else '1', Nat.digitChar (c.toNat % 16)] := by
  simp only [hasShortEscape, Bool.or_eq_false_iff, decide_eq_false_iff_not] at h
  simp only [escapedChar, h, if_false, Text.hexText]
  split
  · next hlt =>
    rw [Nat.toDigits_of_lt_base hlt, Nat.mod_eq_of_lt hlt]
    simp
  · next hge =>
    have hdigits : ∀ n < 32, 16 ≤ n → Nat.toDigits 16 n = ['1', Nat.digitChar (n % 16)] := by decide
    rw [hdigits _ hc (Nat.le_of_not_lt hge)]
    simp

/-- An escaped character is read as its part. -/
theorem stringParts_escapedChar (c : Char) (rest : List Char) (fuel : Nat) :
    stringParts (fuel + 1) ((escapedChar c).toList ++ rest) =
      (partOf c :: (stringParts fuel rest).1, (stringParts fuel rest).2) := by
  unfold partOf
  cases hshort : hasShortEscape c with
  | true =>
    simp only [hasShortEscape, Bool.or_eq_true, decide_eq_true_eq] at hshort
    obtain (((((rfl | rfl) | rfl) | rfl) | rfl) | rfl) | rfl := hshort <;> rfl
  | false =>
    by_cases hc : c.toNat < 32
    · rw [escapedChar_control hshort hc, if_neg Bool.false_ne_true, if_pos hc]
      simp only [List.cons_append, List.nil_append, stringParts, hexUnit_control hc]
    · simp only [hasShortEscape, Bool.or_eq_false_iff, decide_eq_false_iff_not] at hshort
      have hquote : c ≠ '"' := hshort.1.1.1.1.1.1
      have hslash : c ≠ '\\' := hshort.1.1.1.1.1.2
      have hsmall : ¬ c.toNat < 16 := fun h => hc (by omega)
      simp only [escapedChar, hshort, hc, hsmall, if_false, Char.toString, String.toList_singleton,
        List.singleton_append]
      rw [stringParts, if_neg hc]
      exacts [rfl, hquote, fun h => absurd h hslash, fun _ h => absurd h hslash, fun _ _ h => absurd h hslash]

/-- The characters of a string in its notation. -/
def escapedChars (cs : List Char) : List Char := cs.flatMap fun c => (escapedChar c).toList

theorem escapedChars_cons (c : Char) (cs : List Char) :
    escapedChars (c :: cs) = (escapedChar c).toList ++ escapedChars cs :=
  List.flatMap_cons

/-- The characters of a string are read as their parts, up to the closing quote. -/
theorem stringParts_escaped (cs rest : List Char) {fuel : Nat} (hfuel : cs.length < fuel) :
    stringParts fuel (escapedChars cs ++ '"' :: rest) = (cs.map partOf, .ok rest) := by
  induction cs generalizing fuel with
  | nil =>
    obtain ⟨fuel, rfl⟩ := Nat.exists_eq_succ_of_ne_zero (Nat.ne_zero_of_lt hfuel)
    rfl
  | cons c cs ih =>
    obtain ⟨fuel, rfl⟩ := Nat.exists_eq_succ_of_ne_zero (Nat.ne_zero_of_lt hfuel)
    rw [escapedChars_cons, List.append_assoc, stringParts_escapedChar, ih (Nat.lt_of_succ_lt_succ hfuel),
      List.map_cons]

/-- A part stands for its character, whatever follows. -/
theorem joinParts_partOf (c : Char) (rest : List Char) (parts : List StringPart) :
    joinParts (.ok rest) (partOf c :: parts) = (joinParts (.ok rest) parts).map (c :: ·) := by
  unfold partOf
  split
  · rw [joinParts]
  split
  · next hc =>
    have hlow : isLowUnit c.toNat = false := by simp [isLowUnit]; omega
    have hhigh : isHighUnit c.toNat = false := by simp [isHighUnit]; omega
    cases parts with
    | nil => simp [joinParts, hlow, hhigh, Except.map]
    | cons part parts =>
      cases part <;> simp [joinParts, hlow, hhigh]
  · rw [joinParts]

theorem joinParts_map_partOf (cs rest : List Char) : joinParts (.ok rest) (cs.map partOf) = .ok cs := by
  induction cs with
  | nil => rfl
  | cons c cs ih => rw [List.map_cons, joinParts_partOf, ih]; rfl

theorem toList_stringNotation (s : String) :
    (stringNotation s).toList = '"' :: (escapedChars s.toList ++ ['"']) := by
  simp [stringNotation, escapedChars, String.toList_join, List.flatMap_map]

theorem length_le_escaped (cs : List Char) : cs.length ≤ (escapedChars cs).length := by
  induction cs with
  | nil => exact Nat.le_refl 0
  | cons c cs ih =>
    have hpos : 1 ≤ (escapedChar c).toList.length := by
      unfold escapedChar
      split_ifs <;> simp [Char.toString]
    rw [escapedChars_cons, List.length_append, List.length_cons]
    omega

/-- A string in its notation is read as the string. -/
theorem stringAfterQuote_escaped (s : String) (rest : List Char) :
    stringAfterQuote (escapedChars s.toList ++ '"' :: rest) = (.ok s, .ok rest) := by
  have hlength : s.toList.length < (escapedChars s.toList ++ '"' :: rest).length + 1 := by
    have := length_le_escaped s.toList
    rw [List.length_append]
    omega
  rw [stringAfterQuote, stringParts_escaped _ _ hlength]
  simp only [joinParts_map_partOf, Except.map, String.ofList_toList]

/-! ## Values -/

/-- What follows the first part of a list: the other parts, each after a comma. -/
theorem intercalate_comma_cons (first : List Char) (others : List (List Char)) :
    [','].intercalate (first :: others) = first ++ others.flatMap (',' :: ·) := by
  induction others generalizing first with
  | nil => simp
  | cons other others ih =>
    rw [List.intercalate_cons_cons, ih, List.flatMap_cons, List.append_assoc]
    rfl

theorem toList_compact_array (items : List Json) :
    (compact (.array items)).toList =
      '[' :: ([','].intercalate (items.map fun item => item.compact.toList) ++ [']']) := by
  have hitems : compactItems items = items.map compact := by
    induction items with
    | nil => rfl
    | cons item rest ih => rw [compactItems, ih, List.map_cons]
  simp [compact, hitems, Text.joinWith, String.toList_intercalate, Function.comp_def]

/-- The notation of a field. -/
def fieldChars (field : String × Json) : List Char :=
  (stringNotation field.1).toList ++ ':' :: field.2.compact.toList

theorem toList_compact_object (fields : List (String × Json)) :
    (compact (.object fields)).toList = '{' :: ([','].intercalate (fields.map fieldChars) ++ ['}']) := by
  have hfields : compactFields fields =
      fields.map fun field => stringNotation field.1 ++ ":" ++ field.2.compact := by
    induction fields with
    | nil => rfl
    | cons field rest ih => rw [compactFields, ih, List.map_cons]
  simp [compact, hfields, Text.joinWith, String.toList_intercalate, Function.comp_def]
  rfl

theorem skipSeparators_cons {c : Char} (h : isSeparator c = false) (cs : List Char) :
    skipSeparators (c :: cs) = c :: cs := by
  rw [skipSeparators, List.dropWhile_cons, h]
  rfl

/-! ### Parts of lists -/

theorem itemParts_first {c : Char} {cs : List Char} (hc : isSeparator c = false) (hclose : c ≠ ']') (fuel : Nat) :
    itemParts (fuel + 1) true (c :: cs) = itemPart fuel (c :: cs) := by
  unfold itemParts
  rw [skipSeparators_cons hc]
  split
  · next heq => cases heq
  · next heq => exact absurd (List.cons.inj heq).1 hclose
  · rfl
  · next heq => cases heq
  · next heq _ _ _ => cases heq

theorem itemParts_next {c : Char} {cs : List Char} (hc : isSeparator c = false) (hclose : c ≠ ']') (fuel : Nat) :
    itemParts (fuel + 1) false (',' :: c :: cs) = itemPart fuel (c :: cs) := by
  unfold itemParts
  rw [skipSeparators_cons (by decide)]
  simp only [skipSeparators_cons hc]
  split
  · next heq => cases heq
  · next heq => exact absurd (List.cons.inj heq).1 hclose
  · rfl

theorem itemPart_eq {cs rest : List Char} {item : Document} {fuel : Nat}
    (h : documentPart fuel cs = (item, some rest)) :
    itemPart (fuel + 1) cs = (item :: (itemParts fuel false rest).1, (itemParts fuel false rest).2) := by
  rw [itemPart, h]

theorem fieldParts_first (cs : List Char) (fuel : Nat) :
    fieldParts (fuel + 1) true ('"' :: cs) = fieldPart fuel ('"' :: cs) := rfl

theorem fieldParts_next (cs : List Char) (fuel : Nat) :
    fieldParts (fuel + 1) false (',' :: '"' :: cs) = fieldPart fuel ('"' :: cs) := rfl

theorem fieldPart_eq {name : String} {cs rest : List Char} {value : Document} {fuel : Nat}
    (h : documentPart fuel cs = (value, some rest)) :
    fieldPart (fuel + 1) ((stringNotation name).toList ++ ':' :: cs) =
      ((.ok name, value) :: (fieldParts fuel false rest).1, (fieldParts fuel false rest).2) := by
  have hcolon : afterColon (':' :: cs) = .ok cs := rfl
  rw [toList_stringNotation, List.cons_append, List.append_assoc, List.singleton_append, fieldPart,
    stringAfterQuote_escaped]
  simp only [hcolon, h]

/-! ### Documents by their first character -/

/-- The letters of a word are read as what the word stands for. -/
theorem word_append (letters : List Char) (d : Document) (rest : List Char) :
    word letters d (letters ++ rest) = (d, some rest) := by
  induction letters with
  | nil => rw [List.nil_append, word]
  | cons letter letters ih => rw [List.cons_append, word, if_pos rfl, ih]

theorem documentPart_string (s : String) (rest : List Char) (fuel : Nat) :
    documentPart (fuel + 1) ((stringNotation s).toList ++ rest) = (.string (.ok s), some rest) := by
  rw [toList_stringNotation, List.cons_append, List.append_assoc, List.singleton_append, documentPart,
    skipSeparators_cons rfl]
  simp only [stringAfterQuote_escaped]

theorem documentPart_array (cs : List Char) (fuel : Nat) :
    documentPart (fuel + 1) ('[' :: cs) = (.array (itemParts fuel true cs).1, (itemParts fuel true cs).2) := rfl

theorem documentPart_object (cs : List Char) (fuel : Nat) :
    documentPart (fuel + 1) ('{' :: cs) = (.object (fieldParts fuel true cs).1, (fieldParts fuel true cs).2) := rfl

/-! ### The document of a notation -/

/-- The items of a list, each after a comma. -/
def furtherItems (items : List Json) : List Char := items.flatMap fun item => ',' :: item.compact.toList

/-- The fields of a list, each after a comma. -/
def furtherFields (fields : List (String × Json)) : List Char :=
  fields.flatMap fun field => ',' :: fieldChars field

theorem toList_compact_array_cons (item : Json) (items : List Json) :
    (compact (.array (item :: items))).toList = '[' :: (item.compact.toList ++ (furtherItems items ++ [']'])) := by
  rw [toList_compact_array, List.map_cons, intercalate_comma_cons, List.flatMap_map, furtherItems,
    List.append_assoc]

theorem toList_compact_object_cons (field : String × Json) (fields : List (String × Json)) :
    (compact (.object (field :: fields))).toList = '{' :: (fieldChars field ++ (furtherFields fields ++ ['}'])) := by
  rw [toList_compact_object, List.map_cons, intercalate_comma_cons, List.flatMap_map, furtherFields,
    List.append_assoc]

/-- The notation of a value is read as its document, whatever follows. Three calls for each character suffice. -/
structure IsReadBack (value : Json) : Prop where
  /-- The notation starts with a character that is neither a blank nor a closing bracket. -/
  starts : ∃ c cs, value.compact.toList = c :: cs ∧ isSeparator c = false ∧ c ≠ ']'
  read : ∀ fuel rest, 3 * value.compact.toList.length ≤ fuel →
    documentPart fuel (value.compact.toList ++ rest) = (value.document, some rest)

theorem IsReadBack.length_pos {value : Json} (h : value.IsReadBack) : 1 ≤ value.compact.toList.length := by
  obtain ⟨c, cs, hcs, -⟩ := h.starts
  rw [hcs]
  exact Nat.succ_pos _

/-- Values whose notation is read with some fuel left over are read back. -/
theorem isReadBack_of_succ {value : Json} {c : Char} {cs : List Char} (hcs : value.compact.toList = c :: cs)
    (hc : isSeparator c = false) (hclose : c ≠ ']')
    (h : ∀ fuel rest, 3 * cs.length + 2 ≤ fuel →
      documentPart (fuel + 1) (c :: (cs ++ rest)) = (value.document, some rest)) : value.IsReadBack := by
  refine ⟨⟨c, cs, hcs, hc, hclose⟩, fun fuel rest hfuel => ?_⟩
  rw [hcs, List.length_cons] at hfuel
  obtain ⟨fuel, rfl⟩ := Nat.exists_eq_succ_of_ne_zero (show fuel ≠ 0 by omega)
  rw [hcs]
  exact h fuel rest (by omega)

theorem isReadBack_null : IsReadBack .null :=
  isReadBack_of_succ rfl (by decide) (by decide) fun _ rest _ => word_append ['u', 'l', 'l'] .null rest

theorem isReadBack_bool : ∀ b, IsReadBack (.bool b)
  | false => isReadBack_of_succ rfl (by decide) (by decide) fun _ rest _ =>
      word_append ['a', 'l', 's', 'e'] (.bool false) rest
  | true => isReadBack_of_succ rfl (by decide) (by decide) fun _ rest _ =>
      word_append ['r', 'u', 'e'] (.bool true) rest

theorem isReadBack_string (s : String) : IsReadBack (.string s) := by
  refine isReadBack_of_succ (toList_stringNotation s) (by decide) (by decide) fun fuel rest _ => ?_
  rw [← List.cons_append, ← toList_stringNotation, documentPart_string, document]

/-- Items that are read back are read one after another. -/
theorem itemParts_further {items : List Json} (h : ∀ item ∈ items, item.IsReadBack) (rest : List Char) {fuel : Nat}
    (hfuel : 3 * (furtherItems items).length + 5 ≤ fuel) :
    itemParts fuel false (furtherItems items ++ ']' :: rest) = (documents items, some rest) := by
  induction items generalizing fuel with
  | nil =>
    obtain ⟨fuel, rfl⟩ := Nat.exists_eq_succ_of_ne_zero (show fuel ≠ 0 by omega)
    rfl
  | cons item items ih =>
    have hitem := h item List.mem_cons_self
    have hlength := hitem.length_pos
    obtain ⟨c, cs, hcs, hc, hclose⟩ := hitem.starts
    rw [furtherItems, List.flatMap_cons, List.length_append, List.length_cons, ← furtherItems] at hfuel
    obtain ⟨fuel, rfl⟩ : ∃ n, fuel = n + 2 := ⟨fuel - 2, by omega⟩
    have hread := hitem.read fuel (furtherItems items ++ ']' :: rest) (by omega)
    have hfurther := ih (fun item hmem => h item (List.mem_cons_of_mem _ hmem)) (show _ ≤ fuel by omega)
    rw [furtherItems, List.flatMap_cons, ← furtherItems, List.append_assoc]
    rw [hcs] at hread ⊢
    rw [List.cons_append, List.cons_append, itemParts_next hc hclose, ← List.cons_append, itemPart_eq hread,
      hfurther, documents]

/-- An array of values that are read back is read back. -/
theorem isReadBack_array {items : List Json} (h : ∀ item ∈ items, item.IsReadBack) : IsReadBack (.array items) := by
  cases items with
  | nil =>
    refine isReadBack_of_succ (toList_compact_array []) (by decide) (by decide) fun fuel rest hfuel => ?_
    obtain ⟨fuel, rfl⟩ := Nat.exists_eq_succ_of_ne_zero (show fuel ≠ 0 by omega)
    rfl
  | cons item items =>
    refine isReadBack_of_succ (toList_compact_array_cons item items) (by decide) (by decide)
      fun fuel rest hfuel => ?_
    have hitem := h item List.mem_cons_self
    have hlength := hitem.length_pos
    obtain ⟨c, cs, hcs, hc, hclose⟩ := hitem.starts
    simp only [List.length_append, List.length_singleton] at hfuel
    obtain ⟨fuel, rfl⟩ : ∃ n, fuel = n + 2 := ⟨fuel - 2, by omega⟩
    have hread := hitem.read fuel (furtherItems items ++ ']' :: rest) (by omega)
    have hfurther := itemParts_further (fun item hmem => h item (List.mem_cons_of_mem _ hmem)) rest
      (show _ ≤ fuel by omega)
    rw [documentPart_array, List.append_assoc, List.append_assoc, List.singleton_append]
    rw [hcs] at hread ⊢
    rw [List.cons_append, itemParts_first hc hclose, ← List.cons_append, itemPart_eq hread, hfurther, document,
      documents]

theorem fieldChars_eq (field : String × Json) (rest : List Char) : ∃ cs, fieldChars field ++ rest = '"' :: cs := by
  rw [fieldChars, toList_stringNotation]
  exact ⟨_, rfl⟩

/-- A field whose value is read back is read, and then those after it. -/
theorem fieldPart_fieldChars {field : String × Json} (h : field.2.IsReadBack) (rest : List Char) {fuel : Nat}
    (hfuel : 3 * (fieldChars field).length ≤ fuel) :
    fieldPart (fuel + 1) (fieldChars field ++ rest) =
      ((.ok field.1, field.2.document) :: (fieldParts fuel false rest).1, (fieldParts fuel false rest).2) := by
  rw [fieldChars, List.length_append, List.length_cons] at hfuel
  rw [fieldChars, List.append_assoc, List.cons_append]
  exact fieldPart_eq (h.read fuel rest (by omega))

/-- Fields whose values are read back are read one after another. -/
theorem fieldParts_further {fields : List (String × Json)} (h : ∀ field ∈ fields, field.2.IsReadBack)
    (rest : List Char) {fuel : Nat} (hfuel : 3 * (furtherFields fields).length + 5 ≤ fuel) :
    fieldParts fuel false (furtherFields fields ++ '}' :: rest) = (fieldDocuments fields, some rest) := by
  induction fields generalizing fuel with
  | nil =>
    obtain ⟨fuel, rfl⟩ := Nat.exists_eq_succ_of_ne_zero (show fuel ≠ 0 by omega)
    rfl
  | cons field fields ih =>
    rw [furtherFields, List.flatMap_cons, List.length_append, List.length_cons, ← furtherFields] at hfuel
    obtain ⟨fuel, rfl⟩ : ∃ n, fuel = n + 2 := ⟨fuel - 2, by omega⟩
    have hfurther := ih (fun field hmem => h field (List.mem_cons_of_mem _ hmem)) (show _ ≤ fuel by omega)
    have hread := fieldPart_fieldChars (h field List.mem_cons_self) (furtherFields fields ++ '}' :: rest)
      (show _ ≤ fuel by omega)
    rw [furtherFields, List.flatMap_cons, ← furtherFields, List.append_assoc, List.cons_append]
    obtain ⟨cs, hcs⟩ := fieldChars_eq field (furtherFields fields ++ '}' :: rest)
    rw [hcs] at hread ⊢
    rw [fieldParts_next, hread, hfurther, fieldDocuments]

/-- An object whose values are read back is read back. -/
theorem isReadBack_object {fields : List (String × Json)} (h : ∀ field ∈ fields, field.2.IsReadBack) :
    IsReadBack (.object fields) := by
  cases fields with
  | nil =>
    refine isReadBack_of_succ (toList_compact_object []) (by decide) (by decide) fun fuel rest hfuel => ?_
    obtain ⟨fuel, rfl⟩ := Nat.exists_eq_succ_of_ne_zero (show fuel ≠ 0 by omega)
    rfl
  | cons field fields =>
    refine isReadBack_of_succ (toList_compact_object_cons field fields) (by decide) (by decide)
      fun fuel rest hfuel => ?_
    have hlength : 1 ≤ (fieldChars field).length := by
      rw [fieldChars, List.length_append, List.length_cons]
      omega
    simp only [List.length_append, List.length_singleton] at hfuel
    obtain ⟨fuel, rfl⟩ : ∃ n, fuel = n + 2 := ⟨fuel - 2, by omega⟩
    have hfurther := fieldParts_further (fun field hmem => h field (List.mem_cons_of_mem _ hmem)) rest
      (show _ ≤ fuel by omega)
    have hread := fieldPart_fieldChars (h field List.mem_cons_self) (furtherFields fields ++ '}' :: rest)
      (show _ ≤ fuel by omega)
    rw [documentPart_object, List.append_assoc, List.append_assoc, List.singleton_append]
    obtain ⟨cs, hcs⟩ := fieldChars_eq field (furtherFields fields ++ '}' :: rest)
    rw [hcs] at hread ⊢
    rw [fieldParts_first, hread, hfurther, document, fieldDocuments]

mutual

/-- A value without numbers is read back. -/
theorem isReadBack_of_isNumberFree : ∀ value : Json, value.isNumberFree = true → value.IsReadBack
  | .null, _ => isReadBack_null
  | .bool b, _ => isReadBack_bool b
  | .string s, _ => isReadBack_string s
  | .array items, h => isReadBack_array (isReadBack_of_itemsNumberFree items h)
  | .object fields, h => isReadBack_object (isReadBack_of_fieldsNumberFree fields h)

theorem isReadBack_of_itemsNumberFree : ∀ items : List Json, itemsNumberFree items = true →
    ∀ item ∈ items, item.IsReadBack
  | [], _ => fun _ hmem => nomatch hmem
  | item :: items, h => by
    rw [itemsNumberFree, Bool.and_eq_true] at h
    rintro other (_ | ⟨_, hmem⟩)
    · exact isReadBack_of_isNumberFree item h.1
    · exact isReadBack_of_itemsNumberFree items h.2 other hmem

theorem isReadBack_of_fieldsNumberFree : ∀ fields : List (String × Json), fieldsNumberFree fields = true →
    ∀ field ∈ fields, field.2.IsReadBack
  | [], _ => fun _ hmem => nomatch hmem
  | (name, value) :: fields, h => by
    rw [fieldsNumberFree, Bool.and_eq_true] at h
    rintro other (_ | ⟨_, hmem⟩)
    · exact isReadBack_of_isNumberFree value h.1
    · exact isReadBack_of_fieldsNumberFree fields h.2 other hmem

end

/-- The notation of a value without numbers is a text with the document of the value and nothing after it. -/
theorem documentOf_compact {value : Json} (h : value.isNumberFree = true) :
    documentOf value.compact.toList = ⟨value.document, false⟩ := by
  have hread := (isReadBack_of_isNumberFree value h).read (3 * value.compact.toList.length + 3) [] (by omega)
  rw [List.append_nil] at hread
  rw [documentOf, hread]
  rfl

end EntityScaffold.Json
