import EntityScaffold.Template.Scope

/-! # Shapes of data

A shape says which fields and items a value has at least. Where a value has a shape, every path that the
shape knows leads to a value: fields are found by their names, and items by their places written as numbers.
-/

namespace EntityScaffold

/-! ## Numbers as keys -/

namespace Decimal

theorem isDigit_of_mem_toString {n : Nat} {c : Char} (h : c ∈ (toString n).toList) :
    c.isDigit = true := by
  rw [Nat.toString_eq_repr, Nat.toList_repr] at h
  exact Nat.isDigit_of_mem_toDigits (by decide) (by decide) h

theorem digitsNumber_toString (n : Nat) : digitsNumber (toString n).toList = n := by
  rw [Nat.toString_eq_repr, Nat.toList_repr]
  exact Nat.ofDigitChars_toDigits (by decide) (by decide)

/-- A number of 64 bits can be read back from its text. -/
theorem natural64?_toString {n : Nat} (h : n ≤ maxNatural64) :
    natural64? (toString n).toList = some n := by
  have hnil : (toString n).toList ≠ [] := by
    rw [Nat.toString_eq_repr, Nat.toList_repr]
    exact Nat.toDigits_ne_nil
  have hdigits : (toString n).toList.all Char.isDigit = true :=
    List.all_eq_true.2 fun c hc => isDigit_of_mem_toString hc
  have hnumber := digitsNumber_toString n
  unfold natural64?
  cases hs : (toString n).toList with
  | nil => exact absurd hs hnil
  | cons c rest =>
    rw [hs] at hdigits hnumber
    have hplus : c ≠ '+' := by
      rintro rfl
      exact absurd (List.all_eq_true.1 hdigits '+' List.mem_cons_self) (by decide)
    split
    · next heq => exact absurd (List.cons.inj heq).1 hplus
    · simp only [hdigits, hnumber, if_pos h, List.isEmpty_cons, Bool.not_true, Bool.or_self,
        Bool.false_eq_true, if_false]

end Decimal

namespace Template

/-! ## Shapes -/

/-- What is known of a value. -/
inductive Shape where
  | any
  /-- An object that has at least some fields. -/
  | object (fields : List (String × Shape))
  /-- An array whose items have a shape. -/
  | list (item : Shape)

namespace Shape

/-- A value has a shape. The items of an array are as many as a machine can count. -/
inductive Holds : Shape → Json → Prop
  | any {value : Json} : any.Holds value
  | object {shapes : List (String × Shape)} {fields : List (String × Json)} :
    (∀ entry ∈ shapes, (fields.lookup entry.1).isSome = true) →
      (∀ entry ∈ shapes, ∀ value, fields.lookup entry.1 = some value → entry.2.Holds value) →
        (object shapes).Holds (.object fields)
  | list {item : Shape} {items : List Json} : items.length ≤ Decimal.maxNatural64 →
    (∀ value ∈ items, item.Holds value) → (list item).Holds (.array items)

/-- An object that is made of a list of fields has the fields that are last under their names. -/
theorem Holds.ofFields {shapes : List (String × Shape)} {fields : List (String × Json)}
    (h : ∀ entry ∈ shapes, ∃ value, fields.reverse.lookup entry.1 = some value ∧ entry.2.Holds value) :
    (Shape.object shapes).Holds (.ofFields fields) := by
  refine .object (fun entry he => ?_) fun entry he value hvalue => ?_
  · obtain ⟨value, hvalue, -⟩ := h entry he
    rw [Keyed.lookup_sortEntries, hvalue]
    rfl
  · obtain ⟨found, hfound, hholds⟩ := h entry he
    rw [Keyed.lookup_sortEntries, hfound] at hvalue
    cases hvalue
    exact hholds

/-- The shape of what names lead to. -/
def follow : Shape → List String → Option Shape
  | shape, [] => some shape
  | .object fields, key :: keys => (fields.lookup key).bind (follow · keys)
  | .any, _ :: _ | .list _, _ :: _ => none

end Shape

/-! ## Following paths -/

/-- Keys can be followed in two parts. -/
theorem follow_append (value : Option Json) (keys more : List String) :
    follow value (keys ++ more) = (follow value keys).bind (follow · more) := by
  induction keys generalizing value with
  | nil => rfl
  | cons key keys ih =>
    rw [List.cons_append]
    rcases value with _ | value
    · exact ih none
    · cases value with
      | array items =>
        rw [follow, follow]
        split
        · exact ih _
        · rfl
      | object fields => exact ih (fields.lookup key)
      | _ => exact ih none

/-- The item at a place is found by the place. -/
theorem follow_item {items : List Json} {i : Nat} (h : i ≤ Decimal.maxNatural64) :
    follow (some (.array items)) [toString i] = .ok items[i]? := by
  rw [follow, Decimal.natural64?_toString h]
  rfl

namespace Shape

variable {shape inner : Shape} {value : Json} {keys : List String}

/-- Where a value has a shape, the paths of the shape lead to values of their shapes. -/
theorem Holds.follow (h : shape.Holds value) (hf : shape.follow keys = some inner) :
    ∃ found, Template.follow (some value) keys = .ok (some found) ∧ inner.Holds found := by
  induction keys generalizing shape value with
  | nil =>
    cases hf
    exact ⟨value, rfl, h⟩
  | cons key keys ih =>
    cases h with
    | any => cases hf
    | list => cases hf
    | @object shapes fields hpresent hfields =>
      obtain ⟨field, hlookup, hrest⟩ := Option.bind_eq_some_iff.1 hf
      have hentry : (key, field) ∈ shapes := by
        obtain ⟨before, after, rfl, -⟩ := List.lookup_eq_some_iff.1 hlookup
        exact List.mem_append_right _ List.mem_cons_self
      obtain ⟨found, hfound⟩ := Option.isSome_iff_exists.1 (hpresent _ hentry)
      rw [Template.follow, hfound]
      exact ih (hfields _ hentry found hfound) hrest

/-- Where a list is, its items are found by their places. -/
theorem Holds.item {item : Shape} {items : List Json} (h : (Shape.list item).Holds (.array items)) {i : Nat}
    (hi : items[i]? = some value) :
    Template.follow (some (.array items)) [toString i] = .ok (some value) ∧ item.Holds value := by
  cases h with
  | list hlength hitems =>
    have hlt : i < items.length := (List.getElem?_eq_some_iff.1 hi).1
    refine ⟨?_, hitems value (List.mem_of_getElem? hi)⟩
    rw [follow_item (Nat.le_trans (Nat.le_of_lt hlt) hlength), hi]

end Shape

end Template

end EntityScaffold
