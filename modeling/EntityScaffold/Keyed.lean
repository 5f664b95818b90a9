/-! # Entries under distinct names

A keyed collection holds at most one value under a name and lists its entries in ascending order of
the names. Inserting under a name that is taken replaces the value.
-/

namespace EntityScaffold

universe u

variable {α : Type u}

/-- Put a value under a name into a list whose names ascend. -/
def insertEntry (key : String) (value : α) : List (String × α) → List (String × α)
  | [] => [(key, value)]
  | (k, v) :: rest =>
    if key < k then (key, value) :: (k, v) :: rest
    else if k < key then (k, v) :: insertEntry key value rest
    else (key, value) :: rest

/-- Put entries in one after another; of two under one name the later stays. -/
def sortEntries (entries : List (String × α)) : List (String × α) :=
  entries.foldl (fun sorted (key, value) => insertEntry key value sorted) []

/-- The names of a list of entries ascend. -/
def Ascending (entries : List (String × α)) : Prop := entries.Pairwise fun a b => a.1 < b.1

theorem mem_insertEntry {key : String} {value : α} {e : String × α} :
    ∀ {entries : List (String × α)}, e ∈ insertEntry key value entries →
      e = (key, value) ∨ e ∈ entries
  | [], h => by simpa [insertEntry] using h
  | (k, v) :: rest, h => by
    unfold insertEntry at h
    split at h
    · simpa using h
    · split at h
      · rcases List.mem_cons.1 h with h | h
        · exact .inr (by simp [h])
        · rcases mem_insertEntry h with h | h
          · exact .inl h
          · exact .inr (by simp [h])
      · rcases List.mem_cons.1 h with h | h
        · exact .inl h
        · exact .inr (by simp [h])

theorem Ascending.insertEntry {key : String} {value : α} :
    ∀ {entries : List (String × α)}, Ascending entries →
      Ascending (EntityScaffold.insertEntry key value entries)
  | [], _ => by simp [EntityScaffold.insertEntry, Ascending]
  | (k, v) :: rest, h => by
    have hrest := List.pairwise_cons.1 h
    unfold EntityScaffold.insertEntry
    split
    · next hlt =>
      refine List.pairwise_cons.2 ⟨fun e he => ?_, h⟩
      rcases List.mem_cons.1 he with rfl | he
      · exact hlt
      · exact String.lt_trans hlt (hrest.1 e he)
    · next hge =>
      split
      · next hlt =>
        refine List.pairwise_cons.2 ⟨fun e he => ?_, Ascending.insertEntry hrest.2⟩
        rcases mem_insertEntry he with rfl | he
        · exact hlt
        · exact hrest.1 e he
      · next hle =>
        have heq : key = k := String.le_antisymm (String.not_lt.1 hle) (String.not_lt.1 hge)
        subst heq
        exact List.pairwise_cons.2 ⟨hrest.1, hrest.2⟩

/-- Values under distinct names, in ascending order of the names. -/
structure Keyed (α : Type u) where
  entries : List (String × α)
  ascending : Ascending entries

namespace Keyed

/-- No entries. -/
def empty : Keyed α := ⟨[], List.Pairwise.nil⟩

instance : Inhabited (Keyed α) := ⟨empty⟩

/-- Put a value under a name, in place of the one that was there. -/
def insert (m : Keyed α) (key : String) (value : α) : Keyed α :=
  ⟨insertEntry key value m.entries, m.ascending.insertEntry⟩

/-- The value under a name. -/
def get? (m : Keyed α) (key : String) : Option α := m.entries.lookup key

/-- Whether there is a value under a name. -/
def contains (m : Keyed α) (key : String) : Bool := (m.get? key).isSome

/-- The names in ascending order. -/
def keys (m : Keyed α) : List String := m.entries.map (·.1)

/-- The number of entries. -/
def size (m : Keyed α) : Nat := m.entries.length

/-- Whether there are no entries. -/
def isEmpty (m : Keyed α) : Bool := m.entries.isEmpty

/-- Insert entries in order; later ones win. -/
def insertAll (m : Keyed α) (entries : List (String × α)) : Keyed α :=
  entries.foldl (fun m (key, value) => m.insert key value) m

/-- The collection of the entries of a list; of two under one name the later stays. -/
def ofList (entries : List (String × α)) : Keyed α := empty.insertAll entries

theorem lookup_entry_cons (name key : String) (value : α) (rest : List (String × α)) :
    ((key, value) :: rest).lookup name = if name = key then some value else rest.lookup name := by
  by_cases h : name = key
  · simp [h]
  · have hb : (name == key) = false := by simpa using h
    simp [List.lookup_cons, h, hb]

theorem lookup_insertEntry (key : String) (value : α) (name : String) :
    ∀ entries : List (String × α),
      (insertEntry key value entries).lookup name =
        if name = key then some value else entries.lookup name
  | [] => by rw [insertEntry, lookup_entry_cons]
  | (k, v) :: rest => by
    unfold insertEntry
    split
    · rw [lookup_entry_cons]
    · next hge =>
      split
      · next hlt =>
        rw [lookup_entry_cons, lookup_insertEntry key value name rest, lookup_entry_cons]
        by_cases hk : name = k
        · have hne : name ≠ key := fun h => String.lt_irrefl k (by rwa [← h, hk] at hlt)
          rw [if_pos hk, if_neg hne, if_pos hk]
        · rw [if_neg hk, if_neg hk]
      · next hle =>
        have heq : key = k := String.le_antisymm (String.not_lt.1 hle) (String.not_lt.1 hge)
        subst heq
        rw [lookup_entry_cons, lookup_entry_cons]
        split <;> rfl

theorem get?_insert (m : Keyed α) (key : String) (value : α) (name : String) :
    (m.insert key value).get? name = if name = key then some value else m.get? name :=
  lookup_insertEntry key value name m.entries

@[simp] theorem get?_empty (name : String) : (empty : Keyed α).get? name = none := rfl

/-- Of the inserted entries the last one of a name counts, and then what was there. -/
theorem get?_insertAll (m : Keyed α) (entries : List (String × α)) (name : String) :
    (m.insertAll entries).get? name = (entries.reverse.lookup name).or (m.get? name) := by
  induction entries generalizing m with
  | nil => rfl
  | cons entry rest ih =>
    obtain ⟨key, value⟩ := entry
    have hrest : (m.insertAll ((key, value) :: rest)).get? name =
        ((m.insert key value).insertAll rest).get? name := rfl
    rw [hrest, ih, get?_insert, List.reverse_cons, List.lookup_append, Option.or_assoc,
      lookup_entry_cons]
    split <;> rfl

theorem entries_insertAll (m : Keyed α) (entries : List (String × α)) :
    (m.insertAll entries).entries =
      entries.foldl (fun sorted (key, value) => insertEntry key value sorted) m.entries := by
  induction entries generalizing m with
  | nil => rfl
  | cons entry rest ih => exact ih _

theorem lookup_sortEntries (entries : List (String × α)) (name : String) :
    (sortEntries entries).lookup name = entries.reverse.lookup name := by
  have h := get?_insertAll empty entries name
  rw [get?_empty, Option.or_none] at h
  rw [← h, get?, entries_insertAll]
  rfl

end Keyed

/-! ## Lists of entries -/

theorem lookup_of_mem {entries : List (String × α)} {name : String} {value : α}
    (hnames : (entries.map Prod.fst).Nodup) (h : (name, value) ∈ entries) :
    entries.lookup name = some value := by
  induction entries with
  | nil => cases h
  | cons entry rest ih =>
    obtain ⟨key, other⟩ := entry
    rw [List.map_cons, List.nodup_cons] at hnames
    rw [Keyed.lookup_entry_cons]
    rcases List.mem_cons.1 h with heq | hrest
    · cases heq
      exact if_pos rfl
    · have hne : name ≠ key := by
        rintro rfl
        exact hnames.1 (List.mem_map.2 ⟨_, hrest, rfl⟩)
      rw [if_neg hne]
      exact ih hnames.2 hrest

/-- A name that is found is one of the entries. -/
theorem mem_names_of_lookup {entries : List (String × α)} {name : String} {value : α}
    (h : entries.lookup name = some value) : name ∈ entries.map Prod.fst := by
  obtain ⟨before, after, rfl, -⟩ := List.lookup_eq_some_iff.1 h
  simp

theorem lookup_eq_none_of_notMem {entries : List (String × α)} {name : String}
    (h : name ∉ entries.map Prod.fst) : entries.lookup name = none :=
  Option.eq_none_iff_forall_ne_some.2 fun _ hvalue => h (mem_names_of_lookup hvalue)

end EntityScaffold
