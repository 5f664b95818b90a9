import EntityScaffold.Proofs.Template.Shapes
import EntityScaffold.Proofs.Template.Stack
import Mathlib.Data.List.Forall2

/-! # Values with and without a place

In a template of its own the data is at a place, and so is whatever is found in it. Where a block helper hands
the same data to a section, the values that are found there have no place. Otherwise nothing differs: two runs
that find the same values do the same side by side, whatever blocks are further outwards in one of them.
-/

namespace EntityScaffold

/-! ## Data -/

/-- Whatever is in the data is found by its place: lists can be counted, and no two fields of an object have one
name. -/
inductive Json.IsAddressable : Json → Prop
  | null : IsAddressable .null
  | bool (value : Bool) : IsAddressable (.bool value)
  | number (value : Number) : IsAddressable (.number value)
  | string (value : String) : IsAddressable (.string value)
  | array {items : List Json} : items.length ≤ Decimal.maxNatural64 → (∀ item ∈ items, item.IsAddressable) →
    IsAddressable (.array items)
  | object {fields : List (String × Json)} : (fields.map Prod.fst).Nodup →
    (∀ field ∈ fields, field.2.IsAddressable) → IsAddressable (.object fields)

namespace Json.IsAddressable

variable {data value : Json} {place : List String}

/-- What is found in such data is such data. -/
theorem of_follow (h : data.IsAddressable) (hfound : Template.follow (some data) place = .ok (some value)) :
    value.IsAddressable := by
  have hmissing : ∀ keys, Template.follow none keys = .ok none := by
    intro keys
    induction keys with
    | nil => rfl
    | cons key keys ih => exact ih
  induction place generalizing data with
  | nil =>
    cases hfound
    exact h
  | cons key keys ih =>
    cases h with
    | @array items _ hitems =>
      rw [Template.follow] at hfound
      split at hfound
      · next i _ =>
        cases hitem : items[i]? with
        | none =>
          rw [hitem, hmissing] at hfound
          cases hfound
        | some item =>
          rw [hitem] at hfound
          exact ih (hitems item (List.mem_of_getElem? hitem)) hfound
      · cases hfound
    | @object fields _ hfields =>
      rw [Template.follow] at hfound
      cases hfield : fields.lookup key with
      | none =>
        rw [hfield, hmissing] at hfound
        cases hfound
      | some field =>
        rw [hfield] at hfound
        obtain ⟨before, after, rfl, -⟩ := List.lookup_eq_some_iff.1 hfield
        exact ih (hfields (key, field) (List.mem_append_right _ List.mem_cons_self)) hfound
    | _ =>
      rw [Template.follow, hmissing] at hfound
      · cases hfound
      all_goals simp

/-- The turns of a repetition are for what is at their places. -/
theorem follow_turn (h : value.IsAddressable) {all : List Template.Invocation.Turn}
    (hturns : Template.Invocation.turns? value = some all) {turn : Template.Invocation.Turn} (hturn : turn ∈ all) :
    Template.follow (some value) [turn.step] = .ok (some turn.value) := by
  cases h with
  | @array items hlength _ =>
    cases hturns
    obtain ⟨⟨item, i⟩, hmem, rfl⟩ := List.mem_map.1 hturn
    have hitem : items[i]? = some item := List.mem_zipIdx_iff_getElem?.1 hmem
    have hlt : i < items.length := (List.getElem?_eq_some_iff.1 hitem).1
    exact (Template.follow_item (by omega)).trans (congrArg _ hitem)
  | @object fields hnames _ =>
    cases hturns
    obtain ⟨⟨key, field⟩, hmem, rfl⟩ := List.mem_map.1 hturn
    exact congrArg Except.ok (lookup_of_mem hnames hmem)
  | _ => cases hturns

end Json.IsAddressable

namespace Template

/-! ## Two runs side by side -/

namespace Render

variable {α β γ δ : Type} {V : α → β → Prop} {W : γ → δ → Prop} {R : Scope → Scope → Prop}
  {x : Render α} {y : Render β} {f : α → Render γ} {g : β → Render δ} {first second : Scope}

/-- Two runs end alike: both give values that are related or both fail in the same way, and the scopes that they
leave are related. -/
inductive Alike (V : α → β → Prop) (R : Scope → Scope → Prop) :
    Except Failure α × Scope → Except Failure β × Scope → Prop
  | ok {a : α} {b : β} {first second : Scope} : V a b → R first second → Alike V R (.ok a, first) (.ok b, second)
  | error {failure : Failure} {first second : Scope} : R first second →
    Alike V R (.error failure, first) (.error failure, second)

theorem Alike.scopes {result : Except Failure α × Scope} {other : Except Failure β × Scope}
    (halike : Alike V R result other) : R result.2 other.2 := by
  cases halike with
  | ok _ hrelated => exact hrelated
  | error hrelated => exact hrelated

theorem Alike.result_eq {result other : Except Failure α × Scope} (halike : Alike Eq R result other) :
    result.1 = other.1 := by
  cases halike with
  | ok hsame _ => rw [hsame]
  | error _ => rfl

theorem Alike.bind (halike : Alike V R (x first) (y second))
    (hnext : ∀ a b after later, x first = (.ok a, after) → y second = (.ok b, later) → V a b → R after later →
      Alike W R (f a after) (g b later)) : Alike W R ((x >>= f) first) ((y >>= g) second) := by
  rcases hx : x first with ⟨failure | a, after⟩ <;> rcases hy : y second with ⟨failure' | b, later⟩ <;>
    rw [hx, hy] at halike
  · cases halike with
    | error hrelated =>
      rw [bind_error hx, bind_error hy]
      exact .error hrelated
  · cases halike
  · cases halike
  · cases halike with
    | ok hsame hrelated =>
      rw [bind_ok hx, bind_ok hy]
      exact hnext a b after later hx hy hsame hrelated

theorem Alike.map {first' : α → γ} {second' : β → δ} (halike : Alike V R (x first) (y second))
    (hsame : ∀ a b, V a b → W (first' a) (second' b)) :
    Alike W R ((x >>= fun a => pure (first' a)) first) ((y >>= fun b => pure (second' b)) second) :=
  halike.bind fun a b _ _ _ _ hab hrelated => .ok (hsame a b hab) hrelated

theorem Alike.within {position : Option Position} {name : Option String} (halike : Alike V R (x first) (y second)) :
    Alike V R ((tryCatch x fun failure => throw (failure.within position name)) first)
      ((tryCatch y fun failure => throw (failure.within position name)) second) := by
  rw [run_within, run_within]
  cases hx : x first with
  | mk result after => cases hy : y second with
    | mk other later =>
      rw [hx, hy] at halike
      cases halike with
      | ok hsame hrelated => exact .ok hsame hrelated
      | error hrelated => exact .error hrelated

/-- What does not look at the scope ends alike if it gives the same. -/
theorem Alike.of_constant {x y : Render α} (hx : x.IsConstant) (hy : y.IsConstant) (hsame : x.result = y.result)
    (hrelated : R first second) : Alike Eq R (x first) (y second) := by
  rw [hx first, hy second, hsame]
  cases y.result with
  | ok a => exact .ok rfl hrelated
  | error failure => exact .error hrelated

end Render

open Render (Alike)

/-! ## Values -/

/-- A value at a place in the data, and the same value without a place. What else denotes a value denotes the same
value. -/
inductive Found.Rebased (data : Json) : Found → Found → Prop
  | missing : Rebased data .missing .missing
  | derived (value : Json) : Rebased data (.derived value) (.derived value)
  | located {value : Json} {place : List String} : follow (some data) place = .ok (some value) →
    Rebased data (.located value place) (.derived value)

/-- What a name is bound to in a block at a place: the value there, which the name in the other block is bound to,
or the same value. -/
inductive Bound.Rebased (data : Json) (place : List String) : Bound → Bound → Prop
  | value (value : Json) : Rebased data place (.value value) (.value value)
  | place {value : Json} : follow (some data) place = .ok (some value) →
    Rebased data place .place (.value value)

/-- A block and one that stands for the same value by itself, with the same names bound to the same values. -/
structure Block.Rebased (data : Json) (alone inner : Block) : Prop where
  value : ∃ value, inner.value = some value ∧ (alone.value = some value ∨
    alone.value = none ∧ follow (some data) alone.path = .ok (some value))
  bound : List.Forall₂ (fun entry other => entry.1 = other.1 ∧
    Bound.Rebased data alone.path entry.2 other.2) alone.bound inner.bound

/-- A scope, and one where the same values have no place and other blocks are further outwards. -/
structure Scope.Rebased (data : Json) (outer : List Block) (alone inner : Scope) : Prop where
  indent : inner.indent = alone.indent
  blocks : ∃ own, inner.blocks = own ++ outer ∧ List.Forall₂ (Block.Rebased data) alone.blocks own

/-- A value of its own has no place in either scope. -/
theorem Block.Rebased.ofValue {data : Json} (value : Json) : Block.Rebased data (.ofValue value) (.ofValue value) :=
  ⟨⟨value, rfl, .inl rfl⟩, .nil⟩

namespace Found.Rebased

variable {data : Json} {alone inner : Found}

theorem value_eq (h : alone.Rebased data inner) : alone.value = inner.value := by
  cases h <;> rfl

theorem path?_eq (h : alone.Rebased data inner) : inner.path? = none := by
  cases h <;> rfl

theorem follow_path (h : alone.Rebased data inner) {place : List String} (hplace : alone.path? = some place) :
    follow (some data) place = .ok (some alone.value) := by
  cases h with
  | missing => cases hplace
  | derived => cases hplace
  | located hfound =>
    cases hplace
    exact hfound

/-- The blocks of the two values. -/
theorem blockOf (h : alone.Rebased data inner) :
    Block.Rebased data (Invocation.blockOf alone) (Invocation.blockOf inner) := by
  cases h with
  | missing => exact .ofValue .null
  | derived value => exact .ofValue value
  | @located value _ hfound => exact ⟨⟨value, rfl, .inr ⟨rfl, hfound⟩⟩, .nil⟩

/-- What a name for the two values is bound to. -/
theorem boundValue (h : alone.Rebased data inner) {place : List String}
    (hplace : ∀ path, alone.path? = some path → path = place) :
    Bound.Rebased data place (Invocation.boundValue alone.path? alone.value)
      (Invocation.boundValue inner.path? inner.value) := by
  cases h with
  | missing => exact .value _
  | derived value => exact .value value
  | located hfound =>
    cases hplace _ rfl
    exact .place hfound

end Found.Rebased

/-! ## Lookups -/

section

variable {data : Json} {outer own blocks : List Block} {alone inner : Scope}

/-- What a name is bound to, looked up among related blocks and then further outwards. -/
theorem Scope.bound?_rebased (h : List.Forall₂ (Block.Rebased data) blocks own) (outer : List Block)
    (name : String) :
    (bound? name blocks = none ∧ bound? name (own ++ outer) = bound? name outer) ∨
    ∃ value place other, bound? name (own ++ outer) = some (.value value, other) ∧
      (bound? name blocks = some (.value value, place) ∨
        bound? name blocks = some (.place, place) ∧ follow (some data) place = .ok (some value)) := by
  induction h with
  | nil => exact .inl ⟨rfl, rfl⟩
  | @cons first second rest others hblock _ ih =>
    have hbound := hblock.bound
    rw [List.cons_append, bound?, bound?]
    generalize first.bound = entries at hbound
    generalize second.bound = entries' at hbound
    induction hbound with
    | nil => exact ih
    | @cons entry other _ _ hentry _ ihrest =>
      obtain ⟨key, bound⟩ := entry
      obtain ⟨key', bound'⟩ := other
      obtain ⟨rfl, hvalue⟩ := hentry
      rw [Keyed.lookup_entry_cons, Keyed.lookup_entry_cons]
      by_cases hname : name = key
      · rw [if_pos hname, if_pos hname]
        cases hvalue with
        | value value => exact .inr ⟨value, first.path, second.path, rfl, .inl rfl⟩
        | place hfound => exact .inr ⟨_, first.path, second.path, rfl, .inr ⟨rfl, hfound⟩⟩
      · rw [if_neg hname, if_neg hname]
        exact ihrest

theorem alike_ofExcept {α β : Type} {V : α → β → Prop} {R : Scope → Scope → Prop} {found : Except Cause α}
    {other : Except Cause β} (hrelated : R alone inner)
    (hsame : (∃ a b, found = .ok a ∧ other = .ok b ∧ V a b) ∨ ∃ cause, found = .error cause ∧ other = .error cause) :
    Alike V R (Render.ofExcept found alone) (Render.ofExcept other inner) := by
  rcases hsame with ⟨a, b, rfl, rfl, hab⟩ | ⟨cause, rfl, rfl⟩
  · exact .ok hab hrelated
  · exact .error hrelated

/-- Keys lead to the same value from a place and from the value there. -/
theorem locate_rebased {value : Json} {place : List String} (hfound : follow (some data) place = .ok (some value))
    (keys : List String) :
    (∃ a b, locate data (place ++ keys) = .ok a ∧ derive value keys = .ok b ∧ Found.Rebased data a b) ∨
      ∃ cause, locate data (place ++ keys) = .error cause ∧ derive value keys = .error cause := by
  have hsplit : follow (some data) (place ++ keys) = follow (some value) keys := by
    rw [follow_append, hfound]
    rfl
  rw [locate, derive, hsplit]
  cases hvalue : follow (some value) keys with
  | error cause => exact .inr ⟨cause, rfl, rfl⟩
  | ok result =>
    cases result with
    | none => exact .inl ⟨.missing, .missing, rfl, rfl, .missing⟩
    | some result => exact .inl ⟨_, _, rfl, rfl, .located (hsplit.trans hvalue)⟩

theorem derive_rebased (value : Json) (keys : List String) :
    (∃ a b, derive value keys = .ok a ∧ derive value keys = .ok b ∧ Found.Rebased data a b) ∨
      ∃ cause, derive value keys = .error cause ∧ derive value keys = .error cause := by
  rw [derive]
  cases follow (some value) keys with
  | error cause => exact .inr ⟨cause, rfl, rfl⟩
  | ok result =>
    cases result with
    | none => exact .inl ⟨.missing, .missing, rfl, rfl, .missing⟩
    | some result => exact .inl ⟨.derived result, .derived result, rfl, rfl, .derived result⟩

/-- Keys lead to the same value from related blocks. -/
theorem fromBlock_rebased {first second : Block} (h : first.Rebased data second) (whole : Json)
    (keys : List String) :
    (∃ a b, Scope.fromBlock data (some first) keys = .ok a ∧ Scope.fromBlock whole (some second) keys = .ok b ∧
      Found.Rebased data a b) ∨
    ∃ cause, Scope.fromBlock data (some first) keys = .error cause ∧
      Scope.fromBlock whole (some second) keys = .error cause := by
  obtain ⟨place, standing, locals, bound⟩ := first
  obtain ⟨place', standing', locals', bound'⟩ := second
  obtain ⟨value, rfl, rfl | ⟨rfl, hfound⟩⟩ := h.value
  · exact derive_rebased value keys
  · exact locate_rebased hfound keys

/-- A path that stays inside: it starts neither at the whole data nor further outwards nor at a name that is bound
further outwards, and it names no variable. -/
def Path.staysInside (enclosing : List String) (path : Path) : Bool :=
  !path.fromRoot && !path.isLocal && path.ups == 0 && path.keys.head?.all fun name => !enclosing.contains name

/-- The names that are bound further outwards are those that a text must not use, unless blocks of its own bind
them. There is a block of its own. -/
structure Scope.Covers (outer : List Block) (enclosing : List String) (scope : Scope) : Prop where
  nonempty : scope.blocks ≠ []
  names : ∀ name ∉ enclosing, bound? name scope.blocks = none → bound? name outer = none

theorem Scope.bound?_append_eq_none {name : String} {own blocks : List Block}
    (h : bound? name (own ++ blocks) = none) : bound? name blocks = none := by
  induction own with
  | nil => exact h
  | cons block rest ih =>
    rw [List.cons_append, bound?] at h
    split at h
    · cases h
    · exact ih h

theorem Scope.Covers.keeps {enclosing : List String} {after : Scope} (h : alone.Covers outer enclosing)
    (hkeeps : alone.KeepsBlocks after) : after.Covers outer enclosing := by
  obtain ⟨own, hblocks⟩ := hkeeps
  refine ⟨fun hempty => h.nonempty ?_, fun name hfree hunbound => h.names name hfree ?_⟩
  · rw [← hblocks, List.append_eq_nil_iff] at hempty
    exact hempty.2
  · rw [← hblocks] at hunbound
    exact bound?_append_eq_none hunbound

section

variable {scope : Scope} {source value : Json} {written name : String} {keys base : List String}

/-- A path whose first name is not bound starts in a block. -/
theorem Scope.lookupData_of_free (h : Scope.bound? name scope.blocks = none) :
    scope.lookupData source ⟨written, false, false, 0, name :: keys⟩ =
      Scope.fromBlock source (scope.blocks[0]?.or scope.blocks.head?) (name :: keys) := by
  simp only [Scope.lookupData, Bool.false_eq_true, if_false, List.head?_cons, Option.bind_some, h]

/-- A path whose first name is bound to a value starts there. -/
theorem Scope.lookupData_of_value (h : Scope.bound? name scope.blocks = some (.value value, base)) :
    scope.lookupData source ⟨written, false, false, 0, name :: keys⟩ = derive value keys := by
  simp only [Scope.lookupData, Bool.false_eq_true, if_false, List.head?_cons, Option.bind_some, h]
  rfl

/-- A path whose first name is bound to a place in the data starts there. -/
theorem Scope.lookupData_of_place (h : Scope.bound? name scope.blocks = some (.place, base)) :
    scope.lookupData source ⟨written, false, false, 0, name :: keys⟩ = locate source (base ++ keys) := by
  simp only [Scope.lookupData, Bool.false_eq_true, if_false, List.head?_cons, Option.bind_some, h]
  rfl

end

/-- A path that stays inside denotes the same value. -/
theorem lookup_rebased {path : Path} {enclosing : List String} (hinside : path.staysInside enclosing = true)
    (hcovers : alone.Covers outer enclosing) (h : alone.Rebased data outer inner) (whole : Json) :
    (∃ a b, alone.lookup data path = .ok a ∧ inner.lookup whole path = .ok b ∧ Found.Rebased data a b) ∨
      ∃ cause, alone.lookup data path = .error cause ∧ inner.lookup whole path = .error cause := by
  obtain ⟨written, fromRoot, isLocal, ups, keys⟩ := path
  simp only [Path.staysInside, Bool.and_eq_true, Bool.not_eq_true', beq_iff_eq] at hinside
  obtain ⟨⟨⟨rfl, rfl⟩, rfl⟩, hnames⟩ := hinside
  obtain ⟨own, hblocks, hrelated⟩ := h.blocks
  have hfrom : (∃ a b, Scope.fromBlock data (alone.blocks[0]?.or alone.blocks.head?) keys = .ok a ∧
      Scope.fromBlock whole (inner.blocks[0]?.or inner.blocks.head?) keys = .ok b ∧ Found.Rebased data a b) ∨
      ∃ cause, Scope.fromBlock data (alone.blocks[0]?.or alone.blocks.head?) keys = .error cause ∧
        Scope.fromBlock whole (inner.blocks[0]?.or inner.blocks.head?) keys = .error cause := by
    have hnonempty := hcovers.nonempty
    rw [hblocks]
    generalize alone.blocks = blocks at hrelated hnonempty
    cases hrelated with
    | nil => exact absurd rfl hnonempty
    | cons hfirst _ => exact fromBlock_rebased hfirst whole keys
  cases keys with
  | nil => exact hfrom
  | cons name keys =>
    have hlookup (scope : Scope) (source : Json) : scope.lookup source ⟨written, false, false, 0, name :: keys⟩ =
        scope.lookupData source ⟨written, false, false, 0, name :: keys⟩ := rfl
    rw [hlookup, hlookup]
    rcases Scope.bound?_rebased hrelated outer name with ⟨hnone, houter⟩ | ⟨value, place, other, hsome, hvalue⟩
    · have hfree : name ∉ enclosing := by simpa using hnames
      have hnone' : Scope.bound? name inner.blocks = none := by
        rw [hblocks, houter, hcovers.names name hfree hnone]
      rw [Scope.lookupData_of_free hnone, Scope.lookupData_of_free hnone']
      exact hfrom
    · rw [← hblocks] at hsome
      rw [Scope.lookupData_of_value hsome]
      rcases hvalue with hvalue | ⟨hplace, hfound⟩
      · rw [Scope.lookupData_of_value hvalue]
        exact derive_rebased value keys
      · rw [Scope.lookupData_of_place hplace]
        exact locate_rebased hfound keys

theorem Path.alike_eval (env : Environment) {path : Path} {enclosing : List String}
    (hinside : path.staysInside enclosing = true) (hcovers : alone.Covers outer enclosing)
    (h : alone.Rebased env.data outer inner) (other : Environment) :
    Alike (Found.Rebased env.data) (Scope.Rebased env.data outer) (path.eval env alone) (path.eval other inner) :=
  alike_ofExcept h (lookup_rebased hinside hcovers h other.data)

end

/-! ## Moving between blocks -/

namespace Scope.Rebased

variable {data : Json} {outer : List Block} {alone inner : Scope}

theorem current (h : alone.Rebased data outer inner) (first second : Option String) :
    Rebased data outer { alone with current := first } { inner with current := second } :=
  ⟨h.indent, h.blocks⟩

theorem push (h : alone.Rebased data outer inner) {block other : Block} (hblock : block.Rebased data other) :
    (alone.push block).Rebased data outer (inner.push other) := by
  obtain ⟨own, hblocks, hrelated⟩ := h.blocks
  refine ⟨h.indent, other :: own, ?_, .cons hblock hrelated⟩
  change other :: inner.blocks = other :: own ++ outer
  rw [hblocks, List.cons_append]

theorem pop (h : alone.Rebased data outer inner) (hnonempty : alone.blocks ≠ []) :
    alone.pop.Rebased data outer inner.pop := by
  obtain ⟨own, hblocks, hrelated⟩ := h.blocks
  refine ⟨h.indent, own.tail, ?_, ?_⟩
  · change inner.blocks.tail = own.tail ++ outer
    rw [hblocks]
    cases own with
    | nil =>
      cases hempty : alone.blocks with
      | nil => exact absurd hempty hnonempty
      | cons block rest =>
        rw [hempty] at hrelated
        cases hrelated
    | cons block rest => rfl
  · change List.Forall₂ _ alone.blocks.tail own.tail
    generalize alone.blocks = blocks at hrelated
    cases hrelated with
    | nil => exact .nil
    | cons _ hrest => exact hrest

theorem updateBlock (h : alone.Rebased data outer inner) {first : Block → Block} (second : Block → Block)
    {block : Block} {below : List Block} (hblocks : alone.blocks = block :: below)
    (hupdated : ∀ other, block.Rebased data other → (first block).Rebased data (second other)) :
    (alone.updateBlock first).Rebased data outer (inner.updateBlock second) := by
  obtain ⟨own, hinner, hrelated⟩ := h.blocks
  rw [hblocks] at hrelated
  cases hrelated with
  | @cons _ other _ rest hfirst hrest =>
    unfold Scope.updateBlock
    rw [hblocks, hinner]
    exact ⟨h.indent, second other :: rest, rfl, .cons (hupdated other hfirst) hrest⟩

end Scope.Rebased

/-! ## Turns -/

/-- The names that are bound in the turns of a repetition. -/
def Binders.names : Binders → List String
  | .none => []
  | .one value => [value]
  | .two value place => [value, place]

/-- The name that is bound to a single value. -/
def Binders.single : Binders → List String
  | .one value => [value]
  | _ => []

/-- The names that a call of a name binds around its section. -/
def Binders.boundBy (binders : Binders) (name : String) : List String :=
  if name = "each" then binders.names else if name = "with" then binders.single else []

/-- The block of a repetition between its turns: it stands for an item, once there was one, and binds nothing by
itself. -/
structure Block.Turns (binders : Binders) (base : Option (List String)) (isFirst : Bool) (block : Block) :
    Prop where
  bound : binders = .none → block.bound = []
  place : ∀ path, base = some path → block.value = none ∧
    if isFirst then block.path = path else ∃ step, block.path = path ++ [step]

namespace Invocation.Turn

variable {data : Json} {turn : Turn} {binders : Binders} {base : Option (List String)} {isFirst isLast : Bool}
  {block other : Block}

theorem bound_enter : (turn.enter binders base isFirst isLast block).bound =
    if binders = .none then block.bound else boundNames binders base turn.place turn.value := by
  have hmoved : ∀ block : Block, (moveTo base isFirst turn.step turn.value block).bound = block.bound := by
    intro block
    unfold moveTo
    cases base with
    | none => rfl
    | some path =>
      dsimp only
      split
      · rfl
      · split <;> rfl
  unfold enter
  cases binders with
  | none => exact hmoved _
  | one name => rfl
  | two name placeName => rfl

theorem path_enter {path : List String} (hturns : block.Turns binders (some path) isFirst) :
    (turn.enter binders (some path) isFirst isLast block).path = path ++ [turn.step] ∧
      (turn.enter binders (some path) isFirst isLast block).value = none := by
  obtain ⟨place, value, locals, bound⟩ := block
  obtain ⟨hvalue, hplace⟩ := hturns.place path rfl
  cases hvalue
  cases isFirst with
  | true =>
    cases hplace
    cases binders <;> exact ⟨rfl, rfl⟩
  | false =>
    obtain ⟨step, rfl⟩ := hplace
    cases binders <;> simp [enter, moveTo, Block.setLocal]

theorem value_enter : (turn.enter binders none isFirst isLast block).value = some turn.value := by
  cases binders <;> rfl

/-- The names of a turn are bound to its place and to the same value. -/
theorem rebased_boundNames {place : List String}
    (hfound : base.isSome = true → follow (some data) place = .ok (some turn.value)) :
    List.Forall₂ (fun entry other => entry.1 = other.1 ∧ Bound.Rebased data place entry.2 other.2)
      (boundNames binders base turn.place turn.value) (boundNames binders none turn.place turn.value) := by
  have hvalue : Bound.Rebased data place (boundValue base turn.value) (boundValue none turn.value) := by
    cases base with
    | none => exact .value _
    | some path => exact .place (hfound rfl)
  cases binders with
  | none => exact .nil
  | one name => exact .cons ⟨rfl, hvalue⟩ .nil
  | two name placeName =>
    unfold boundNames insertEntry
    dsimp only
    split
    · exact .cons ⟨rfl, .value _⟩ (.cons ⟨rfl, hvalue⟩ .nil)
    · split
      · exact .cons ⟨rfl, hvalue⟩ (.cons ⟨rfl, .value _⟩ .nil)
      · exact .cons ⟨rfl, .value _⟩ .nil

/-- A turn moves both blocks to the same item. -/
theorem rebased_enter (hturns : block.Turns binders base isFirst) (hrelated : block.Rebased data other)
    (hfound : ∀ path, base = some path → follow (some data) (path ++ [turn.step]) = .ok (some turn.value)) :
    (turn.enter binders base isFirst isLast block).Rebased data
      (turn.enter binders none isFirst isLast other) := by
  have hplace : ∀ path, base = some path →
      (turn.enter binders base isFirst isLast block).path = path ++ [turn.step] ∧
        (turn.enter binders base isFirst isLast block).value = none := by
    rintro path rfl
    exact path_enter hturns
  refine ⟨⟨turn.value, value_enter, ?_⟩, ?_⟩
  · cases base with
    | none => exact .inl value_enter
    | some path =>
      obtain ⟨hpath, hvalue⟩ := hplace path rfl
      refine .inr ⟨hvalue, ?_⟩
      rw [hpath]
      exact hfound path rfl
  · rw [bound_enter, bound_enter]
    split
    · next hnone =>
      have hbound := hrelated.bound
      rw [hturns.bound hnone] at hbound ⊢
      rw [List.forall₂_nil_left_iff.1 hbound]
      exact .nil
    · refine rebased_boundNames fun hsome => ?_
      obtain ⟨path, hpath⟩ := Option.isSome_iff_exists.1 hsome
      rw [(hplace path hpath).1]
      exact hfound path hpath

theorem turns_enter (hturns : block.Turns binders base isFirst) :
    (turn.enter binders base isFirst isLast block).Turns binders base false := by
  refine ⟨fun hnone => ?_, ?_⟩
  · rw [bound_enter, if_pos hnone]
    exact hturns.bound hnone
  · rintro path rfl
    obtain ⟨hpath, hvalue⟩ : (turn.enter binders (some path) isFirst isLast block).path = path ++ [turn.step] ∧
        (turn.enter binders (some path) isFirst isLast block).value = none := path_enter hturns
    exact ⟨hvalue, turn.step, hpath⟩

/-- The names of a repetition are bound in its turns. -/
theorem isSome_bound_enter {name : String} (hname : name ∈ binders.names) :
    ((turn.enter binders base isFirst isLast block).bound.lookup name).isSome = true := by
  rw [bound_enter]
  cases binders with
  | none => cases hname
  | one value =>
    rw [if_neg (by simp), List.mem_singleton.1 hname, boundNames, Keyed.lookup_entry_cons, if_pos rfl]
    rfl
  | two value place =>
    rw [if_neg (by simp), boundNames, Keyed.lookup_insertEntry]
    split
    · rfl
    · next hother =>
      rcases List.mem_cons.1 hname with rfl | hplace
      · rw [Keyed.lookup_entry_cons, if_pos rfl]
        rfl
      · exact absurd (List.mem_singleton.1 hplace) hother

end Invocation.Turn

end Template

end EntityScaffold
