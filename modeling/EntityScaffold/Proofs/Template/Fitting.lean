import EntityScaffold.Proofs.Template.Evaluation
import EntityScaffold.Proofs.Template.Shapes
import EntityScaffold.Helper.Spaces

/-! # Templates that fit a shape

A template fits a shape if it prints, asks for and repeats only what a value of the shape has, and includes
only templates that fit. Where a value of the shape is the current one, all that such a template asks for is
there. Templates that use anything but printed values, spaces, conditions, repetitions and inclusions are not
said to fit.
-/

namespace EntityScaffold.Template

/-! ## Fitting -/

/-- The shape of what a path leads to. Paths that go outwards, start at the whole data or name a variable
are not followed. -/
def Path.shape? (path : Path) (shape : Shape) : Option Shape :=
  if path.fromRoot || path.isLocal || path.ups != 0 then none else shape.follow path.keys

/-- Whether a name is a call where helpers are registered under some names. -/
def isCallName (helpers : List String) (name : String) : Bool :=
  Environment.ownNames.contains name || name == "helperMissing" || helpers.contains name ||
    (Operator.named? name).isSome

/-- What a block does with its section. -/
inductive SectionUse where
  /-- It is rendered if a value is true, else the alternative is. -/
  | condition
  /-- It is rendered once for each item. -/
  | repetition (item : Shape)

namespace Call

/-- A tag prints a value that is there, or spaces. -/
def prints (helpers : List String) (shape : Shape) : Call → Bool
  | .mk (.path path) [] [] => !isCallName helpers path.written && (path.shape? shape).isSome
  | .mk (.word name) [.literal count] [] => name == spacesName && (spacesCount? count).any (· ≤ maxSpaces)
  | _ => false

/-- What a block does with its section where a value of a shape is the current one. -/
def sectionUse? (shape : Shape) : Call → Option SectionUse
  | .mk (.word "if") [.path path] [] => (path.shape? shape).map fun _ => .condition
  | .mk (.word "each") [.path path] [] => match path.shape? shape with
    | some (.list item) => some (.repetition item)
    | _ => none
  | _ => none

/-- The template that an inclusion without arguments names. -/
def included? : Call → Option String
  | .mk (.word name) [] [] => some name
  | _ => none

end Call

section

variable (helpers : List String) (included : String → Shape → Bool)

mutual

/-- An element of a template with a title fits. `included` says which named templates do. -/
def Element.fits (title : Option String) (shape : Shape) : Element → Bool
  | .text _ => true
  | .expression call => call.prints helpers shape
  | .block call .none body inverse => match call.sectionUse? shape with
    | some .condition => body.fits none shape && inverse.fits shape
    | some (.repetition item) => body.fits none item && !inverse.isPresent
    | none => false
  | .inclusion call _ .absent => match call.included? with
    | some name => title != some name && name != sectionName && included name shape
    | none => false
  | _ => false

/-- All elements of a section fit. -/
def Body.fits (title : Option String) (shape : Shape) : Body → Bool
  | .nil => true
  | .cons _ element rest => element.fits title shape && rest.fits title shape

/-- A section fits if there is one. -/
def Branch.fits (shape : Shape) : Branch → Bool
  | .absent => true
  | .present body => body.fits none shape

end

/-- A named template fits, with inclusions nested at most to a depth. -/
def fitsNamed (templates : List (String × Body)) : Nat → String → Shape → Bool
  | 0, _, _ => false
  | depth + 1, name, shape => (templates.lookup name).any fun body =>
    body.fits helpers (fitsNamed templates depth) (some name) shape

end

/-! ## Scopes of a shape -/

/-- The value that keys lead to, or null. -/
def valueAt (value : Json) (keys : List String) : Json :=
  match follow (some value) keys with
  | .ok (some found) => found
  | _ => .null

/-- Where a value has a shape, the paths of the shape lead to values of their shapes. -/
theorem Shape.Holds.valueAt {shape inner : Shape} {value : Json} {keys : List String} (h : shape.Holds value)
    (hf : shape.follow keys = some inner) :
    Template.follow (some value) keys = .ok (some (Template.valueAt value keys)) ∧
      inner.Holds (Template.valueAt value keys) := by
  obtain ⟨found, hfound, hinner⟩ := h.follow hf
  have heq : Template.valueAt value keys = found := by rw [Template.valueAt, hfound]
  rw [heq]
  exact ⟨hfound, hinner⟩

/-- The scope while the elements of another template are rendered. -/
def Scope.titled (scope : Scope) (title : Option String) : Scope := { scope with current := title }

/-- A scope for the elements of a template with a title: a value of the shape is the current one, at a
place in the data, no names are bound, and no sections are named. -/
structure Scope.Stands (data : Json) (title : Option String) (shape : Shape) (value : Json) (scope : Scope) :
    Prop where
  place : ∃ block outer, scope.blocks = block :: outer ∧ block.value = none ∧
    follow (some data) block.path = .ok (some value)
  holds : shape.Holds value
  unbound : ∀ block ∈ scope.blocks, block.bound = []
  unnamed : scope.inlined = []
  current : scope.current = none ∨ scope.current = title

namespace Scope

variable {data value : Json} {title : Option String} {shape : Shape} {scope : Scope}

theorem stands_start (h : shape.Holds data) (title : Option String) : start.Stands data title shape data :=
  ⟨⟨.ofPath [], [], rfl, rfl, rfl⟩, h, by simp [start, Block.ofPath], rfl, .inl rfl⟩

theorem Stands.after {current : Option String} (h : scope.Stands data title shape value)
    (hcurrent : current = none ∨ current = scope.current) :
    (scope.titled current).Stands data title shape value := by
  refine ⟨h.place, h.holds, h.unbound, h.unnamed, ?_⟩
  rcases hcurrent with rfl | rfl
  · exact .inl rfl
  · exact h.current

/-- Wherever a template stands, another can. -/
theorem Stands.retitle (h : scope.Stands data title shape value) (other : Option String) :
    (scope.titled other).Stands data other shape value :=
  ⟨h.place, h.holds, h.unbound, h.unnamed, .inr rfl⟩

theorem bound?_eq_none {name : String} {blocks : List Block} (h : ∀ block ∈ blocks, block.bound = []) :
    bound? name blocks = none := by
  induction blocks with
  | nil => rfl
  | cons block rest ih =>
    rw [bound?, h block List.mem_cons_self]
    exact ih fun other ho => h other (List.mem_cons_of_mem _ ho)

/-- A path that the shape knows leads to a place in the data, where a value of its shape is. -/
theorem Stands.lookup {path : Path} {inner : Shape} (h : scope.Stands data title shape value)
    (hp : path.shape? shape = some inner) : ∃ place,
      scope.lookup data path = .ok (.located (valueAt value path.keys) place) ∧
        follow (some data) place = .ok (some (valueAt value path.keys)) ∧
        inner.Holds (valueAt value path.keys) := by
  obtain ⟨block, outer, hblocks, hvalue, hfollow⟩ := h.place
  unfold Path.shape? at hp
  split at hp
  · cases hp
  next hplain =>
    rw [Bool.not_eq_true, Bool.or_eq_false_iff, Bool.or_eq_false_iff, bne_eq_false_iff_eq] at hplain
    obtain ⟨⟨hroot, hlocal⟩, hups⟩ := hplain
    obtain ⟨hfound, hinner⟩ := h.holds.valueAt hp
    have hplace : follow (some data) (block.path ++ path.keys) = .ok (some (valueAt value path.keys)) := by
      rw [follow_append, hfollow]
      exact hfound
    have hbound : path.keys.head?.bind (bound? · scope.blocks) = none := by
      cases path.keys.head? with
      | none => rfl
      | some name => exact bound?_eq_none h.unbound
    have hdata : scope.lookupData data path = fromBlock data (some block) path.keys := by
      rw [lookupData, hroot, if_neg Bool.false_ne_true, hbound, hups, hblocks]
      rfl
    refine ⟨block.path ++ path.keys, ?_, hplace, hinner⟩
    rw [Scope.lookup, hlocal, Bool.false_and]
    dsimp only
    rw [hdata]
    obtain ⟨place, _, locals, bound⟩ := block
    cases hvalue
    rw [fromBlock, locate, hplace]
    rfl

/-- A section in the block of an item stands where the item is. -/
theorem Stands.item {items : List Json} {place : List String} {item : Shape} {i : Nat} {found : Json}
    {locals : List (String × Json)} {current : Option String} (h : scope.Stands data title shape value)
    (hplace : follow (some data) place = .ok (some (.array items)))
    (hitems : (Shape.list item).Holds (.array items)) (hi : items[i]? = some found)
    (hcurrent : current = none ∨ current = scope.current) :
    ((scope.titled current).push ⟨place ++ [toString i], none, locals, []⟩).Stands data title item found := by
  obtain ⟨hfollow, hfound⟩ := hitems.item hi
  refine ⟨⟨_, scope.blocks, rfl, rfl, ?_⟩, hfound, ?_, h.unnamed, (h.after hcurrent).current⟩
  · rw [follow_append, hplace]
    exact hfollow
  · intro block hb
    rcases List.mem_cons.1 hb with rfl | hb
    · rfl
    · exact h.unbound block hb

end Scope

/-! ## Environments -/

/-- What a template relies on: helpers under the given names alone, the helper that writes spaces, and
templates under their names. -/
structure Environment.Provides (env : Environment) (helpers : List String)
    (templates : List (String × Body)) : Prop where
  registered : ∀ name, env.isRegistered name = true → name ∈ helpers
  spaces : env.inline.lookup spacesName = some spaces
  templates : ∀ name body, templates.lookup name = some body → env.templates.lookup name = some body

section

variable {env : Environment} {helpers : List String} {templates : List (String × Body)}
  {title : Option String} {shape : Shape} {value : Json} {scope : Scope}

theorem knows_eq_false (henv : env.Provides helpers templates) {name : String}
    (h : isCallName helpers name = false) : env.knows name = false := by
  simp only [isCallName, Bool.or_eq_false_iff] at h
  obtain ⟨⟨⟨hown, hmissing⟩, hhelper⟩, hoperator⟩ := h
  have hregistered : env.isRegistered name = false := by
    cases hr : env.isRegistered name with
    | false => rfl
    | true => exact absurd (henv.registered name hr) (by simpa using hhelper)
  rw [Environment.knows, hown, hmissing, hregistered, hoperator]
  rfl

theorem Scope.Stands.eval {path : Path} {inner : Shape} (h : scope.Stands env.data title shape value)
    (hp : path.shape? shape = some inner) : ∃ place,
      path.eval env scope = (.ok (.located (valueAt value path.keys) place), scope) ∧
        follow (some env.data) place = .ok (some (valueAt value path.keys)) ∧
        inner.Holds (valueAt value path.keys) := by
  obtain ⟨place, hlookup, hplace⟩ := h.lookup hp
  refine ⟨place, ?_, hplace⟩
  rw [Path.eval, Render.bind_ok (x := get) (a := scope) rfl, hlookup]
  rfl

end

/-! ## Tags that fit -/

namespace Call

variable {shape : Shape} {call : Call}

theorem sectionUse?_eq_condition (h : call.sectionUse? shape = some .condition) :
    ∃ path inner, call = .mk (.word "if") [.path path] [] ∧ path.shape? shape = some inner := by
  unfold sectionUse? at h
  split at h
  · next path =>
    obtain ⟨inner, hinner, -⟩ := Option.map_eq_some_iff.1 h
    exact ⟨path, inner, rfl, hinner⟩
  · split at h <;> cases h
  · cases h

theorem sectionUse?_eq_repetition {item : Shape}
    (h : call.sectionUse? shape = some (.repetition item)) :
    ∃ path, call = .mk (.word "each") [.path path] [] ∧ path.shape? shape = some (.list item) := by
  unfold sectionUse? at h
  split at h
  · obtain ⟨_, -, hcondition⟩ := Option.map_eq_some_iff.1 h
    cases hcondition
  · next path =>
    split at h
    · next heq =>
      cases h
      exact ⟨path, rfl, heq⟩
    · cases h
  · cases h

theorem included?_eq_some {name : String} (h : call.included? = some name) :
    call = .mk (.word name) [] [] := by
  unfold included? at h
  split at h
  · cases h
    rfl
  · cases h
end Call

end EntityScaffold.Template
