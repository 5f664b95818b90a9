import EntityScaffold.Helper.Basic
import EntityScaffold.Error

/-! # Helper registries

A registry holds helpers of one kind under distinct names. Registering a name again replaces the helper.
-/

namespace EntityScaffold

universe u

/-- The kinds of helpers. -/
inductive HelperKind where
  | inline
  | block
deriving DecidableEq, Repr

namespace HelperKind

/-- The kind in words. -/
def words : HelperKind → String
  | .inline => "helper"
  | .block => "block helper"

/-- The text of diagnostics. -/
def inspect : HelperKind → String
  | .inline => "Inline"
  | .block => "Block"

end HelperKind

/-- Helpers of one kind under distinct names. -/
structure Registry (F : Type u) where
  kind : HelperKind
  entries : Keyed F

/-- Inline helpers by name. -/
abbrev HelperRegistry := Registry InlineHelper

/-- Block helpers by name. -/
abbrev BlockHelperRegistry := Registry BlockHelper

namespace Registry

variable {F : Type u}

/-- The helper under a name. -/
def get? (registry : Registry F) (name : String) : Option F := registry.entries.get? name

/-- Whether there is a helper under a name. -/
def contains (registry : Registry F) (name : String) : Bool := registry.entries.contains name

/-- The names in ascending order. -/
def names (registry : Registry F) : List String := registry.entries.keys

/-- The number of helpers. -/
def size (registry : Registry F) : Nat := registry.entries.size

/-- Whether there are no helpers. -/
def isEmpty (registry : Registry F) : Bool := registry.entries.isEmpty

/-- Put a helper under a name; the one that was there is given back. -/
def register (registry : Registry F) (name : String) (helper : F) : Option F × Registry F :=
  (registry.get? name, { registry with entries := registry.entries.insert name helper })

/-- Register helpers in order; later ones win. -/
def extend (registry : Registry F) (helpers : List (String × F)) : Registry F :=
  { registry with entries := registry.entries.insertAll helpers }

/-- The helper under a name, or an error that names the registry. -/
def resolve (registry : Registry F) (name : String) : Except GenerationError F :=
  match registry.get? name with
  | some helper => .ok helper
  | none => .error (.unresolvedHelper name ("<" ++ registry.kind.words ++ " registry>"))

/-- The text of diagnostics. -/
def inspect (registry : Registry F) : String :=
  Text.recordText "Registry" [("kind", registry.kind.inspect),
    ("names", Text.listText (registry.names.map Text.quoted))]

end Registry

end EntityScaffold
