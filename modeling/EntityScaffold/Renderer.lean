import EntityScaffold.Template.Render
import EntityScaffold.Template.Source
import EntityScaffold.Helper.Spaces

/-! # Renderers

A renderer holds the helpers of two registries and named templates. Helpers under reserved names take no
part. A name that is neither a helper nor a value is an unresolved helper of the template that is
rendered, wherever in it or in the templates that it includes the name stands.
-/

namespace EntityScaffold

open Template (Body Environment Failure)

/-- Helpers and named templates. -/
structure Renderer where
  inline : Keyed InlineHelper
  block : Keyed BlockHelper
  templates : Keyed Body

namespace Renderer

/-- The name that stands for a source rendered at once. -/
def inlineName : String := "<inline>"

/-- The entries whose names are not reserved. -/
def unreserved {α : Type} (entries : Keyed α) : Keyed α :=
  Keyed.ofList (entries.entries.filter fun entry => !isReserved entry.1)

/-- The renderer for the helpers of two registries, without templates. -/
def new (helpers : HelperRegistry) (blockHelpers : BlockHelperRegistry) : Renderer :=
  ⟨unreserved helpers.entries, unreserved blockHelpers.entries, Keyed.empty⟩

/-- Add a template under a name, in place of the one that was there. -/
def register (renderer : Renderer) (name source : String) : Except GenerationError Renderer :=
  match Template.parse source with
  | .ok body => .ok { renderer with templates := renderer.templates.insert name body }
  | .error e => .error (.render name (.source e))

/-- Whether there is a template under a name. -/
def contains (renderer : Renderer) (name : String) : Bool := renderer.templates.contains name

/-- What stays the same while data is rendered. -/
def environment (renderer : Renderer) (data : Json) : Environment :=
  ⟨data, renderer.inline.entries, renderer.block.entries, renderer.templates.entries⟩

/-- The error of a failure in a template. -/
def errorOf (template : String) (failure : Failure) : GenerationError :=
  match failure.cause with
  | .unresolved helper => .unresolvedHelper helper template
  | _ => .render template (.failure failure)

/-- The text of a body for the data, errors told for `template`. -/
def renderBody (renderer : Renderer) (template : String) (name : Option String) (body : Body)
    (data : Json) : Except GenerationError String :=
  (body.renderAlone (renderer.environment data) name).mapError (errorOf template)

/-- The text of the template of a name for the data. -/
def renderNamed (renderer : Renderer) (name : String) (data : Json) :
    Except GenerationError String :=
  match renderer.templates.get? name with
  | some body => renderer.renderBody name (some name) body data
  | none => .error (errorOf name (.of (.templateMissing name)))

/-- The text of a source for the data. -/
def render (renderer : Renderer) (source : String) (data : Json) : Except GenerationError String :=
  match Template.parse source with
  | .ok body => renderer.renderBody inlineName none body data
  | .error e => .error (.render inlineName (.inlineSource e))

/-- The text of diagnostics. -/
def inspect (renderer : Renderer) : String :=
  Text.openRecordText "TemplateRenderer"
    [("templates", Text.listText (renderer.templates.keys.map Text.quoted))]

end Renderer

/-- The text of a source for the data with the helpers of two registries. -/
def render (source : String) (data : Json) (helpers : HelperRegistry)
    (blockHelpers : BlockHelperRegistry) : Except GenerationError String :=
  (Renderer.new helpers blockHelpers).render source data

end EntityScaffold
