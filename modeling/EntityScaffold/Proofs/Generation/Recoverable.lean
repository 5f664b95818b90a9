import EntityScaffold.Proofs.Generation.Names
import EntityScaffold.Scaffolder

/-! # Errors that fail one output

An error either ends a run or fails one output. Transformers, names that failed and rendering only give
errors of the second kind. The other kind needs a role of another language, or a name that was never
asked for; neither occurs when all roles are bound to one language and the table of names covers the
model.
-/

namespace EntityScaffold

variable {σ : Type}

/-- Whatever goes wrong, the run can go on. -/
def Recoverable {α : Type} (x : Except GenerationError α) : Prop :=
  ∀ e, x = .error e → e.isFatal = false

namespace Recoverable

variable {α β : Type}

theorem ok (a : α) : Recoverable (.ok a) := by
  intro e h
  cases h

theorem error {e : GenerationError} (h : e.isFatal = false) :
    Recoverable (.error e : Except GenerationError α) := by
  rintro _ ⟨⟩
  exact h

theorem bind {x : Except GenerationError α} {f : α → Except GenerationError β}
    (hx : Recoverable x) (hf : ∀ a, Recoverable (f a)) : Recoverable (x >>= f) := by
  cases x with
  | error e => exact error (hx e rfl)
  | ok a => exact hf a

theorem map {x : Except GenerationError α} (hx : Recoverable x) (f : α → β) :
    Recoverable (x.map f) := by
  cases x with
  | error e => exact error (hx e rfl)
  | ok a => exact ok (f a)

theorem mapM {f : α → Except GenerationError β} :
    ∀ {l : List α}, (∀ a ∈ l, Recoverable (f a)) → Recoverable (l.mapM f)
  | [], _ => ok []
  | a :: rest, h => by
    rw [List.mapM_cons]
    refine (h a List.mem_cons_self).bind fun b => ?_
    exact (mapM fun a ha => h a (List.mem_cons_of_mem _ ha)).bind fun _ => ok _

end Recoverable

/-! ## Stages -/

/-- Every name that the model mentions has an entry. -/
def EntityNames.Covers (names : EntityNames) (model : DatabaseModel) : Prop :=
  ∀ name ∈ model.mentionedNames, Recoverable (names.get name)

theorem EntityNames.covers_resolve (transformers : TransformerSet σ) (extension : String)
    (model : DatabaseModel) (s : σ) :
    (EntityNames.resolve transformers model extension s).1.1.Covers model := by
  intro name h e he
  rw [get_resolve h he]
  rfl

namespace Recoverable

theorem renderNamed (renderer : Renderer) (name : String) (data : Json) :
    Recoverable (renderer.renderNamed name data) := by
  have hfatal : ∀ failure, (Renderer.errorOf name failure).isFatal = false := by
    intro failure
    unfold Renderer.errorOf
    split <;> rfl
  unfold Renderer.renderNamed
  split
  · next body _ =>
    unfold Renderer.renderBody
    cases body.renderAlone (renderer.environment data) (some name) with
    | ok text => exact ok text
    | error failure => exact error (hfatal failure)
  · exact error (hfatal _)

theorem apply (transformer : Option PropertyTransformer) (role : TransformRole)
    (info : PropertyInfo) : Recoverable (MemberTransformers.apply transformer role info) := by
  cases transformer with
  | none => exact ok info
  | some f =>
    change Recoverable ((f info).mapError _)
    cases f info with
    | ok info => exact ok info
    | error cause => exact error rfl

variable {model : DatabaseModel} {scope : GenerationScope}

theorem className (hc : scope.names.Covers model) {name : String}
    (h : name ∈ model.mentionedNames) : Recoverable (scope.names.className name) :=
  (hc name h).map _

theorem dbContextView (hc : scope.names.Covers model) :
    Recoverable (DbContextView.build scope model) := by
  refine bind (mapM fun entity he => ?_) fun _ => ok _
  exact (className hc (model.entity_mem_mentionedNames he)).map _

theorem propertyView (scope : GenerationScope) (entity : EntityType) (property : Property) :
    Recoverable (PropertyView.build scope entity property) :=
  bind (apply _ _ _) fun _ => ok _

variable {entity : EntityType}

theorem navigationView (hc : scope.names.Covers model) (he : entity ∈ model.entityTypes)
    {navigation : Navigation} (hn : navigation ∈ entity.navigations) :
    Recoverable (NavigationView.build scope entity navigation) :=
  bind (className hc (model.target_mem_mentionedNames he hn)) fun _ =>
    bind (apply _ _ _) fun _ => ok _

theorem entityTypeView (hc : scope.names.Covers model) (he : entity ∈ model.entityTypes) :
    Recoverable (EntityTypeView.build scope entity) :=
  bind (className hc (model.entity_mem_mentionedNames he)) fun _ =>
    bind (mapM fun property _ => propertyView scope entity property) fun _ =>
      bind (mapM fun _ hn => navigationView hc he hn) fun _ => ok _

theorem typescriptImports {names : EntityNames} {own : String} :
    ∀ {navigations : List Navigation} {known : Keyed String},
      (∀ navigation ∈ navigations, Recoverable (names.get navigation.targetEntity)) →
        Recoverable (EntityScaffold.typescriptImports names own known navigations)
  | [], known, _ => ok known
  | navigation :: rest, known, h => by
    refine bind (h navigation List.mem_cons_self) fun target => ?_
    have hrest : ∀ n ∈ rest, Recoverable (names.get n.targetEntity) := fun n hn =>
      h n (List.mem_cons_of_mem _ hn)
    split
    · exact typescriptImports hrest
    · exact typescriptImports hrest

theorem imports (language : LanguageMode) (hc : scope.names.Covers model)
    (he : entity ∈ model.entityTypes) (view : EntityTypeView) :
    Recoverable (language.imports scope entity view) := by
  cases language with
  | csharp => exact ok _
  | typescript =>
    exact bind (typescriptImports fun navigation hn =>
      hc _ (model.target_mem_mentionedNames he hn)) fun _ => ok _

/-- The code of an entity type fails for nothing fatal if its generator speaks the language of the
scope. -/
theorem writeEntity {generator : EntityTypeGenerator}
    (hg : ∀ language, generator = .rendering language → scope.language = language)
    (hc : scope.names.Covers model) (he : entity ∈ model.entityTypes) :
    Recoverable (generator.writeCode scope entity) := by
  cases generator with
  | null => exact ok none
  | rendering language =>
    have hl : ¬ scope.language ≠ language := fun h => h (hg language rfl)
    simp only [EntityTypeGenerator.writeCode, if_neg hl]
    exact bind (bind (entityTypeView hc he) fun view => bind (imports language hc he view) fun _ =>
      ok _) fun _ => bind (renderNamed _ _ _) fun _ => ok _

theorem writeDbContext (generator : DbContextGenerator) (hc : scope.names.Covers model) :
    Recoverable (generator.writeCode scope model) := by
  cases generator with
  | null => exact ok none
  | rendering => exact bind (dbContextView hc) fun _ => bind (renderNamed _ _ _) fun _ => ok _

end Recoverable

end EntityScaffold
