import EntityScaffold.Config

/-! # Configurations that can be built

A configuration comes out of a sequence of steps of the builder. Whatever the steps, the roles of the
configuration are those of its mode and language, so that all of them speak that language.
-/

namespace EntityScaffold

variable {σ : Type}

/-- What is done in sequence succeeds only if every part does. -/
theorem exists_ok_of_bind {ε α β : Type} {x : Except ε α} {f : α → Except ε β} {b : β}
    (h : x.bind f = .ok b) : ∃ a, x = .ok a ∧ f a = .ok b := by
  cases x with
  | error e => cases h
  | ok a => exact ⟨a, rfl, h⟩

/-- What is made of a result is there only if the result is. -/
theorem exists_ok_of_map {ε α β : Type} {x : Except ε α} {f : α → β} {b : β} (h : x.map f = .ok b) :
    ∃ a, x = .ok a ∧ f a = b := by
  cases x with
  | error e => cases h
  | ok a =>
    cases h
    exact ⟨a, rfl, rfl⟩

theorem mapError_ok {ε ε' α : Type} (f : ε → ε') (a : α) :
    (.ok a : Except ε α).mapError f = .ok a := rfl

theorem mapError_error {ε ε' α : Type} (f : ε → ε') (e : ε) :
    (.error e : Except ε α).mapError f = .error (f e) := rfl

/-- One step of building a configuration. -/
inductive BuilderStep (σ : Type) where
  /-- Start afresh from options. -/
  | ofOptions (options : ScaffoldOptions)
  | configure (mode : ReverseEngineerMode) (language : LanguageMode)
  | registerHelpers (helpers : List (String × InlineHelper))
  | registerBlockHelpers (helpers : List (String × BlockHelper))
  | registerTransformers (transformers : TransformerSet σ)

namespace BuilderStep

/-- Take a step. -/
def apply (builder : GenerationBuilder σ) :
    BuilderStep σ → Except GenerationError (GenerationBuilder σ)
  | ofOptions options => .ok (.ofOptions options)
  | configure mode language => .ok (builder.configure mode language)
  | registerHelpers helpers => builder.registerHelpers helpers
  | registerBlockHelpers helpers => builder.registerBlockHelpers helpers
  | registerTransformers transformers => builder.registerTransformers transformers

end BuilderStep

namespace GenerationBuilder

/-- Take steps in order; the first that fails ends them. -/
def takeSteps (builder : GenerationBuilder σ) :
    List (BuilderStep σ) → Except GenerationError (GenerationBuilder σ)
  | [] => .ok builder
  | step :: rest => (step.apply builder).bind (takeSteps · rest)

/-- The configuration after steps from an empty builder. -/
def buildBy (steps : List (BuilderStep σ)) : Except GenerationError (GenerationConfig σ) :=
  (takeSteps .new steps).bind build

end GenerationBuilder

/-! ## Roles -/

/-- The roles are those of the mode and the language. -/
def GenerationConfig.HasOwnRoles (config : GenerationConfig σ) : Prop :=
  config.roles = .select config.mode config.language

namespace GenerationBuilder

variable {builder next : GenerationBuilder σ}

/-- A change goes well only where something is configured, and changes nothing but that. -/
theorem exists_of_change {operation : String}
    {f : GenerationConfig σ → Except GenerationError (GenerationConfig σ)}
    (h : builder.change operation f = .ok next) :
    ∃ config changed, builder.configured = some config ∧ f config = .ok changed ∧ next = ⟨some changed⟩ := by
  unfold change at h
  split at h
  · cases h
  · next config hconfig =>
    obtain ⟨changed, hchanged, rfl⟩ := exists_ok_of_map h
    exact ⟨config, changed, hconfig, hchanged, rfl⟩

/-- Whatever is configured has its own roles. -/
def HasOwnRoles (builder : GenerationBuilder σ) : Prop :=
  ∀ config, builder.configured = some config → config.HasOwnRoles

theorem HasOwnRoles.change {operation : String}
    {f : GenerationConfig σ → Except GenerationError (GenerationConfig σ)}
    (hf : ∀ config changed, f config = .ok changed → config.HasOwnRoles → changed.HasOwnRoles)
    (hb : builder.HasOwnRoles) (h : builder.change operation f = .ok next) : next.HasOwnRoles := by
  obtain ⟨config, changed, hconfig, hchanged, rfl⟩ := exists_of_change h
  rintro _ ⟨⟩
  exact hf config changed hchanged (hb config hconfig)

/-- Registering changes no roles. -/
theorem HasOwnRoles.registering {α : Type} {f : α → GenerationConfig σ}
    {config changed : GenerationConfig σ} {x : Except GenerationError α}
    (hf : ∀ a, (f a).mode = config.mode ∧ (f a).language = config.language ∧
      (f a).roles = config.roles)
    (h : x.map f = .ok changed) (hc : config.HasOwnRoles) : changed.HasOwnRoles := by
  obtain ⟨a, -, rfl⟩ := exists_ok_of_map h
  obtain ⟨hmode, hlanguage, hroles⟩ := hf a
  unfold GenerationConfig.HasOwnRoles
  rw [hmode, hlanguage, hroles]
  exact hc

/-- Every step keeps the roles in order. -/
theorem HasOwnRoles.step {step : BuilderStep σ} (hb : builder.HasOwnRoles)
    (h : step.apply builder = .ok next) : next.HasOwnRoles := by
  cases step with
  | ofOptions options => cases h; rintro _ ⟨⟩; rfl
  | configure mode language => cases h; rintro _ ⟨⟩; rfl
  | registerHelpers helpers =>
    refine hb.change (fun config changed hc hroles => ?_) h
    refine registering ?_ hc hroles
    exact fun _ => ⟨rfl, rfl, rfl⟩
  | registerBlockHelpers helpers =>
    refine hb.change (fun config changed hc hroles => ?_) h
    refine registering ?_ hc hroles
    exact fun _ => ⟨rfl, rfl, rfl⟩
  | registerTransformers transformers =>
    refine hb.change (fun config changed hc hroles => ?_) h
    cases hc
    exact hroles

theorem HasOwnRoles.steps {steps : List (BuilderStep σ)} (hb : builder.HasOwnRoles)
    (h : builder.takeSteps steps = .ok next) : next.HasOwnRoles := by
  induction steps generalizing builder with
  | nil => cases h; exact hb
  | cons step rest ih =>
    obtain ⟨after, hs, hrest⟩ := exists_ok_of_bind h
    exact ih (hb.step hs) hrest

/-- Every configuration that can be built has its own roles. -/
theorem hasOwnRoles_of_buildBy {steps : List (BuilderStep σ)} {config : GenerationConfig σ}
    (h : buildBy steps = .ok config) : config.HasOwnRoles := by
  obtain ⟨builder, hs, hbuild⟩ := exists_ok_of_bind h
  have hb : builder.HasOwnRoles := HasOwnRoles.steps (by rintro _ ⟨⟩) hs
  unfold build at hbuild
  split at hbuild
  · next hconfig => cases hbuild; exact hb config hconfig
  · cases hbuild

end GenerationBuilder

end EntityScaffold
