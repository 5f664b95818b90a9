import EntityScaffold.Helper.Spaces
import EntityScaffold.Language.Roles
import EntityScaffold.Options

/-! # Configurations

A configuration is built in steps. Configuring binds the roles for a mode and a language and starts
afresh with the standard helpers and those of the language; registering adds to what is configured and
fails before that. Helpers under reserved names are refused, and then nothing is registered.
-/

namespace EntityScaffold

/-- What stays the same for all runs. -/
structure GenerationConfig (σ : Type) where
  mode : ReverseEngineerMode
  language : LanguageMode
  roles : RoleBindings
  helpers : HelperRegistry
  blockHelpers : BlockHelperRegistry
  transformers : TransformerSet σ

namespace GenerationConfig

variable {σ : Type}

/-- The configuration for a mode and a language before anything is registered. -/
def start (mode : ReverseEngineerMode) (language : LanguageMode) : GenerationConfig σ where
  mode := mode
  language := language
  roles := .select mode language
  helpers := HelperRegistry.standard.extend language.helpers
  blockHelpers := .empty
  transformers := .empty

/-- The text of diagnostics. -/
def inspect (config : GenerationConfig σ) : String :=
  Text.recordText "GenerationConfig"
    [("mode", config.mode.inspect), ("language", config.language.inspect),
      ("roles", config.roles.inspect), ("helpers", config.helpers.inspect),
      ("block_helpers", config.blockHelpers.inspect), ("transformers", config.transformers.inspect)]

end GenerationConfig

/-- The entries of a list, or an error for the first whose name is reserved. -/
def refuseReserved {α : Type} : List (String × α) → Except GenerationError (List (String × α))
  | [] => .ok []
  | (name, helper) :: rest =>
    if isReserved name then .error (.configuration (.reservedName name))
    else (refuseReserved rest).map ((name, helper) :: ·)

/-- A configuration in the making. -/
structure GenerationBuilder (σ : Type) where
  configured : Option (GenerationConfig σ)

namespace GenerationBuilder

variable {σ : Type}

/-- Nothing is configured yet. -/
def new : GenerationBuilder σ := ⟨none⟩

/-- Configure for a mode and a language; what was registered before is dropped. -/
def configure (_ : GenerationBuilder σ) (mode : ReverseEngineerMode) (language : LanguageMode) :
    GenerationBuilder σ :=
  ⟨some (.start mode language)⟩

/-- Configure from options, with the transformers of their naming preset. -/
def ofOptions (options : ScaffoldOptions) : GenerationBuilder σ :=
  let config : GenerationConfig σ := .start options.mode options.language
  ⟨some { config with transformers := .ofNaming options.naming }⟩

/-- Change what is configured. -/
def change (builder : GenerationBuilder σ) (operation : String)
    (f : GenerationConfig σ → Except GenerationError (GenerationConfig σ)) :
    Except GenerationError (GenerationBuilder σ) :=
  match builder.configured with
  | none => .error (.configuration (.registeredTooEarly operation))
  | some config => (f config).map fun config => ⟨some config⟩

/-- Register inline helpers; later ones win. -/
def registerHelpers (builder : GenerationBuilder σ) (helpers : List (String × InlineHelper)) :
    Except GenerationError (GenerationBuilder σ) :=
  builder.change "register_helpers" fun config =>
    (refuseReserved helpers).map fun helpers =>
      { config with helpers := config.helpers.extend helpers }

/-- Register block helpers; later ones win. -/
def registerBlockHelpers (builder : GenerationBuilder σ) (helpers : List (String × BlockHelper)) :
    Except GenerationError (GenerationBuilder σ) :=
  builder.change "register_block_helpers" fun config =>
    (refuseReserved helpers).map fun helpers =>
      { config with blockHelpers := config.blockHelpers.extend helpers }

/-- Register transformers in place of those before. -/
def registerTransformers (builder : GenerationBuilder σ) (transformers : TransformerSet σ) :
    Except GenerationError (GenerationBuilder σ) :=
  builder.change "register_transformers" fun config =>
    .ok { config with transformers := transformers }

/-- The finished configuration. -/
def build (builder : GenerationBuilder σ) : Except GenerationError (GenerationConfig σ) :=
  match builder.configured with
  | some config => .ok config
  | none => .error (.configuration .notConfigured)

/-- The text of diagnostics. -/
def inspect (builder : GenerationBuilder σ) : String :=
  Text.recordText "GenerationBuilder"
    [("configured", Text.optionText (builder.configured.map GenerationConfig.inspect))]

end GenerationBuilder

end EntityScaffold
