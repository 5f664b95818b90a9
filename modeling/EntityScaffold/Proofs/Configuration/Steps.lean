import EntityScaffold.Proofs.Configuration

/-! # What steps build

Of the steps of a builder only those from the last one that configures on matter. That step sets the mode, the
language and the transformers of a preset; the steps after it add helpers in layers over those of the language
and the standard ones, and the last set of transformers stays.
-/

namespace EntityScaffold

variable {σ : Type}

/-! ## What a step says -/

namespace BuilderStep

/-- What a step that configures sets. -/
structure Setup (σ : Type) where
  mode : ReverseEngineerMode
  language : LanguageMode
  transformers : TransformerSet σ

/-- What a step sets if it configures. -/
def setup? : BuilderStep σ → Option (Setup σ)
  | ofOptions options => some ⟨options.mode, options.language, .ofNaming options.naming⟩
  | configure mode language => some ⟨mode, language, .empty⟩
  | _ => none

/-- The step starts a configuration. -/
def Configures (step : BuilderStep σ) : Prop := ∃ setup, step.setup? = some setup

/-- The name under which a step that registers is reported. -/
def operation? : BuilderStep σ → Option String
  | registerHelpers _ => some "register_helpers"
  | registerBlockHelpers _ => some "register_block_helpers"
  | registerTransformers _ => some "register_transformers"
  | _ => none

/-- The inline helpers that a step registers. -/
def helpers : BuilderStep σ → List (String × InlineHelper)
  | registerHelpers helpers => helpers
  | _ => []

/-- The block helpers that a step registers. -/
def blockHelpers : BuilderStep σ → List (String × BlockHelper)
  | registerBlockHelpers helpers => helpers
  | _ => []

/-- The transformers that a step registers. -/
def transformers? : BuilderStep σ → Option (TransformerSet σ)
  | registerTransformers transformers => some transformers
  | _ => none

/-- The names of the helpers that a step registers. -/
def names (step : BuilderStep σ) : List String :=
  step.helpers.map Prod.fst ++ step.blockHelpers.map Prod.fst

/-- Why a step fails after others: it registers before anything is configured, or under a reserved name. -/
inductive Refused (steps : List (BuilderStep σ)) (step : BuilderStep σ) : GenerationError → Prop
  | tooEarly {operation : String} : (∀ other ∈ steps, ¬ other.Configures) → step.operation? = some operation →
    Refused steps step (.configuration (.registeredTooEarly operation))
  /-- The first reserved name is told. -/
  | reserved {name : String} : (∃ other ∈ steps, other.Configures) →
    step.names.find? isReserved = some name → Refused steps step (.configuration (.reservedName name))

theorem configures_iff {step : BuilderStep σ} : step.Configures ↔ step.operation? = none := by
  cases step <;> simp [Configures, setup?, operation?]

theorem names_eq_nil {step : BuilderStep σ} (h : step.operation? = none) : step.names = [] := by
  cases step <;> first | rfl | cases h

/-- What is configured by a step that sets something up and later steps that register. -/
def Setup.configAfter (setup : Setup σ) (later : List (BuilderStep σ)) : GenerationConfig σ where
  mode := setup.mode
  language := setup.language
  roles := .select setup.mode setup.language
  helpers := (HelperRegistry.standard.extend setup.language.helpers).extend (later.flatMap helpers)
  blockHelpers := BlockHelperRegistry.empty.extend (later.flatMap blockHelpers)
  transformers := (later.filterMap transformers?).getLast?.getD setup.transformers

end BuilderStep

/-! ## One step -/

theorem Registry.extend_append {F : Type} (registry : Registry F) (first second : List (String × F)) :
    registry.extend (first ++ second) = (registry.extend first).extend second :=
  congrArg (Registry.mk registry.kind) List.foldl_append

/-- Entries are refused for the first reserved name, and only for that. -/
theorem refuseReserved_eq {α : Type} (entries : List (String × α)) :
    refuseReserved entries = match (entries.map Prod.fst).find? isReserved with
      | some name => .error (.configuration (.reservedName name))
      | none => .ok entries := by
  induction entries with
  | nil => rfl
  | cons entry rest ih =>
    obtain ⟨name, helper⟩ := entry
    rw [refuseReserved, List.map_cons]
    by_cases h : isReserved name
    · rw [if_pos h, List.find?_cons_of_pos h]
    · rw [if_neg h, List.find?_cons_of_neg h, ih]
      cases (rest.map Prod.fst).find? isReserved <;> rfl

namespace BuilderStep

variable {step : BuilderStep σ} {setup : Setup σ} {done : List (BuilderStep σ)}

/-- A step that configures starts afresh. -/
theorem apply_of_setup (h : step.setup? = some setup) (builder : GenerationBuilder σ) :
    step.apply builder = .ok ⟨some (setup.configAfter [])⟩ := by
  cases step <;> cases h <;> rfl

/-- A step that registers needs something configured. -/
theorem apply_new {operation : String} (h : step.operation? = some operation) :
    step.apply .new = .error (.configuration (.registeredTooEarly operation)) := by
  cases step <;> cases h <;> rfl

theorem Setup.configAfter_concat (setup : Setup σ) (done : List (BuilderStep σ)) (step : BuilderStep σ) :
    setup.configAfter (done ++ [step]) = { setup.configAfter done with
      helpers := (setup.configAfter done).helpers.extend step.helpers
      blockHelpers := (setup.configAfter done).blockHelpers.extend step.blockHelpers
      transformers := step.transformers?.getD (setup.configAfter done).transformers } := by
  have hhelpers : (done ++ [step]).flatMap helpers = done.flatMap helpers ++ step.helpers := by simp
  have hblocks : (done ++ [step]).flatMap blockHelpers = done.flatMap blockHelpers ++ step.blockHelpers := by
    simp
  have htransformers : ((done ++ [step]).filterMap transformers?).getLast?.getD setup.transformers =
      step.transformers?.getD ((done.filterMap transformers?).getLast?.getD setup.transformers) := by
    cases step <;> simp [transformers?]
  rw [configAfter, hhelpers, hblocks, htransformers, Registry.extend_append, Registry.extend_append]
  rfl

/-- A step that registers adds to what is configured, unless one of its names is reserved. -/
theorem apply_configAfter {operation : String} (h : step.operation? = some operation) :
    step.apply ⟨some (setup.configAfter done)⟩ = match step.names.find? isReserved with
      | some name => .error (.configuration (.reservedName name))
      | none => .ok ⟨some (setup.configAfter (done ++ [step]))⟩ := by
  rw [Setup.configAfter_concat]
  cases step with
  | ofOptions options => cases h
  | configure mode language => cases h
  | registerHelpers entries =>
    have hnames : (registerHelpers entries : BuilderStep σ).names = entries.map Prod.fst := List.append_nil _
    rw [apply, GenerationBuilder.registerHelpers, GenerationBuilder.change, refuseReserved_eq, hnames]
    cases (entries.map Prod.fst).find? isReserved <;> rfl
  | registerBlockHelpers entries =>
    have hnames : (registerBlockHelpers entries : BuilderStep σ).names = entries.map Prod.fst := rfl
    rw [apply, GenerationBuilder.registerBlockHelpers, GenerationBuilder.change, refuseReserved_eq, hnames]
    cases (entries.map Prod.fst).find? isReserved <;> rfl
  | registerTransformers transformers => rfl

end BuilderStep

/-! ## Steps in sequence -/

namespace GenerationBuilder

open BuilderStep

variable {builder : GenerationBuilder σ} {steps : List (BuilderStep σ)}

theorem takeSteps_append (builder : GenerationBuilder σ) (first second : List (BuilderStep σ)) :
    builder.takeSteps (first ++ second) = (builder.takeSteps first).bind (takeSteps · second) := by
  induction first generalizing builder with
  | nil => rfl
  | cons step rest ih =>
    rw [List.cons_append, takeSteps, takeSteps]
    cases step.apply builder with
    | error e => rfl
    | ok next => exact ih next

/-- Steps that register add up, and none of their names is reserved. -/
theorem takeSteps_configAfter {setup : Setup σ} {done later : List (BuilderStep σ)}
    (hlater : ∀ step ∈ later, ¬ step.Configures)
    (h : takeSteps ⟨some (setup.configAfter done)⟩ later = .ok builder) :
    builder = ⟨some (setup.configAfter (done ++ later))⟩ ∧
    ∀ step ∈ later, ∀ name ∈ step.names, isReserved name = false := by
  induction later generalizing done with
  | nil =>
    cases h
    rw [List.append_nil]
    exact ⟨rfl, nofun⟩
  | cons step rest ih =>
    obtain ⟨hstep, hrest⟩ := List.forall_mem_cons.1 hlater
    obtain ⟨next, happly, htake⟩ := exists_ok_of_bind h
    obtain ⟨operation, hoperation⟩ := Option.ne_none_iff_exists'.1 fun hnone => hstep (configures_iff.2 hnone)
    rw [apply_configAfter hoperation] at happly
    cases hreserved : step.names.find? isReserved with
    | some name => rw [hreserved] at happly; cases happly
    | none =>
      rw [hreserved] at happly
      cases happly
      obtain ⟨rfl, hnames⟩ := ih hrest htake
      rw [List.append_assoc]
      refine ⟨rfl, List.forall_mem_cons.2 ⟨fun name hname => ?_, hnames⟩⟩
      simpa using List.find?_eq_none.1 hreserved name hname

/-- What comes before a step that configures does not matter. -/
theorem takeSteps_of_configures {before after : List (BuilderStep σ)} {step : BuilderStep σ}
    (hstep : step.Configures) (h : takeSteps .new (before ++ step :: after) = .ok builder) :
    takeSteps .new (step :: after) = .ok builder := by
  obtain ⟨setup, hsetup⟩ := hstep
  rw [takeSteps_append] at h
  obtain ⟨middle, -, htake⟩ := exists_ok_of_bind h
  rw [takeSteps, apply_of_setup hsetup] at htake ⊢
  exact htake

/-- Without a step that configures nothing succeeds but doing nothing. -/
theorem eq_nil_of_takeSteps (hsteps : ∀ step ∈ steps, ¬ step.Configures)
    (h : takeSteps .new steps = .ok builder) : steps = [] := by
  cases steps with
  | nil => rfl
  | cons step rest =>
    obtain ⟨operation, hoperation⟩ := Option.ne_none_iff_exists'.1 fun hnone =>
      hsteps step List.mem_cons_self (configures_iff.2 hnone)
    rw [takeSteps, apply_new hoperation] at h
    cases h

/-- Of steps some of which configure one is the last to do so. -/
theorem exists_last_configures (h : ∃ step ∈ steps, step.Configures) :
    ∃ before step after, steps = before ++ step :: after ∧ step.Configures ∧
      ∀ later ∈ after, ¬ later.Configures := by
  induction steps with
  | nil => obtain ⟨step, hstep, -⟩ := h; cases hstep
  | cons step rest ih =>
    by_cases hrest : ∃ later ∈ rest, later.Configures
    · obtain ⟨before, last, after, rfl, hlast⟩ := ih hrest
      exact ⟨step :: before, last, after, rfl, hlast⟩
    · obtain ⟨first, hfirst, hconfigures⟩ := h
      obtain rfl | hmem := List.mem_cons.1 hfirst
      · exact ⟨[], first, rest, rfl, hconfigures, fun later hlater hl => hrest ⟨later, hlater, hl⟩⟩
      · exact absurd ⟨first, hmem, hconfigures⟩ hrest

end GenerationBuilder

/-! ## What is configured -/

/-- A configuration has what it was set up with and what later steps registered. -/
structure GenerationConfig.ResultsFrom (config : GenerationConfig σ) (setup : BuilderStep.Setup σ)
    (later : List (BuilderStep σ)) : Prop where
  mode : config.mode = setup.mode
  language : config.language = setup.language
  roles : config.roles = .select config.mode config.language
  /-- The roles that have a language have that of the configuration. -/
  roleLanguages : config.roles.language = config.language ∧ config.roles.model.language = config.language ∧
    ∀ language, config.roles.entityType = .rendering language → language = config.language
  unreserved : ∀ name ∈ config.helpers.names ++ config.blockHelpers.names, isReserved name = false
  standard : config.helpers.contains spacesName = true
  ofLanguage : ∀ name ∈ config.language.helpers.map Prod.fst, config.helpers.contains name = true
  /-- The helper that was registered last counts, then that of the language and then the standard one. -/
  helper : ∀ name, config.helpers.resolve name =
    (((later.flatMap BuilderStep.helpers).reverse.lookup name).or
      ((config.language.helpers.reverse.lookup name).or ([(spacesName, spaces)].lookup name))).elim
        (.error (.unresolvedHelper name "<helper registry>")) .ok
  blockHelper : ∀ name, config.blockHelpers.resolve name =
    ((later.flatMap BuilderStep.blockHelpers).reverse.lookup name).elim
      (.error (.unresolvedHelper name "<block helper registry>")) .ok
  ascending : config.helpers.names.Pairwise (· < ·)
  blockAscending : config.blockHelpers.names.Pairwise (· < ·)
  transformers : config.transformers =
    (later.filterMap BuilderStep.transformers?).getLast?.getD setup.transformers

theorem isSome_lookup_iff {α : Type} {entries : List (String × α)} {name : String} :
    (entries.lookup name).isSome = true ↔ name ∈ entries.map Prod.fst := by
  rw [List.lookup_isSome_iff, List.mem_map]
  exact exists_congr fun entry => and_congr_right fun _ => beq_iff_eq.trans eq_comm

namespace Registry

variable {F : Type}

theorem resolve_eq (registry : Registry F) (name : String) :
    registry.resolve name = (registry.get? name).elim
      (.error (.unresolvedHelper name ("<" ++ registry.kind.words ++ " registry>"))) .ok := by
  unfold resolve
  cases registry.get? name <;> rfl

theorem get?_extend (registry : Registry F) (entries : List (String × F)) (name : String) :
    (registry.extend entries).get? name = (entries.reverse.lookup name).or (registry.get? name) :=
  Keyed.get?_insertAll ..

theorem mem_names_iff {registry : Registry F} {name : String} :
    name ∈ registry.names ↔ registry.contains name = true :=
  isSome_lookup_iff.symm

/-- An extended registry has the names that it had and those of the new entries. -/
theorem mem_names_extend {registry : Registry F} {entries : List (String × F)} {name : String} :
    name ∈ (registry.extend entries).names ↔ name ∈ entries.map Prod.fst ∨ name ∈ registry.names := by
  have hentries : (entries.reverse.lookup name).isSome ↔ name ∈ entries.map Prod.fst := by
    rw [isSome_lookup_iff, List.map_reverse, List.mem_reverse]
  rw [mem_names_iff, mem_names_iff, ← hentries]
  change ((registry.extend entries).get? name).isSome ↔ _ ∨ (registry.get? name).isSome
  rw [get?_extend, Option.isSome_or, Bool.or_eq_true]

theorem names_ascending (registry : Registry F) : registry.names.Pairwise (· < ·) :=
  List.pairwise_map.2 registry.entries.ascending

end Registry

namespace BuilderStep

variable {setup : Setup σ} {later : List (BuilderStep σ)}

theorem Setup.mem_helperNames (setup : Setup σ) (later : List (BuilderStep σ)) {name : String} :
    name ∈ (setup.configAfter later).helpers.names ↔ name ∈ (later.flatMap helpers).map Prod.fst ∨
      name ∈ setup.language.helpers.map Prod.fst ∨ name = spacesName := by
  have hstandard : name ∈ HelperRegistry.standard.names ↔ name = spacesName := List.mem_singleton
  rw [configAfter, Registry.mem_names_extend, Registry.mem_names_extend, hstandard]

theorem Setup.mem_blockHelperNames (setup : Setup σ) (later : List (BuilderStep σ)) {name : String} :
    name ∈ (setup.configAfter later).blockHelpers.names ↔
      name ∈ (later.flatMap blockHelpers).map Prod.fst := by
  have hempty : name ∉ BlockHelperRegistry.empty.names := nofun
  rw [configAfter, Registry.mem_names_extend]
  exact or_iff_left hempty

/-- No helper of a language has a reserved name, nor has the standard one. -/
theorem unreserved_standard (language : LanguageMode) :
    ∀ name ∈ spacesName :: language.helpers.map Prod.fst, isReserved name = false := by
  cases language <;> decide

theorem Setup.unreserved_configAfter (setup : Setup σ)
    (h : ∀ step ∈ later, ∀ name ∈ step.names, isReserved name = false) :
    ∀ name ∈ (setup.configAfter later).helpers.names ++ (setup.configAfter later).blockHelpers.names,
      isReserved name = false := by
  intro name hname
  rw [List.mem_append, mem_helperNames, mem_blockHelperNames, List.map_flatMap, List.map_flatMap,
    List.mem_flatMap, List.mem_flatMap] at hname
  obtain (⟨step, hstep, hname⟩ | hname | rfl) | ⟨step, hstep, hname⟩ := hname
  · exact h step hstep name (List.mem_append_left _ hname)
  · exact unreserved_standard setup.language name (List.mem_cons_of_mem _ hname)
  · exact unreserved_standard setup.language _ List.mem_cons_self
  · exact h step hstep name (List.mem_append_right _ hname)

/-- What a setup and later steps lead to comes out of them. -/
theorem Setup.resultsFrom_configAfter (setup : Setup σ)
    (h : ∀ step ∈ later, ∀ name ∈ step.names, isReserved name = false) :
    (setup.configAfter later).ResultsFrom setup later where
  mode := rfl
  language := rfl
  roles := rfl
  roleLanguages := by
    refine ⟨rfl, rfl, fun language hlanguage => ?_⟩
    change (if setup.mode.generatesEntities then EntityTypeGenerator.rendering setup.language else .null) =
      .rendering language at hlanguage
    split at hlanguage
    · exact (EntityTypeGenerator.rendering.inj hlanguage).symm
    · cases hlanguage
  unreserved := setup.unreserved_configAfter h
  standard := Registry.mem_names_iff.1 ((setup.mem_helperNames later).2 (.inr (.inr rfl)))
  ofLanguage name hname := Registry.mem_names_iff.1 ((setup.mem_helperNames later).2 (.inr (.inl hname)))
  helper name := by
    have hstandard : HelperRegistry.standard.get? name = [(spacesName, spaces)].lookup name := rfl
    rw [Registry.resolve_eq, configAfter, Registry.get?_extend, Registry.get?_extend, hstandard]
    rfl
  blockHelper name := by
    have hempty : BlockHelperRegistry.empty.get? name = none := rfl
    rw [Registry.resolve_eq, configAfter, Registry.get?_extend, hempty, Option.or_none]
    rfl
  ascending := Registry.names_ascending _
  blockAscending := Registry.names_ascending _
  transformers := rfl

end BuilderStep

/-! ## What is built -/

namespace GenerationBuilder

open BuilderStep

variable {builder : GenerationBuilder σ} {steps : List (BuilderStep σ)}

/-- The state after steps that succeed: what the last one that configures set up and later ones added. -/
theorem configured_of_takeSteps {before later : List (BuilderStep σ)} {step : BuilderStep σ} {setup : Setup σ}
    (hsetup : step.setup? = some setup) (hlater : ∀ step ∈ later, ¬ step.Configures)
    (h : takeSteps .new (before ++ step :: later) = .ok builder) :
    builder = ⟨some (setup.configAfter later)⟩ ∧
    ∀ step ∈ later, ∀ name ∈ step.names, isReserved name = false := by
  have htake := takeSteps_of_configures ⟨setup, hsetup⟩ h
  rw [takeSteps, apply_of_setup hsetup] at htake
  exact takeSteps_configAfter hlater htake

/-- Steps that succeed did nothing at all, or one of them was the last to configure. -/
theorem new_or_configured (h : takeSteps .new steps = .ok builder) :
    steps = [] ∧ builder = .new ∨
    ∃ before step setup later, steps = before ++ step :: later ∧ step.setup? = some setup ∧
      (∀ other ∈ later, ¬ other.Configures) ∧ builder = ⟨some (setup.configAfter later)⟩ ∧
      ∀ other ∈ later, ∀ name ∈ other.names, isReserved name = false := by
  by_cases hsteps : ∃ step ∈ steps, step.Configures
  · obtain ⟨before, step, later, rfl, ⟨setup, hsetup⟩, hlater⟩ := exists_last_configures hsteps
    exact .inr ⟨before, step, setup, later, rfl, hsetup, hlater, configured_of_takeSteps hsetup hlater h⟩
  · obtain rfl := eq_nil_of_takeSteps (fun step hstep hc => hsteps ⟨step, hstep, hc⟩) h
    cases h
    exact .inl ⟨rfl, rfl⟩

/-- A step fails after others exactly for one of the two reasons. -/
theorem apply_eq_error_iff (h : takeSteps .new steps = .ok builder) (step : BuilderStep σ)
    (e : GenerationError) : step.apply builder = .error e ↔ step.Refused steps e := by
  cases hoperation : step.operation? with
  | none =>
    obtain ⟨setup, hsetup⟩ := configures_iff.2 hoperation
    rw [apply_of_setup hsetup]
    refine ⟨nofun, fun hrefused => ?_⟩
    cases hrefused with
    | tooEarly _ hsome => rw [hoperation] at hsome; cases hsome
    | reserved _ hname => rw [names_eq_nil hoperation] at hname; cases hname
  | some operation =>
    obtain ⟨rfl, rfl⟩ | ⟨before, last, setup, later, rfl, hsetup, -, rfl, -⟩ := new_or_configured h
    · rw [apply_new hoperation]
      refine ⟨fun herror => ?_, fun hrefused => ?_⟩
      · cases herror
        exact .tooEarly nofun hoperation
      · cases hrefused with
        | tooEarly _ hsome => rw [hoperation] at hsome; cases hsome; rfl
        | reserved hconfigured _ => obtain ⟨_, hother, _⟩ := hconfigured; cases hother
    · have hlast : last ∈ before ++ last :: later := List.mem_append_right _ List.mem_cons_self
      rw [apply_configAfter hoperation]
      refine ⟨fun herror => ?_, fun hrefused => ?_⟩
      · cases hname : step.names.find? isReserved with
        | none => rw [hname] at herror; cases herror
        | some name =>
          rw [hname] at herror
          cases herror
          exact .reserved ⟨last, hlast, setup, hsetup⟩ hname
      · cases hrefused with
        | tooEarly hnone _ => exact absurd ⟨setup, hsetup⟩ (hnone last hlast)
        | reserved _ hname => rw [hname]

/-- After steps that succeed there is a configuration if some step configures, and then it is that of the steps
from the last such step on. The next step fails only if it registers too early or under a reserved name. -/
theorem takeSteps_decided (h : takeSteps .new steps = .ok builder) :
    ((∃ config, builder.build = .ok config) ↔ ∃ step ∈ steps, step.Configures) ∧
    (∀ before step later, steps = before ++ step :: later → step.Configures →
      buildBy (step :: later) = builder.build) ∧
    (∀ config, builder.configured = some config → ∃ before step setup later,
      steps = before ++ step :: later ∧ step.setup? = some setup ∧ (∀ other ∈ later, ¬ other.Configures) ∧
      config.ResultsFrom setup later) ∧
    ∀ (step : BuilderStep σ) e, step.apply builder = .error e ↔ step.Refused steps e := by
  refine ⟨?_, fun before step later hsplit hstep => ?_, fun config hconfig => ?_, apply_eq_error_iff h⟩
  · obtain ⟨rfl, rfl⟩ | ⟨before, step, setup, later, rfl, hsetup, -, rfl, -⟩ := new_or_configured h
    · refine iff_of_false ?_ ?_
      · rintro ⟨config, hbuild⟩
        cases hbuild
      · rintro ⟨step, hstep, -⟩
        cases hstep
    · exact iff_of_true ⟨_, rfl⟩ ⟨step, List.mem_append_right _ List.mem_cons_self, setup, hsetup⟩
  · rw [hsplit] at h
    rw [buildBy, takeSteps_of_configures hstep h]
    rfl
  · obtain ⟨rfl, rfl⟩ | ⟨before, step, setup, later, rfl, hsetup, hlater, rfl, hnames⟩ := new_or_configured h
    · cases hconfig
    · cases hconfig
      exact ⟨before, step, setup, later, rfl, hsetup, hlater, setup.resultsFrom_configAfter hnames⟩

/-- A step that configures drops what was registered before, and the standard helper can be replaced after it. -/
theorem takeSteps_decided_reconfigured :
    let steps : List (BuilderStep Unit) := [.ofOptions {}, .registerHelpers [("extra", tsType)],
      .configure .entitiesOnly .typescript, .registerHelpers [(spacesName, tsType)]]
    ∃ builder, takeSteps .new steps = .ok builder ∧
      buildBy (steps.drop 2) = builder.build ∧
      (∃ config, builder.build = .ok config ∧ config.helpers.names = [spacesName, tsTypeName]) ∧
      (BuilderStep.registerHelpers [("extra", tsType), ("each", tsType)]).Refused steps
        (.configuration (.reservedName "each")) := by
  intro steps
  have h : takeSteps .new steps = .ok ⟨some (Setup.configAfter ⟨.entitiesOnly, .typescript, .empty⟩
      [.registerHelpers [(spacesName, tsType)]])⟩ := rfl
  obtain ⟨-, hlast, -, hrefused⟩ := takeSteps_decided h
  have hfails : (BuilderStep.registerHelpers [("extra", tsType), ("each", tsType)]).apply
      (⟨some (Setup.configAfter ⟨.entitiesOnly, .typescript, .empty⟩
        [.registerHelpers [(spacesName, tsType)]])⟩ : GenerationBuilder Unit) =
      .error (.configuration (.reservedName "each")) := rfl
  refine ⟨_, h, hlast (steps.take 2) _ _ rfl ⟨_, rfl⟩, ⟨_, rfl, by decide⟩, (hrefused _ _).1 hfails⟩

end GenerationBuilder

end EntityScaffold
