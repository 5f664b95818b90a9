import EntityScaffold.Proofs.Generation.Declared
import EntityScaffold.Proofs.Generation.Modes
import EntityScaffold.Proofs.Template.FurtherHelpers
import EntityScaffold.Proofs.Template.SourceCalls

/-! # Database contexts in either language

A run for the database context alone is the same in both languages of entity types, as long as its templates do
not call the helper that only one of them has. A template that does not mention the helper can still call it,
where the name of a tag is computed.
-/

namespace EntityScaffold

open Template

variable {σ : Type}

/-! ## Computed names -/

namespace Template

/-- A tag has a name that is computed, and which comes out as `name`. -/
inductive Evaluation.ComputesName (env : Environment) (name : String) : Evaluation → Prop
  | tag {limit : Nat} {call computing : Call} {binders : Binders} {isBlock : Bool} {body inverse : Branch}
    {scope after : Scope} : call.callee = .computed computing →
      call.callee.name env scope = (.ok name, after) →
        ComputesName env name ⟨limit, .tag call binders isBlock body inverse, scope⟩
  | expression {limit : Nat} {call computing : Call} {scope after : Scope} :
    call.callee = .computed computing → call.callee.name env scope = (.ok name, after) →
      ComputesName env name ⟨limit, .element (.expression call), scope⟩

/-- A call is not written with a name. Its name may be computed. -/
def Call.isNotWritten (name : String) (_ : Bool) (call : Call) : Bool := call.callee.writtenName? != some name

/-- What is written in a source that does not mention a name has other names. -/
theorem allowsWritten_isNotWritten {name : String} {source : List Char} (habsent : ¬ name.toList <:+: source) :
    AllowsWritten source (Call.isNotWritten name) := by
  intro isBlock call hwritten
  rw [Call.isNotWritten, bne_iff_ne]
  exact fun hname => habsent (hwritten name hname)

theorem Callee.exists_computed {callee : Callee} (h : callee.writtenName? = none) :
    ∃ computing, callee = .computed computing := by
  cases callee with
  | word _ | path _ => cases h
  | computed computing => exact ⟨computing, rfl⟩

/-- A helper under a name that is not written is asked for only by a computed name. -/
theorem Evaluation.computesName_of_uses {env : Environment} {name : String} {evaluation : Evaluation}
    (honly : evaluation.task.callsOnly (Call.isNotWritten name) = true) (huses : evaluation.Uses env [name] []) :
    evaluation.ComputesName env name := by
  cases huses with
  | @call limit call binders isBlock body inverse prepared scope after hgiven hasks =>
    simp only [Task.callsOnly, Bool.and_eq_true, Call.isNotWritten, bne_iff_ne] at honly
    have hcalled : prepared.name = name := by
      cases isBlock with
      | true => cases show prepared.name ∈ [] from hasks
      | false => exact List.mem_singleton.1 hasks
    cases hwritten : call.callee.writtenName? with
    | some own =>
      rw [Call.name_of_prepare hwritten hgiven] at hcalled
      exact absurd (hwritten.trans (congrArg some hcalled)) honly.1.1.1
    | none =>
      obtain ⟨computing, hcomputed⟩ := Callee.exists_computed hwritten
      obtain ⟨_, _, hnamed, hgiven⟩ := Render.exists_of_bind hgiven
      obtain ⟨_, _, _, hgiven⟩ := Render.exists_of_bind hgiven
      obtain ⟨_, _, _, hgiven⟩ := Render.exists_of_bind hgiven
      cases hgiven
      subst hcalled
      exact .tag hcomputed hnamed
  | @bare limit call own scope after hbare hnamed hmem =>
    simp only [Task.callsOnly, Element.callsOnly, Bool.and_eq_true, Call.isNotWritten, bne_iff_ne] at honly
    obtain rfl := List.mem_singleton.1 hmem
    cases hwritten : call.callee.writtenName? with
    | some other => exact absurd (hwritten.trans (congrArg some (Callee.name_of_written hwritten hnamed).symm)) honly.1
    | none =>
      obtain ⟨computing, hcomputed⟩ := Callee.exists_computed hwritten
      exact .expression hcomputed hnamed

/-- A helper that has not the name of an operator shadows a value only where it is asked for. -/
theorem Evaluation.Shadowed.uses {env other : Environment} {name taken : String} {evaluation : Evaluation}
    (hshadowed : evaluation.Shadowed env other taken) (h : env.Extends other [name] [])
    (hfree : Operator.named? name = none) : evaluation.Uses env [name] [] := by
  cases hshadowed with
  | operator hgiven hlost =>
    obtain ⟨hoperator, hbefore, hregistered⟩ := hlost
    rw [List.mem_singleton.1 (h.mem_of_registered hbefore hregistered), hfree] at hoperator
    cases hoperator
  | value hbare hnamed hunknown hknown _ =>
    obtain ⟨hbefore, hregistered⟩ := Environment.registered_of_known hunknown hknown
    exact .bare hbare hnamed (h.mem_of_registered hbefore hregistered)

end Template

/-! ## Configurations -/

/-- The step for the database context alone, in a language. -/
def BuilderStep.forDbContext (language : LanguageMode) : BuilderStep σ → BuilderStep σ
  | ofOptions options => .ofOptions { options with mode := .dbContextOnly, language := language }
  | configure _ _ => .configure .dbContextOnly language
  | other => other

/-- Two configurations for the database context alone, the first in C# and the second in TypeScript. Of the
helpers only that of TypeScript is different. -/
structure GenerationConfig.DiffersInLanguage (csharp typescript : GenerationConfig σ) : Prop where
  isCsharp : csharp.mode = .dbContextOnly ∧ csharp.language = .csharp ∧ csharp.HasOwnRoles
  isTypescript : typescript.mode = .dbContextOnly ∧ typescript.language = .typescript ∧ typescript.HasOwnRoles
  transformers : typescript.transformers = csharp.transformers
  blockHelpers : typescript.blockHelpers = csharp.blockHelpers
  helpers : ∀ name ≠ tsTypeName, typescript.helpers.get? name = csharp.helpers.get? name
  hasTsType : (typescript.helpers.get? tsTypeName).isSome = true

namespace GenerationConfig.DiffersInLanguage

variable {csharp typescript : GenerationConfig σ}

/-- The two languages start with the same helpers but one. -/
theorem start (transformers : TransformerSet σ) :
    DiffersInLanguage { (.start .dbContextOnly .csharp : GenerationConfig σ) with transformers := transformers }
      { (.start .dbContextOnly .typescript : GenerationConfig σ) with transformers := transformers } where
  isCsharp := ⟨rfl, rfl, rfl⟩
  isTypescript := ⟨rfl, rfl, rfl⟩
  transformers := rfl
  blockHelpers := rfl
  helpers name h := by
    have hother : [(tsTypeName, tsType)].reverse.lookup name = none :=
      lookup_eq_none_of_notMem fun hmem => h (List.mem_singleton.1 hmem)
    change (HelperRegistry.standard.extend [(tsTypeName, tsType)]).get? name =
      (HelperRegistry.standard.extend []).get? name
    rw [Registry.get?_extend, Registry.get?_extend, hother]
    rfl
  hasTsType := rfl

/-- Registering the same helpers keeps the difference. -/
theorem extend (h : csharp.DiffersInLanguage typescript) (helpers : List (String × InlineHelper)) :
    DiffersInLanguage { csharp with helpers := csharp.helpers.extend helpers }
      { typescript with helpers := typescript.helpers.extend helpers } where
  isCsharp := h.isCsharp
  isTypescript := h.isTypescript
  transformers := h.transformers
  blockHelpers := h.blockHelpers
  helpers name hname := by
    change (typescript.helpers.extend helpers).get? name = (csharp.helpers.extend helpers).get? name
    rw [Registry.get?_extend, Registry.get?_extend, h.helpers name hname]
  hasTsType := by
    change ((typescript.helpers.extend helpers).get? tsTypeName).isSome = true
    rw [Registry.get?_extend, Option.isSome_or, h.hasTsType, Bool.or_true]

end GenerationConfig.DiffersInLanguage

namespace GenerationBuilder

variable {builder other next after : GenerationBuilder σ}

/-- Whatever is configured in both builders differs in the language. -/
def DiffersInLanguage (builder other : GenerationBuilder σ) : Prop :=
  ∀ config config', builder.configured = some config → other.configured = some config' →
    config.DiffersInLanguage config'

/-- The same change in both builders keeps the difference if it does so in what is configured. -/
theorem DiffersInLanguage.change {operation : String}
    {f : GenerationConfig σ → Except GenerationError (GenerationConfig σ)}
    (hdiffers : builder.DiffersInLanguage other)
    (hf : ∀ config config' changed changed', config.DiffersInLanguage config' → f config = .ok changed →
      f config' = .ok changed' → changed.DiffersInLanguage changed')
    (h : builder.change operation f = .ok next) (h' : other.change operation f = .ok after) :
    next.DiffersInLanguage after := by
  obtain ⟨config, changed, hconfig, hchanged, rfl⟩ := exists_of_change h
  obtain ⟨config', changed', hconfig', hchanged', rfl⟩ := exists_of_change h'
  rintro _ _ ⟨⟩ ⟨⟩
  exact hf config config' changed changed' (hdiffers config config' hconfig hconfig') hchanged hchanged'

theorem DiffersInLanguage.step {step : BuilderStep σ} (hdiffers : builder.DiffersInLanguage other)
    (h : (step.forDbContext .csharp).apply builder = .ok next)
    (h' : (step.forDbContext .typescript).apply other = .ok after) : next.DiffersInLanguage after := by
  cases step with
  | ofOptions options =>
    cases h
    cases h'
    rintro _ _ ⟨⟩ ⟨⟩
    exact .start _
  | configure mode language =>
    cases h
    cases h'
    rintro _ _ ⟨⟩ ⟨⟩
    exact .start _
  | registerHelpers helpers =>
    refine hdiffers.change (fun config config' changed changed' hd hc hc' => ?_) h h'
    obtain ⟨free, hfree, rfl⟩ := exists_ok_of_map hc
    rw [hfree] at hc'
    cases hc'
    exact hd.extend free
  | registerBlockHelpers helpers =>
    refine hdiffers.change (fun config config' changed changed' hd hc hc' => ?_) h h'
    obtain ⟨free, hfree, rfl⟩ := exists_ok_of_map hc
    rw [hfree] at hc'
    cases hc'
    exact { hd with blockHelpers := congrArg (·.extend free) hd.blockHelpers }
  | registerTransformers transformers =>
    refine hdiffers.change (fun config config' changed changed' hd hc hc' => ?_) h h'
    cases hc
    cases hc'
    exact { hd with transformers := rfl }

theorem DiffersInLanguage.steps {steps : List (BuilderStep σ)} (hdiffers : builder.DiffersInLanguage other)
    (h : builder.takeSteps (steps.map (·.forDbContext .csharp)) = .ok next)
    (h' : other.takeSteps (steps.map (·.forDbContext .typescript)) = .ok after) :
    next.DiffersInLanguage after := by
  induction steps generalizing builder other with
  | nil =>
    cases h
    cases h'
    exact hdiffers
  | cons step rest ih =>
    obtain ⟨middle, hs, hrest⟩ := exists_ok_of_bind h
    obtain ⟨middle', hs', hrest'⟩ := exists_ok_of_bind h'
    exact ih (hdiffers.step hs hs') hrest hrest'

/-- The same steps for both languages build configurations that differ in nothing else. -/
theorem differsInLanguage_of_buildBy {steps : List (BuilderStep σ)} {csharp typescript : GenerationConfig σ}
    (h : buildBy (steps.map (·.forDbContext .csharp)) = .ok csharp)
    (h' : buildBy (steps.map (·.forDbContext .typescript)) = .ok typescript) :
    csharp.DiffersInLanguage typescript := by
  obtain ⟨builder, hs, hbuild⟩ := exists_ok_of_bind h
  obtain ⟨other, hs', hbuild'⟩ := exists_ok_of_bind h'
  have hnone : (new : GenerationBuilder σ).DiffersInLanguage new := by rintro _ _ ⟨⟩
  have hdiffers := hnone.steps hs hs'
  unfold build at hbuild hbuild'
  split at hbuild
  · split at hbuild'
    · next hconfig _ _ hconfig' =>
      cases hbuild
      cases hbuild'
      exact hdiffers _ _ hconfig hconfig'
    · cases hbuild'
  · cases hbuild

end GenerationBuilder

/-! ## Renderers -/

/-- Rendering the template of a name comes to a tag whose name is computed and comes out as `computed`. -/
def Renderer.ComputesName (renderer : Renderer) (name : String) (data : Json) (computed : String) : Prop :=
  ∃ body part, renderer.templates.get? name = some body ∧ renderer.ComesTo (some name) body data part ∧
    part.ComputesName (renderer.environment data) computed

/-- The sources of the database context that are there do not mention a name. -/
def TemplateSource.OmitsInDbContext (templates : TemplateSource) (name : String) : Prop :=
  ∀ part ∈ roleParts dbContextTemplate dbContextPartials, ∀ source, templates part.path = some source →
    ¬ name.toList <:+: source.toList

theorem exists_source_of_mem_compileAll {sources : List (String × List Char)} {bodies : List (String × Body)}
    {entry : String × Body} (h : compileAll sources = some bodies) (hentry : entry ∈ bodies) :
    ∃ source, (entry.1, source) ∈ sources ∧ Template.parseChars source = .ok entry.2 := by
  induction sources generalizing bodies with
  | nil =>
    cases h
    cases hentry
  | cons first rest ih =>
    obtain ⟨name, source⟩ := first
    obtain ⟨body, others, hbody, hothers, rfl⟩ := compileAll_cons_eq_some h
    rcases List.mem_cons.1 hentry with rfl | hentry
    · exact ⟨source, List.mem_cons_self, hbody⟩
    · obtain ⟨source, hmem, hparse⟩ := ih hothers hentry
      exact ⟨source, List.mem_cons_of_mem _ hmem, hparse⟩

/-- What a role adds is not written with a name that its sources do not mention. -/
theorem RoleAdds.callsOnly {templates : TemplateSource} {bodies : List (String × Body)} {name : String}
    (h : RoleAdds templates true dbContextTemplate dbContextPartials bodies)
    (homits : templates.OmitsInDbContext name) :
    ∀ entry ∈ bodies, entry.2.callsOnly (Call.isNotWritten name) = true := by
  intro entry hentry
  obtain ⟨chars, hmem, hparse⟩ := exists_source_of_mem_compileAll h.2 hentry
  obtain ⟨part, hpart, hsome⟩ := List.mem_filterMap.1 hmem
  obtain ⟨source, hsource, heq⟩ := Option.map_eq_some_iff.1 hsome
  obtain ⟨-, rfl⟩ := Prod.mk.inj heq
  rw [← Template.parse_eq] at hparse
  exact callsOnly_of_parse (allowsWritten_isNotWritten (homits part hpart source hsource)) hparse

/-- The templates for the database context alone are those that are added for it. -/
theorem GenerationConfig.mem_of_get?_rendererOf {config : GenerationConfig σ} {bodies : List (String × Body)}
    {name : String} {body : Body} (h : (config.rendererOf bodies []).templates.get? name = some body) :
    (name, body) ∈ bodies := by
  rw [get?_rendererOf] at h
  obtain ⟨before, after, hsplit, -⟩ := List.lookup_eq_some_iff.1 (h : bodies.reverse.lookup name = some body)
  rw [← List.mem_reverse, hsplit]
  exact List.mem_append_right _ List.mem_cons_self

namespace GenerationConfig.DiffersInLanguage

variable {csharp typescript : GenerationConfig σ}

theorem get?_unreserved (h : csharp.DiffersInLanguage typescript) {name : String} (hname : name ≠ tsTypeName) :
    (Renderer.unreserved typescript.helpers.entries).get? name =
      (Renderer.unreserved csharp.helpers.entries).get? name := by
  have hsame : typescript.helpers.entries.get? name = csharp.helpers.entries.get? name := h.helpers name hname
  rw [Renderer.get?_unreserved, Renderer.get?_unreserved, hsame]

/-- The environment of the second configuration has the helper of TypeScript, and else the same helpers. -/
theorem extends_environment (h : csharp.DiffersInLanguage typescript) (bodies : List (String × Body))
    (data : Json) : ((csharp.rendererOf bodies []).environment data).Extends
      ((typescript.rendererOf bodies []).environment data) [tsTypeName] [] where
  data := rfl
  templates := rfl
  inlineLookup name hname := h.get?_unreserved fun heq => hname (List.mem_singleton.2 heq)
  blockLookup name _ := by
    change (Renderer.unreserved typescript.blockHelpers.entries).get? name = _
    rw [h.blockHelpers]
    rfl
  kept name hregistered := by
    rw [Environment.isRegistered, Bool.or_eq_true] at hregistered ⊢
    by_cases hname : name = tsTypeName
    · subst hname
      refine .inl ?_
      change ((Renderer.unreserved typescript.helpers.entries).get? tsTypeName).isSome = true
      have hfree : isReserved tsTypeName = false := by decide
      rw [Renderer.get?_unreserved, hfree]
      exact h.hasTsType
    · refine hregistered.imp (fun hinline => ?_) fun hblock => ?_
      · change ((Renderer.unreserved typescript.helpers.entries).get? name).isSome = true
        rw [h.get?_unreserved hname]
        exact hinline
      · change ((Renderer.unreserved typescript.blockHelpers.entries).get? name).isSome = true
        rw [h.blockHelpers]
        exact hblock

/-- The template of the database context renders to the same text or error, unless a tag computes the name of the
helper of TypeScript. -/
theorem renderNamed_eq (h : csharp.DiffersInLanguage typescript) {templates : TemplateSource}
    {bodies : List (String × Body)} (hadds : RoleAdds templates true dbContextTemplate dbContextPartials bodies)
    (homits : templates.OmitsInDbContext tsTypeName) {name : String} {data : Json}
    (hcomputed : ¬ (csharp.rendererOf bodies []).ComputesName name data tsTypeName) :
    (typescript.rendererOf bodies []).renderNamed name data =
      (csharp.rendererOf bodies []).renderNamed name data := by
  have hsame : ∀ name, (typescript.rendererOf bodies []).templates.get? name =
      (csharp.rendererOf bodies []).templates.get? name := fun _ => rfl
  have hbodies : ∀ name body, (csharp.rendererOf bodies []).templates.get? name = some body →
      body.callsOnly (Call.isNotWritten tsTypeName) = true := by
    exact fun name body hbody => hadds.callsOnly homits (name, body) (mem_of_get?_rendererOf hbody)
  unfold Renderer.renderNamed
  rw [hsame]
  cases hbody : (csharp.rendererOf bodies []).templates.get? name with
  | none => rfl
  | some body =>
    have hextends := h.extends_environment bodies data
    have honly : (csharp.rendererOf bodies []).CallsOnly (Call.isNotWritten tsTypeName) body :=
      ⟨hbodies name body hbody, hbodies⟩
    have hunused : (csharp.rendererOf bodies []).AsksForNone [tsTypeName] [] (some name) body data :=
      fun part hcomes huses =>
        hcomputed ⟨body, part, hbody, hcomes, Evaluation.computesName_of_uses (honly.of_comesTo hcomes) huses⟩
    refine (Renderer.carries_renderBody hextends name hunused).same fun taken hshadows => ?_
    obtain ⟨part, hcomes, hshadowed⟩ := hshadows
    exact hunused part hcomes (hshadowed.uses hextends (by decide))

end GenerationConfig.DiffersInLanguage

/-! ## Names -/

namespace EntityNames

/-- The extension of files matters to nothing but the files that failures tell. -/
theorem foldlM_resolveNext_extension (transformers : TransformerSet σ) (extension other : String)
    (names : List String) (known : EntityNames) {failures told : List EntityFailure}
    (h : failures.map EntityFailure.error = told.map EntityFailure.error) (s : σ) :
    let first := names.foldlM (resolveNext transformers extension) (known, failures) s
    let second := names.foldlM (resolveNext transformers other) (known, told) s
    first.1.1 = second.1.1 ∧
      first.1.2.map EntityFailure.error = second.1.2.map EntityFailure.error ∧ first.2 = second.2 := by
  induction names generalizing known failures told s with
  | nil => exact ⟨rfl, h, rfl⟩
  | cons name rest ih =>
    have herror (outcome : Except (GenerationError × Option String) ResolvedName) :
        (failureOf extension name outcome).toList.map EntityFailure.error =
          (failureOf other name outcome).toList.map EntityFailure.error := by
      cases outcome <;> rfl
    rw [List.foldlM_cons, List.foldlM_cons, state_bind, state_bind]
    by_cases hknown : known.contains name = true
    · rw [resolveNext_of_contains hknown, resolveNext_of_contains hknown]
      exact ih known h s
    · rw [resolveNext_of_not_contains hknown, resolveNext_of_not_contains hknown]
      refine ih _ ?_ _
      rw [List.map_append, List.map_append, h, herror]

end EntityNames

/-! ## Runs -/

theorem ModelGenerator.dbContextFileName_eq (contextName : String) :
    dbContextFileName contextName = contextName ++ ".cs" := String.append_assoc ..

namespace Scaffolder

variable {csharp typescript : GenerationConfig σ} {templates : TemplateSource} {options : ScaffoldOptions}
  {first second : Scaffolder σ} {model : DatabaseModel} {s : σ}

/-- The scaffolder for the database context alone has the templates of that role. -/
theorem eq_rendererOf_of_new {config : GenerationConfig σ} (hmode : config.mode = .dbContextOnly)
    (hroles : config.HasOwnRoles) (h : new config templates options = .ok first) : ∃ bodies,
      RoleAdds templates true dbContextTemplate dbContextPartials bodies ∧
        first = ⟨config, options, config.rendererOf bodies []⟩ := by
  have hconfig : config.inMode .dbContextOnly = config := by
    unfold GenerationConfig.HasOwnRoles at hroles
    rw [← hmode, GenerationConfig.inMode, ← hroles]
  rw [← hconfig] at h
  obtain ⟨bodies, others, hadds, hnone, hfirst⟩ := new_inMode_eq_ok_iff.1 h
  obtain rfl : others = [] := hnone
  rw [hconfig] at hfirst
  exact ⟨bodies, hadds, hfirst⟩

/-- Runs with the same transformers resolve the names alike, and leave the same state. -/
theorem resolution_eq (h : second.config.transformers = first.config.transformers) (model : DatabaseModel) (s : σ) :
    (second.resolution model s).1 = (first.resolution model s).1 ∧
      (second.resolution model s).2.map EntityFailure.error = (first.resolution model s).2.map EntityFailure.error ∧
      (second.generate model s).2 = (first.generate model s).2 := by
  obtain ⟨hnames, hfailures, hstate⟩ := EntityNames.foldlM_resolveNext_extension first.config.transformers
    second.config.roles.language.extension first.config.roles.language.extension model.namesInOrder
    .empty rfl s
  unfold resolution
  rw [h]
  refine ⟨hnames, hfailures, ?_⟩
  change (EntityNames.resolve second.config.transformers model _ s).2 =
    (EntityNames.resolve first.config.transformers model _ s).2
  rw [h]
  exact hstate

/-- A run for the database context alone is the same as another one: the names are resolved alike, and so are the
database contexts. -/
structure SameDbContext (first second : Scaffolder σ) (model : DatabaseModel) (s : σ) : Prop where
  names : (second.resolution model s).2 = [] ↔ (first.resolution model s).2 = []
  dbContext : second.dbContextOutcome (second.runScope model s) model =
    first.dbContextOutcome (first.runScope model s) model
  noEntity : ∀ entity ∈ model.entityTypes,
    (first.entityOutcome (first.runScope model s) entity).result = .ok none ∧
      (second.entityOutcome (second.runScope model s) entity).result = .ok none

/-- The outcome for the database context is its view, rendered. -/
theorem dbContextOutcome_eq (scaffolder : Scaffolder σ) {language : LanguageMode}
    (hroles : scaffolder.config.roles = .select .dbContextOnly language) (model : DatabaseModel) (s : σ) :
    scaffolder.dbContextOutcome (scaffolder.runScope model s) model =
      let contextName := scaffolder.options.contextNameFor model
      let fileName := ModelGenerator.dbContextFileName contextName
      ⟨contextName, true, ((DbContextView.build (scaffolder.runScope model s) model).bind fun view =>
        (scaffolder.renderer.renderNamed dbContextTemplate view.toJson).map fun code =>
          some ⟨fileName, code⟩).mapError fun e => .mk contextName (some fileName) e⟩ := by
  have hlanguage : (scaffolder.runScope model s).language = language := by
    change scaffolder.config.roles.language = language
    rw [hroles]
    rfl
  unfold dbContextOutcome
  rw [hroles]
  refine congrArg (fun result => Outcome.mk _ true (Except.mapError _ result)) ?_
  change ModelGenerator.generateDbContext ⟨language⟩ .rendering (scaffolder.runScope model s) model = _
  rw [ModelGenerator.generateDbContext, if_neg (not_not_intro hlanguage)]
  dsimp only [DbContextGenerator.writeCode]
  cases DbContextView.build (scaffolder.runScope model s) model with
  | error e => rfl
  | ok view =>
    change (scaffolder.renderer.renderNamed dbContextTemplate view.toJson >>= _) >>= _ =
      (scaffolder.renderer.renderNamed dbContextTemplate view.toJson).map _
    cases scaffolder.renderer.renderNamed dbContextTemplate view.toJson <;> rfl

namespace SameDbContext

theorem runEntries_eq (h : first.SameDbContext second model s) :
    second.runEntries model s = first.runEntries model s := by
  have hnone (scaffolder : Scaffolder σ) (hentity : ∀ entity ∈ model.entityTypes,
      (scaffolder.entityOutcome (scaffolder.runScope model s) entity).result = .ok none) :
      (model.entityTypes.filterMap fun entity =>
        Outcome.entry? (scaffolder.entityOutcome (scaffolder.runScope model s) entity)) = [] :=
    List.filterMap_eq_nil_iff.2 fun entity he => entry?_eq_none (hentity entity he)
  rw [Scaffolder.runEntries_eq, Scaffolder.runEntries_eq, h.dbContext, hnone first fun e he => (h.noEntity e he).1,
    hnone second fun e he => (h.noEntity e he).2]

theorem succeeds_iff (h : first.SameDbContext second model s) :
    second.Succeeds model s ↔ first.Succeeds model s := by
  rw [Scaffolder.succeeds_iff, Scaffolder.succeeds_iff, h.names, h.dbContext]
  refine and_congr_right fun _ => and_congr_right fun _ => iff_of_true (fun e he => ?_) fun e he => ?_
  · exact ⟨none, (h.noEntity e he).2⟩
  · exact ⟨none, (h.noEntity e he).1⟩

/-- Both runs make the same files, or neither makes any. -/
theorem generate_eq_ok_iff (h : first.SameDbContext second model s) {made : ScaffoldedModel} :
    (second.generate model s).1 = .ok made ↔ (first.generate model s).1 = .ok made := by
  rw [Scaffolder.generate_eq_ok_iff, Scaffolder.generate_eq_ok_iff]
  constructor
  · intro hmakes
    exact ⟨h.succeeds_iff.1 hmakes.succeeds, h.runEntries_eq ▸ hmakes.entries, h.dbContext ▸ hmakes.dbContextFile⟩
  · intro hmakes
    exact ⟨h.succeeds_iff.2 hmakes.succeeds, h.runEntries_eq.symm ▸ hmakes.entries,
      h.dbContext.symm ▸ hmakes.dbContextFile⟩

/-- The only file of a run for the database context alone is that of the database context. -/
theorem entries_of_generate (h : first.SameDbContext second model s) {language : LanguageMode}
    (hroles : first.config.roles = .select .dbContextOnly language) {made : ScaffoldedModel}
    (hmade : (first.generate model s).1 = .ok made) :
    made.dbContextFile = some (ModelGenerator.dbContextFileName (first.options.contextNameFor model)) ∧
      ∃ code, made.files.entries =
        [(ModelGenerator.dbContextFileName (first.options.contextNameFor model), code)] := by
  have hmakes := makes_of_generate hmade
  have hnone : (model.entityTypes.filterMap fun entity =>
      Outcome.entry? (first.entityOutcome (first.runScope model s) entity)) = [] :=
    List.filterMap_eq_nil_iff.2 fun entity he => entry?_eq_none (h.noEntity entity he).1
  obtain ⟨-, ⟨file, hfile⟩, -⟩ := Scaffolder.succeeds_iff.1 hmakes.succeeds
  have hentries := hmakes.entries
  have hcontextFile := hmakes.dbContextFile
  rw [Scaffolder.runEntries_eq, hnone, List.append_nil] at hentries
  rw [dbContextOutcome_eq first hroles] at hfile hentries hcontextFile
  cases hview : DbContextView.build (first.runScope model s) model with
  | error e =>
    rw [hview] at hfile
    cases hfile
  | ok view =>
    rw [hview] at hfile hentries hcontextFile
    cases hcode : first.renderer.renderNamed dbContextTemplate view.toJson with
    | error e =>
      simp only [Except.bind, hcode] at hfile
      cases hfile
    | ok code =>
      simp only [Except.bind, hcode] at hentries hcontextFile
      exact ⟨hcontextFile, code, List.perm_singleton.1 hentries⟩

end SameDbContext

/-- Runs with the same transformers and options build the same view of the database context. So the runs are the
same if it is rendered alike. -/
theorem sameDbContext_of_renderNamed {language other : LanguageMode}
    (hroles : first.config.roles = .select .dbContextOnly language)
    (hroles' : second.config.roles = .select .dbContextOnly other)
    (htransformers : second.config.transformers = first.config.transformers)
    (hoptions : second.options = first.options)
    (hrendered : ∀ view, DbContextView.build (first.runScope model s) model = .ok view →
      second.renderer.renderNamed dbContextTemplate view.toJson =
        first.renderer.renderNamed dbContextTemplate view.toJson) : first.SameDbContext second model s := by
  obtain ⟨hnames, hfailures, -⟩ := resolution_eq htransformers model s
  refine ⟨?_, ?_, fun entity _ => ⟨entityOutcome_of_disabled (.inr ?_), entityOutcome_of_disabled (.inr ?_)⟩⟩
  · rw [← List.map_eq_nil_iff, hfailures, List.map_eq_nil_iff]
  · have hview : DbContextView.build (second.runScope model s) model =
        DbContextView.build (first.runScope model s) model := by
      simp only [DbContextView.build, runScope, scope, hnames, hoptions]
    rw [dbContextOutcome_eq first hroles, dbContextOutcome_eq second hroles', hview, hoptions]
    cases hbuilt : DbContextView.build (first.runScope model s) model with
    | error e => simp only [Except.bind]
    | ok view => simp only [Except.bind, hrendered view hbuilt]
  · exact congrArg (·.entityType.isEnabled) hroles
  · exact congrArg (·.entityType.isEnabled) hroles'

/-- Runs that differ in the language are the same, unless a tag computes the name of the helper of TypeScript. -/
theorem sameDbContext_of_new (hdiffers : csharp.DiffersInLanguage typescript)
    (homits : templates.OmitsInDbContext tsTypeName) (hfirst : new csharp templates options = .ok first)
    (hsecond : new typescript templates options = .ok second)
    (hcomputed : ∀ view, DbContextView.build (first.runScope model s) model = .ok view →
      ¬ first.renderer.ComputesName dbContextTemplate view.toJson tsTypeName) :
    first.SameDbContext second model s := by
  obtain ⟨hmode, hlanguage, hroles⟩ := hdiffers.isCsharp
  obtain ⟨hmode', hlanguage', hroles'⟩ := hdiffers.isTypescript
  obtain ⟨bodies, hadds, rfl⟩ := eq_rendererOf_of_new hmode hroles hfirst
  obtain ⟨others, hadds', rfl⟩ := eq_rendererOf_of_new hmode' hroles' hsecond
  obtain rfl : bodies = others := Option.some_inj.1 (hadds.2.symm.trans hadds'.2)
  have hselect : csharp.roles = .select .dbContextOnly .csharp := by rw [hroles, hmode, hlanguage]
  have hselect' : typescript.roles = .select .dbContextOnly .typescript := by rw [hroles', hmode', hlanguage']
  exact sameDbContext_of_renderNamed hselect hselect' hdiffers.transformers rfl fun view hview =>
    hdiffers.renderNamed_eq hadds homits (hcomputed view hview)

/-- For the database context alone both languages declare the same templates. -/
theorem GenerationConfig.DiffersInLanguage.declared_eq (h : csharp.DiffersInLanguage typescript) :
    typescript.roles.declared = csharp.roles.declared := by
  obtain ⟨hmode, hlanguage, hroles⟩ := h.isCsharp
  obtain ⟨hmode', hlanguage', hroles'⟩ := h.isTypescript
  rw [hroles, hroles', hmode, hmode', hlanguage, hlanguage']
  rfl

/-- For the database context alone, configurations that are built by the same steps in either language start or fail
alike if the templates do not mention the helper of TypeScript. As long as no tag computes its name, their runs make
the same file, or neither makes any, and the transformers are left in the same state. -/
theorem new_forDbContext {steps : List (BuilderStep σ)}
    (hcsharp : GenerationBuilder.buildBy (steps.map (·.forDbContext .csharp)) = .ok csharp)
    (htypescript : GenerationBuilder.buildBy (steps.map (·.forDbContext .typescript)) = .ok typescript)
    (homits : templates.OmitsInDbContext tsTypeName) (options : ScaffoldOptions) :
    (∀ error, new csharp templates options = .error error ↔ new typescript templates options = .error error) ∧
    ∀ first second, new csharp templates options = .ok first → new typescript templates options = .ok second →
      ∀ (model : DatabaseModel) (s : σ),
        (∀ view, DbContextView.build (first.runScope model s) model = .ok view →
          ¬ first.renderer.ComputesName dbContextTemplate view.toJson tsTypeName) →
        (∀ made, (first.generate model s).1 = .ok made ↔ (second.generate model s).1 = .ok made) ∧
        (∀ made, (first.generate model s).1 = .ok made →
          made.dbContextFile = some (options.contextNameFor model ++ ".cs") ∧
            ∃ code, made.files.entries = [(options.contextNameFor model ++ ".cs", code)]) ∧
        (second.generate model s).2 = (first.generate model s).2 := by
  have hdiffers := GenerationBuilder.differsInLanguage_of_buildBy hcsharp htypescript
  refine ⟨fun error => ?_, fun first second hfirst hsecond model s hcomputed => ?_⟩
  · rw [new_eq_error_iff, new_eq_error_iff, GenerationConfig.DiffersInLanguage.declared_eq hdiffers]
  · have hsame := sameDbContext_of_new hdiffers homits hfirst hsecond hcomputed
    obtain ⟨hconfig, hoptions⟩ := of_new hfirst
    obtain ⟨hconfig', -⟩ := of_new hsecond
    obtain ⟨hmode, hlanguage, hroles⟩ := hdiffers.isCsharp
    have hselect : first.config.roles = .select .dbContextOnly .csharp := by
      rw [hconfig, hroles, hmode, hlanguage]
    have htransformers : second.config.transformers = first.config.transformers := by
      rw [hconfig, hconfig', hdiffers.transformers]
    refine ⟨fun made => hsame.generate_eq_ok_iff.symm, fun made hmade => ?_,
      (resolution_eq htransformers model s).2.2⟩
    obtain ⟨hfile, code, hentries⟩ := hsame.entries_of_generate hselect hmade
    rw [ModelGenerator.dbContextFileName_eq, hoptions] at hfile hentries
    exact ⟨hfile, code, hentries⟩

end Scaffolder

/-! ## Templates without computed names -/

/-- A call is written with a name. -/
def Template.Call.hasWrittenName (_ : Bool) (call : Call) : Bool := call.callee.writtenName?.isSome

/-- Where all calls are written with a name, no name is computed. -/
theorem Renderer.not_computesName {renderer : Renderer} {name computed : String} {data : Json}
    (h : ∀ name body, renderer.templates.get? name = some body → body.callsOnly Call.hasWrittenName = true) :
    ¬ renderer.ComputesName name data computed := by
  rintro ⟨body, part, hbody, hcomes, hcomputes⟩
  have honly : renderer.CallsOnly Call.hasWrittenName body := ⟨h name body hbody, h⟩
  have hwritten := honly.of_comesTo hcomes
  cases hcomputes with
  | tag hcallee hnamed =>
    simp only [Task.callsOnly, Bool.and_eq_true, Call.hasWrittenName, hcallee] at hwritten
    cases hwritten.1.1.1
  | expression hcallee hnamed =>
    simp only [Task.callsOnly, Element.callsOnly, Bool.and_eq_true, Call.hasWrittenName, hcallee] at hwritten
    cases hwritten.1

namespace Scaffolder

variable {config : GenerationConfig σ} {templates : TemplateSource} {options : ScaffoldOptions}
  {scaffolder : Scaffolder σ}

/-- Templates in which all calls are written with names compute none. -/
theorem not_computesName_of_new (hmode : config.mode = .dbContextOnly) (hroles : config.HasOwnRoles)
    (hnew : new config templates options = .ok scaffolder)
    (hwritten : (compileAll (presentSources templates (roleParts dbContextTemplate dbContextPartials))).any
      fun bodies => bodies.all fun entry => entry.2.callsOnly Call.hasWrittenName) (name computed : String)
    (data : Json) : ¬ scaffolder.renderer.ComputesName name data computed := by
  obtain ⟨bodies, hadds, rfl⟩ := eq_rendererOf_of_new hmode hroles hnew
  rw [hadds.2] at hwritten
  refine Renderer.not_computesName fun name body hbody => ?_
  exact List.all_eq_true.1 hwritten (name, body) (GenerationConfig.mem_of_get?_rendererOf hbody)

/-- A source with nothing but a template of the database context. -/
def contextSource (source : String) : TemplateSource :=
  fun path => if path = dbContextTemplate then some source else none

theorem omits_contextSource {source name : String} (h : ¬ name.toList <:+: source.toList) :
    (contextSource source).OmitsInDbContext name := by
  intro part _ other hother
  unfold contextSource at hother
  split at hother
  · cases hother
    exact h
  · cases hother

/-- Steps that configure entity types and register a helper. -/
def shoutSteps : List (BuilderStep Unit) :=
  [.configure .entitiesOnly .csharp, .registerHelpers [("shout", fun _ _ => .ok "!")]]

/-- The class of a database context. -/
def classSource : TemplateSource := contextSource "class {{context_name}}{{shout}}"

/-- The entries of the files that are made for a shop by the configuration that steps build. -/
def shopEntries (steps : List (BuilderStep Unit)) (templates : TemplateSource) (options : ScaffoldOptions) :
    Option (Option (List (String × String))) := do
  let config ← (GenerationBuilder.buildBy steps).toOption
  let scaffolder ← (new config templates options).toOption
  return (scaffolder.generate ⟨"Shop", []⟩ ()).1.toOption.map (·.files.entries)

theorem exists_of_shopEntries {steps : List (BuilderStep Unit)} {entries : Option (List (String × String))}
    (h : shopEntries steps templates options = some entries) : ∃ config scaffolder,
      GenerationBuilder.buildBy steps = .ok config ∧ new config templates options = .ok scaffolder ∧
        (scaffolder.generate ⟨"Shop", []⟩ ()).1.toOption.map (·.files.entries) = entries := by
  unfold shopEntries at h
  cases hconfig : GenerationBuilder.buildBy steps with
  | error e =>
    rw [hconfig] at h
    cases h
  | ok config =>
    rw [hconfig] at h
    cases hnew : new config templates options with
    | error e =>
      simp only [Except.toOption, Option.bind_eq_bind, Option.bind_some, hnew, Option.bind_none] at h
      cases h
    | ok scaffolder =>
      simp only [Except.toOption, Option.bind_eq_bind, Option.bind_some, hnew] at h
      exact ⟨config, scaffolder, rfl, hnew, Option.some_inj.1 h⟩

/-- A run that has entries makes files. -/
theorem exists_made_of_entries {model : DatabaseModel} {s : σ} {entries : List (String × String)}
    (h : (scaffolder.generate model s).1.toOption.map (·.files.entries) = some entries) :
    ∃ made, (scaffolder.generate model s).1 = .ok made ∧ made.files.entries = entries := by
  cases hmade : (scaffolder.generate model s).1 with
  | error e =>
    rw [hmade] at h
    cases h
  | ok made =>
    rw [hmade] at h
    exact ⟨made, rfl, Option.some_inj.1 h⟩

/-- Whatever the language, a shop gets the same class. -/
theorem new_forDbContext_shout : ∃ csharp typescript first second made,
    GenerationBuilder.buildBy (shoutSteps.map (·.forDbContext .csharp)) = .ok csharp ∧
    GenerationBuilder.buildBy (shoutSteps.map (·.forDbContext .typescript)) = .ok typescript ∧
    new csharp classSource {} = .ok first ∧ new typescript classSource {} = .ok second ∧
    (first.generate ⟨"Shop", []⟩ ()).1 = .ok made ∧ (second.generate ⟨"Shop", []⟩ ()).1 = .ok made ∧
    made.files.entries = [("ShopContext.cs", "class ShopContext!")] := by
  have hentries : shopEntries (shoutSteps.map (·.forDbContext .csharp)) classSource {} =
      some (some [("ShopContext.cs", "class ShopContext!")]) := by
    decide +kernel
  obtain ⟨csharp, first, hcsharp, hfirst, hmade⟩ := exists_of_shopEntries hentries
  obtain ⟨made, hmade, hfiles⟩ := exists_made_of_entries hmade
  obtain ⟨typescript, htypescript⟩ : ∃ typescript,
      GenerationBuilder.buildBy (shoutSteps.map (·.forDbContext .typescript)) = .ok typescript := ⟨_, rfl⟩
  have homits : classSource.OmitsInDbContext tsTypeName := omits_contextSource (by decide +kernel)
  obtain ⟨herrors, hruns⟩ := new_forDbContext hcsharp htypescript homits {}
  cases hsecond : new typescript classSource {} with
  | error error =>
    rw [(herrors error).2 hsecond] at hfirst
    cases hfirst
  | ok second =>
    obtain ⟨hmode, -, hroles⟩ := (GenerationBuilder.differsInLanguage_of_buildBy hcsharp htypescript).isCsharp
    obtain ⟨hsame, -, -⟩ := hruns first second hfirst hsecond ⟨"Shop", []⟩ () fun view _ =>
      not_computesName_of_new hmode hroles hfirst (by decide +kernel) _ _ _
    exact ⟨csharp, typescript, first, second, made, hcsharp, htypescript, hfirst, hsecond, hmade,
      (hsame made).1 hmade, hfiles⟩

/-- Steps that configure the database context alone. -/
def contextSteps : List (BuilderStep Unit) :=
  [.configure .dbContextOnly .csharp]

/-- The name of the helper of TypeScript, where that is the namespace. -/
def computedSource : TemplateSource := contextSource "\x7b\x7b(lookup this \"namespace\")\x7d\x7d"

/-- Without mentioning the helper a template can still call it. In C# its name is a value, and is printed; in
TypeScript the helper is called, and fails for want of an argument. -/
theorem not_new_forDbContext_computed : computedSource.OmitsInDbContext tsTypeName ∧
    ∃ csharp typescript first second,
      GenerationBuilder.buildBy (contextSteps.map (·.forDbContext .csharp)) = .ok csharp ∧
      GenerationBuilder.buildBy (contextSteps.map (·.forDbContext .typescript)) = .ok typescript ∧
      new csharp computedSource { rootNamespace := tsTypeName } = .ok first ∧
      new typescript computedSource { rootNamespace := tsTypeName } = .ok second ∧
      (∃ made, (first.generate ⟨"Shop", []⟩ ()).1 = .ok made ∧
        made.files.entries = [("ShopContext.cs", "ts-type")]) ∧
      ¬ ∃ made, (second.generate ⟨"Shop", []⟩ ()).1 = .ok made := by
  have hfirst : shopEntries (contextSteps.map (·.forDbContext .csharp)) computedSource
      { rootNamespace := tsTypeName } = some (some [("ShopContext.cs", "ts-type")]) := by
    decide +kernel
  have hsecond : shopEntries (contextSteps.map (·.forDbContext .typescript)) computedSource
      { rootNamespace := tsTypeName } = some none := by
    decide +kernel
  obtain ⟨csharp, first, hcsharp, hfirst, hmade⟩ := exists_of_shopEntries hfirst
  obtain ⟨typescript, second, htypescript, hsecond, hnone⟩ := exists_of_shopEntries hsecond
  refine ⟨omits_contextSource (by decide +kernel), csharp, typescript, first, second, hcsharp, htypescript, hfirst,
    hsecond, exists_made_of_entries hmade, ?_⟩
  rintro ⟨made, hmade⟩
  rw [hmade] at hnone
  cases hnone

end Scaffolder

end EntityScaffold
