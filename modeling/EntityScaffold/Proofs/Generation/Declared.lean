import EntityScaffold.Proofs.Configuration
import EntityScaffold.Proofs.Generation.Loading

/-! # Declared templates

The roles of a run declare the templates that it is made from: a main template for each role, which must be
there, and those that it may include, which need not be. A scaffolder is made from these alone. They are
taken in order, and the first of them with a problem decides how making the scaffolder fails.
-/

namespace EntityScaffold

variable {σ : Type}

/-! ## Declarations -/

/-- A template that a role declares. -/
structure DeclaredTemplate where
  /-- The name that it is compiled under. -/
  name : String
  path : String
  /-- It must be there. -/
  isMain : Bool
deriving DecidableEq, Repr

/-- The declared templates of a role: its main template, then those that it may include. -/
def roleDeclares (enabled : Bool) (path : String) (partials : List PartialTemplate) : List DeclaredTemplate :=
  if enabled then ⟨path, path, true⟩ :: partials.map fun part => ⟨part.name, part.path, false⟩ else []

/-- The declared templates of the enabled roles: those of the database context, then those of entity types. -/
def RoleBindings.declared (roles : RoleBindings) : List DeclaredTemplate :=
  roleDeclares roles.dbContext.isEnabled dbContextTemplate dbContextPartials ++
    roleDeclares roles.entityType.isEnabled roles.language.entityTemplate roles.language.entityPartials

/-- Two sources of templates give the same for every declared template. -/
def RoleBindings.AgreeOn (roles : RoleBindings) (templates other : TemplateSource) : Prop :=
  ∀ declared ∈ roles.declared, templates declared.path = other declared.path

/-! ## Problems -/

/-- What is wrong with a declared template: it must be there and is not, or its source is no template. -/
def DeclaredTemplate.problem? (declared : DeclaredTemplate) (templates : TemplateSource) :
    Option GenerationError :=
  match templates declared.path with
  | none => if declared.isMain then some (.templateNotFound declared.path) else none
  | some source => match Template.parse source with
    | .ok _ => none
    | .error e => some (.render declared.name (.source e))

/-- The first of declared templates with a problem, which is `error`. -/
def IsFirstProblem (templates : TemplateSource) (all : List DeclaredTemplate) (error : GenerationError) : Prop :=
  ∃ before declared after, all = before ++ declared :: after ∧
    (∀ earlier ∈ before, earlier.problem? templates = none) ∧ declared.problem? templates = some error

namespace DeclaredTemplate

variable {declared : DeclaredTemplate} {templates : TemplateSource}

/-- Nothing is wrong with a template that is there if it must, and whose source, if there is one, is a
template. -/
theorem problem?_eq_none_iff : declared.problem? templates = none ↔
    (declared.isMain = true → (templates declared.path).isSome = true) ∧
      ∀ source, templates declared.path = some source → ∃ body, Template.parse source = .ok body := by
  rw [problem?]
  cases hsource : templates declared.path with
  | none => cases declared.isMain <;> simp
  | some source => cases hbody : Template.parse source <;> simp [hbody]

/-- A template is not found exactly if it must be there and is not. -/
theorem problem?_eq_templateNotFound_iff {path : String} :
    declared.problem? templates = some (.templateNotFound path) ↔
      declared.isMain = true ∧ declared.path = path ∧ templates path = none := by
  rw [problem?]
  cases hsource : templates declared.path with
  | none =>
    cases declared.isMain with
    | false => simp
    | true =>
      simp only [if_true, Option.some_inj, GenerationError.templateNotFound.injEq, true_and]
      exact ⟨fun h => ⟨h, h ▸ hsource⟩, And.left⟩
  | some source =>
    refine iff_of_false ?_ fun ⟨_, hpath, hnone⟩ => ?_
    · cases hbody : Template.parse source <;> simp [hbody]
    · rw [hpath, hnone] at hsource
      cases hsource

end DeclaredTemplate

/-- Something is the first problem exactly if a search in order finds it. -/
theorem isFirstProblem_iff {templates : TemplateSource} {all : List DeclaredTemplate} {error : GenerationError} :
    IsFirstProblem templates all error ↔ all.findSome? (·.problem? templates) = some error := by
  rw [List.findSome?_eq_some_iff]
  constructor
  · rintro ⟨before, declared, after, hall, hbefore, hproblem⟩
    exact ⟨before, declared, after, hall, hproblem, hbefore⟩
  · rintro ⟨before, declared, after, hall, hproblem, hbefore⟩
    exact ⟨before, declared, after, hall, hbefore, hproblem⟩

/-! ## Loading -/

namespace Renderer

variable {templates other : TemplateSource} {renderer : Renderer}

/-- Compile a declared template if it is there. -/
def loadOne (templates : TemplateSource) (renderer : Renderer) (declared : DeclaredTemplate) :
    Except GenerationError Renderer :=
  match templates declared.path with
  | some source => renderer.register declared.name source
  | none => if declared.isMain then .error (.templateNotFound declared.path) else .ok renderer

/-- Compile declared templates in order. -/
def load (templates : TemplateSource) (renderer : Renderer) (all : List DeclaredTemplate) :
    Except GenerationError Renderer :=
  all.foldlM (loadOne templates) renderer

theorem load_cons (renderer : Renderer) (declared : DeclaredTemplate) (rest : List DeclaredTemplate) :
    renderer.load templates (declared :: rest) =
      (renderer.loadOne templates declared).bind (load templates · rest) :=
  List.foldlM_cons

theorem load_append (renderer : Renderer) (first second : List DeclaredTemplate) :
    renderer.load templates (first ++ second) =
      (renderer.load templates first).bind (load templates · second) :=
  List.foldlM_append

/-- The templates that may be included are loaded as declared. -/
theorem loadPartials_eq_load (renderer : Renderer) (partials : List PartialTemplate) :
    renderer.loadPartials templates partials =
      renderer.load templates (partials.map fun part => ⟨part.name, part.path, false⟩) := by
  induction partials generalizing renderer with
  | nil => rfl
  | cons part rest ih =>
    rw [loadPartials, List.map_cons, load_cons, loadOne]
    cases templates part.path with
    | none => exact ih renderer
    | some source => exact congrArg _ (funext ih)

/-- A role is loaded as it declares its templates. -/
theorem loadRole_eq_load (renderer : Renderer) (enabled : Bool) (path : String)
    (partials : List PartialTemplate) : renderer.loadRole templates enabled path partials =
      renderer.load templates (roleDeclares enabled path partials) := by
  cases enabled with
  | false => rfl
  | true =>
    rw [loadRole, if_pos rfl, roleDeclares, if_pos rfl, load_cons, loadTemplate, loadOne]
    cases templates path with
    | none => rfl
    | some source => exact congrArg _ (funext fun loaded => loadPartials_eq_load loaded partials)

/-- A declared template is loaded unless there is a problem with it, which is then the error. -/
theorem loadOne_eq (templates : TemplateSource) (renderer : Renderer) (declared : DeclaredTemplate) : ∃ loaded,
    renderer.loadOne templates declared = match declared.problem? templates with
      | none => .ok loaded
      | some error => .error error := by
  rw [loadOne, DeclaredTemplate.problem?]
  cases templates declared.path with
  | none => cases declared.isMain <;> exact ⟨renderer, rfl⟩
  | some source =>
    dsimp only [register]
    cases Template.parse source with
    | ok body => exact ⟨_, rfl⟩
    | error e => exact ⟨renderer, rfl⟩

/-- Declared templates are loaded unless there is a problem with one of them, and then the first problem is the
error. What the renderer had before does not matter. -/
theorem load_eq (templates : TemplateSource) (renderer : Renderer) (all : List DeclaredTemplate) : ∃ loaded,
    renderer.load templates all = match all.findSome? (·.problem? templates) with
      | none => .ok loaded
      | some error => .error error := by
  induction all generalizing renderer with
  | nil => exact ⟨renderer, rfl⟩
  | cons declared rest ih =>
    obtain ⟨first, hfirst⟩ := loadOne_eq templates renderer declared
    rw [load_cons, hfirst, List.findSome?_cons]
    cases declared.problem? templates with
    | none => exact ih first
    | some error => exact ⟨renderer, rfl⟩

theorem load_eq_error_iff {all : List DeclaredTemplate} {error : GenerationError} :
    renderer.load templates all = .error error ↔ IsFirstProblem templates all error := by
  obtain ⟨loaded, hload⟩ := load_eq templates renderer all
  rw [isFirstProblem_iff, hload]
  cases all.findSome? (·.problem? templates) <;> simp

/-- Templates are loaded exactly if there is a problem with none of them. -/
theorem exists_load_eq_ok_iff (renderer : Renderer) {all : List DeclaredTemplate} :
    (∃ loaded, renderer.load templates all = .ok loaded) ↔
      ∀ declared ∈ all, declared.problem? templates = none := by
  obtain ⟨loaded, hload⟩ := load_eq templates renderer all
  rw [hload, ← List.findSome?_eq_none_iff]
  cases all.findSome? (·.problem? templates) <;> simp

/-- What is loaded depends on what the source gives for the declared templates. -/
theorem load_congr {all : List DeclaredTemplate}
    (h : ∀ declared ∈ all, templates declared.path = other declared.path) :
    renderer.load templates all = renderer.load other all := by
  induction all generalizing renderer with
  | nil => rfl
  | cons declared rest ih =>
    rw [load_cons, load_cons, loadOne, loadOne, h declared List.mem_cons_self]
    exact congrArg _ (funext fun loaded => ih fun later hlater => h later (List.mem_cons_of_mem _ hlater))

end Renderer

/-! ## Scaffolders -/

namespace Scaffolder

variable {config : GenerationConfig σ} {templates other : TemplateSource} {options : ScaffoldOptions}

/-- The declared templates of the enabled roles are loaded in order. -/
theorem compile_eq_load (config : GenerationConfig σ) (templates : TemplateSource) :
    compile config templates =
      (Renderer.new config.helpers config.blockHelpers).load templates config.roles.declared := by
  rw [compile, Renderer.loadRole_eq_load, RoleBindings.declared, Renderer.load_append]
  exact congrArg _ (funext fun renderer => renderer.loadRole_eq_load ..)

theorem new_eq_error_iff {error : GenerationError} :
    new config templates options = .error error ↔ IsFirstProblem templates config.roles.declared error := by
  rw [new_eq, compile_eq_load, ← Renderer.load_eq_error_iff]
  cases (Renderer.new config.helpers config.blockHelpers).load templates config.roles.declared <;>
    simp [Except.map]

theorem exists_new_eq_ok_iff : (∃ scaffolder, new config templates options = .ok scaffolder) ↔
    ∀ declared ∈ config.roles.declared, declared.problem? templates = none := by
  rw [← Renderer.exists_load_eq_ok_iff (Renderer.new config.helpers config.blockHelpers), new_eq,
    compile_eq_load]
  cases (Renderer.new config.helpers config.blockHelpers).load templates config.roles.declared <;>
    simp [Except.map]

/-- Sources that agree on the declared templates give the same scaffolder. -/
theorem new_congr (h : config.roles.AgreeOn templates other) :
    new config other options = new config templates options := by
  rw [new_eq, new_eq, compile_eq_load, compile_eq_load, Renderer.load_congr h]

/-- Making a scaffolder is decided by the declared templates. -/
structure IsDecidedByDeclared (config : GenerationConfig σ) (templates : TemplateSource)
    (options : ScaffoldOptions) : Prop where
  /-- Any other source that agrees on them gives the same scaffolder or the same error. -/
  agrees : ∀ other, config.roles.AgreeOn templates other →
    new config other options = new config templates options
  /-- What is then generated is the same too, for every model. -/
  reports : ∀ other, config.roles.AgreeOn templates other → ∀ scaffolder scaffolder',
    new config templates options = .ok scaffolder → new config other options = .ok scaffolder' →
      ∀ model state, (scaffolder'.generateReport model).run state = (scaffolder.generateReport model).run state
  /-- It succeeds exactly if the main templates are there and all sources that are there are templates. -/
  succeeds : (∃ scaffolder, new config templates options = .ok scaffolder) ↔
    ∀ declared ∈ config.roles.declared,
      (declared.isMain = true → (templates declared.path).isSome = true) ∧
        ∀ source, templates declared.path = some source → ∃ body, Template.parse source = .ok body
  /-- It fails exactly with the first problem. -/
  fails : ∀ error, new config templates options = .error error ↔
    IsFirstProblem templates config.roles.declared error
  /-- A template is not found exactly if it is a main template that is missing, and nothing is wrong with the
  templates before it. -/
  notFound : ∀ path, new config templates options = .error (.templateNotFound path) ↔
    ∃ before declared after, config.roles.declared = before ++ declared :: after ∧
      (∀ earlier ∈ before, earlier.problem? templates = none) ∧
      declared.isMain = true ∧ declared.path = path ∧ templates path = none

/-- Making a scaffolder reads nothing but the declared templates of the enabled roles, and the first problem with
one of them is its error. -/
theorem new_isDecidedByDeclared (config : GenerationConfig σ) (templates : TemplateSource)
    (options : ScaffoldOptions) : IsDecidedByDeclared config templates options where
  agrees _ h := new_congr h
  reports other h scaffolder scaffolder' hnew hnew' model state := by
    rw [new_congr h, hnew] at hnew'
    cases hnew'
    rfl
  succeeds := by
    rw [exists_new_eq_ok_iff]
    exact forall₂_congr fun _ _ => DeclaredTemplate.problem?_eq_none_iff
  fails _ := new_eq_error_iff
  notFound path := by
    rw [new_eq_error_iff, IsFirstProblem]
    simp only [DeclaredTemplate.problem?_eq_templateNotFound_iff]

/-- A source of templates of which only those of database contexts are templates. -/
def contextTemplates : TemplateSource :=
  fun path => if path = dbContextTemplate then some "{{class-name}}" else
    if path = "CSharpEntityType/Class.hbs" then some "\x7b\x7b" else none

/-- Nothing is wrong with it for the database context alone, since what it has for entity types is not looked at:
a source without them gives the same. For both outputs it fails at the template of entity types. -/
theorem new_isDecidedByDeclared_contextTemplates :
    (∃ scaffolder, new (.start .dbContextOnly .csharp : GenerationConfig Unit) contextTemplates {} =
      .ok scaffolder) ∧
    new (.start .dbContextOnly .csharp : GenerationConfig Unit)
        (fun path => if path = dbContextTemplate then some "{{class-name}}" else none) {} =
      new (.start .dbContextOnly .csharp : GenerationConfig Unit) contextTemplates {} ∧
    new (.start .dbContextAndEntities .csharp : GenerationConfig Unit) contextTemplates {} =
      .error (.render "CSharpEntityType/Class.hbs" (.source .malformed)) ∧
    new (.start .entitiesOnly .typescript : GenerationConfig Unit) contextTemplates {} =
      .error (.templateNotFound "TypeScriptEntityType/Interface.hbs") := by
  have hcontext := new_isDecidedByDeclared (.start .dbContextOnly .csharp : GenerationConfig Unit)
    contextTemplates {}
  have hboth := new_isDecidedByDeclared (.start .dbContextAndEntities .csharp : GenerationConfig Unit)
    contextTemplates {}
  have hentities := new_isDecidedByDeclared (.start .entitiesOnly .typescript : GenerationConfig Unit)
    contextTemplates {}
  have hfine : ∀ declared ∈ (RoleBindings.select .dbContextOnly .csharp).declared,
      declared.problem? contextTemplates = none := by
    decide +kernel
  refine ⟨hcontext.succeeds.2 fun declared hd => DeclaredTemplate.problem?_eq_none_iff.1 (hfine declared hd),
    hcontext.agrees _ ?_, (hboth.fails _).2 ?_, (hentities.notFound _).2 ?_⟩
  · unfold RoleBindings.AgreeOn
    decide
  · refine ⟨(RoleBindings.select .dbContextOnly .csharp).declared, _, _, rfl, hfine, ?_⟩
    rfl
  · exact ⟨[], _, _, rfl, nofun, rfl, rfl, by decide⟩

end Scaffolder

end EntityScaffold
