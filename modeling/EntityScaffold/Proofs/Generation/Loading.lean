import EntityScaffold.Scaffolder
import Mathlib.Data.List.Nodup

/-! # Loading templates

A scaffolder is its configuration and options with a renderer that holds the compiled templates. What is
compiled depends on the configuration and the templates alone. Where the sources of a role are templates,
loading the role adds them under their names.
-/

namespace EntityScaffold

/-! ## Sources -/

namespace Template

/-- The elements of a source that is given by its characters. -/
def parseChars (cs : List Char) : Except SourceError Body :=
  match scanFrom (cs.length + 1) .start cs with
  | none => .error .malformed
  | some scan =>
    if nests [] (scan.segments.map (·.tag)) then
      let (laid, final) := scan.lay
      assemble final [] [] laid
    else .error .malformed

theorem parse_eq (source : String) : parse source = parseChars source.toList := by
  rw [parse, scan, ← String.length_toList]
  rfl

end Template

namespace TemplateStore

theorem files_ofList (templates : List (String × String)) :
    (ofList templates).files =
      Keyed.empty.insertAll (templates.map fun (path, source) => (normalizePath path, source)) := by
  have h : ∀ store : TemplateStore,
      (templates.foldl (fun store (path, source) => store.insert path source) store).files =
        store.files.insertAll (templates.map fun (path, source) => (normalizePath path, source)) := by
    induction templates with
    | nil => exact fun _ => rfl
    | cons entry rest ih => exact fun store => ih _
  exact h empty

/-- Of templates at different paths each is found. -/
theorem get?_ofList {templates : List (String × String)} {path source : String}
    (hpaths : (templates.map fun entry => normalizePath entry.1).Nodup)
    (h : (path, source) ∈ templates) : (ofList templates).get? path = some source := by
  have hmem : (normalizePath path, source) ∈
      (templates.map fun (path, source) => (normalizePath path, source)).reverse :=
    List.mem_reverse.2 (List.mem_map.2 ⟨_, h, rfl⟩)
  rw [get?, files_ofList, Keyed.get?_insertAll, lookup_of_mem ?_ hmem, Option.some_or]
  rw [List.map_reverse, List.nodup_reverse, List.map_map]
  exact hpaths

/-- A path that is no path of a template leads to none. -/
theorem get?_ofList_eq_none {templates : List (String × String)} {path : String}
    (h : normalizePath path ∉ templates.map fun entry => normalizePath entry.1) :
    (ofList templates).get? path = none := by
  rw [get?, files_ofList, Keyed.get?_insertAll, Keyed.get?_empty, Option.or_none]
  refine lookup_eq_none_of_notMem ?_
  rw [List.map_reverse, List.mem_reverse, List.map_map]
  exact h

end TemplateStore

/-! ## Roles -/

/-- The sources of a list of templates that are there, each under its name. -/
def presentSources (templates : TemplateSource) (parts : List PartialTemplate) :
    List (String × List Char) :=
  parts.filterMap fun part => (templates part.path).map fun source => (part.name, source.toList)

/-- The sources of a list of templates, of which some are there. -/
theorem presentSources_eq {templates : TemplateSource} {parts : List PartialTemplate}
    {sources : List (Option String)}
    (h : List.Forall₂ (fun part source? => templates part.path = source?) parts sources) :
    presentSources templates parts = (parts.zip sources).filterMap fun (part, source?) =>
      source?.map fun source => (part.name, source.toList) := by
  induction h with
  | nil => rfl
  | cons hsource _ ih =>
    rw [presentSources] at ih ⊢
    rw [List.filterMap_cons, hsource, List.zip_cons_cons, List.filterMap_cons, ih]

/-- The templates of a role: the one at a path, which has the path as its name, and those that it may
include. -/
def roleParts (path : String) (partials : List PartialTemplate) : List PartialTemplate :=
  ⟨path, path⟩ :: partials

/-- The templates of sources, each under its name, if all of them are templates. -/
def compileAll : List (String × List Char) → Option (List (String × Template.Body))
  | [] => some []
  | (name, source) :: rest => match Template.parseChars source, compileAll rest with
    | .ok body, some bodies => some ((name, body) :: bodies)
    | _, _ => none

theorem compileAll_cons_eq_some {name : String} {source : List Char} {rest : List (String × List Char)}
    {bodies : List (String × Template.Body)} (h : compileAll ((name, source) :: rest) = some bodies) :
    ∃ body others, Template.parseChars source = .ok body ∧ compileAll rest = some others ∧
      bodies = (name, body) :: others := by
  rw [compileAll] at h
  split at h
  · next body others hbody hothers =>
    cases h
    exact ⟨body, others, hbody, hothers, rfl⟩
  · cases h

/-- Compiling keeps the names. -/
theorem names_of_compileAll {sources : List (String × List Char)} {bodies : List (String × Template.Body)}
    (h : compileAll sources = some bodies) : bodies.map Prod.fst = sources.map Prod.fst := by
  induction sources generalizing bodies with
  | nil => cases h; rfl
  | cons entry rest ih =>
    obtain ⟨body, others, -, hothers, rfl⟩ := compileAll_cons_eq_some h
    rw [List.map_cons, ih hothers, List.map_cons]

theorem mem_names_of_mem_presentSources {templates : TemplateSource} {parts : List PartialTemplate}
    {name : String} (h : name ∈ (presentSources templates parts).map Prod.fst) :
    name ∈ parts.map (·.name) := by
  obtain ⟨entry, he, rfl⟩ := List.mem_map.1 h
  obtain ⟨part, hp, hentry⟩ := List.mem_filterMap.1 he
  obtain ⟨source, -, rfl⟩ := Option.map_eq_some_iff.1 hentry
  exact List.mem_map_of_mem hp

namespace Renderer

/-- The renderer with more templates. -/
def addAll (renderer : Renderer) (bodies : List (String × Template.Body)) : Renderer :=
  { renderer with templates := renderer.templates.insertAll bodies }

variable {templates : TemplateSource} {parts : List PartialTemplate}
  {bodies : List (String × Template.Body)}

theorem register_eq {name source : String} {body : Template.Body} (renderer : Renderer)
    (h : Template.parseChars source.toList = .ok body) :
    renderer.register name source = .ok (renderer.addAll [(name, body)]) := by
  rw [register, Template.parse_eq, h]
  rfl

/-- Sources that are templates are added under their names. -/
theorem loadPartials_eq (renderer : Renderer)
    (h : compileAll (presentSources templates parts) = some bodies) :
    renderer.loadPartials templates parts = .ok (renderer.addAll bodies) := by
  induction parts generalizing renderer bodies with
  | nil => cases h; rfl
  | cons part rest ih =>
    rw [loadPartials]
    rw [presentSources, List.filterMap_cons] at h
    cases hsource : templates part.path with
    | none =>
      rw [hsource] at h
      exact ih renderer h
    | some source =>
      rw [hsource] at h
      obtain ⟨body, others, hbody, hothers, rfl⟩ := compileAll_cons_eq_some h
      dsimp only
      rw [register_eq renderer hbody]
      exact ih _ hothers

/-- A role whose template is there, and whose sources are templates, is loaded. -/
theorem loadRole_eq (renderer : Renderer) {path : String} {partials : List PartialTemplate}
    (hpresent : (templates path).isSome = true)
    (h : compileAll (presentSources templates (roleParts path partials)) = some bodies) :
    renderer.loadRole templates true path partials = .ok (renderer.addAll bodies) := by
  obtain ⟨source, hsource⟩ := Option.isSome_iff_exists.1 hpresent
  rw [roleParts, presentSources, List.filterMap_cons, hsource] at h
  obtain ⟨body, others, hbody, hothers, rfl⟩ := compileAll_cons_eq_some h
  rw [loadRole, if_pos rfl, loadTemplate, hsource]
  dsimp only
  rw [register_eq renderer hbody]
  exact loadPartials_eq _ hothers

/-- The templates that were added last count, and then those that were there. -/
theorem get?_addAll (renderer : Renderer) (bodies : List (String × Template.Body)) (name : String) :
    (renderer.addAll bodies).templates.get? name =
      (bodies.reverse.lookup name).or (renderer.templates.get? name) :=
  Keyed.get?_insertAll ..

end Renderer

/-! ## Configurations -/

namespace Scaffolder

variable {σ : Type}

/-- The renderer of a configuration with the compiled templates of the enabled roles. -/
def compile (config : GenerationConfig σ) (templates : TemplateSource) :
    Except GenerationError Renderer :=
  ((Renderer.new config.helpers config.blockHelpers).loadRole templates
      config.roles.dbContext.isEnabled dbContextTemplate dbContextPartials).bind fun renderer =>
    renderer.loadRole templates config.roles.entityType.isEnabled config.roles.language.entityTemplate
      config.roles.language.entityPartials

theorem new_eq (config : GenerationConfig σ) (templates : TemplateSource) (options : ScaffoldOptions) :
    new config templates options =
      (compile config templates).map fun renderer => ⟨config, options, renderer⟩ := by
  simp only [new, compile, bind, pure, Except.pure]
  cases (Renderer.new config.helpers config.blockHelpers).loadRole templates
    config.roles.dbContext.isEnabled dbContextTemplate dbContextPartials with
  | error e => rfl
  | ok renderer =>
    simp only [Except.bind]
    cases renderer.loadRole templates config.roles.entityType.isEnabled
      config.roles.language.entityTemplate config.roles.language.entityPartials <;> rfl

end Scaffolder

end EntityScaffold
