import EntityScaffold.Proofs.Configuration.Steps
import EntityScaffold.Proofs.Generation.Files
import EntityScaffold.Proofs.Template.WrittenCalls

/-! # Renderers with further helpers

Helpers that are added to the registries of a renderer do not matter to a template that does not use them, as
long as it comes to no value by a name alone and to no operator that they take the name of. Where it does, the
helpers make it fail.
-/

namespace EntityScaffold

open Template

/-! ## The helpers of a renderer -/

/-- Of entries whose names are selected, those that are looked up are selected, too. -/
theorem lookup_filter_name {α : Type} (selects : String → Bool) (entries : List (String × α)) (name : String) :
    (entries.filter fun entry => selects entry.1).lookup name =
      if selects name then entries.lookup name else none := by
  induction entries with
  | nil => simp
  | cons entry rest ih =>
    obtain ⟨key, value⟩ := entry
    rw [List.filter_cons, Keyed.lookup_entry_cons]
    by_cases hsame : name = key
    · subst hsame
      split
      · rw [Keyed.lookup_entry_cons, if_pos rfl, if_pos rfl]
      · next hrejected => rw [ih, if_neg hrejected]
    · rw [if_neg hsame]
      split
      · rw [Keyed.lookup_entry_cons, if_neg hsame, ih]
      · exact ih

namespace Renderer

theorem get?_unreserved {α : Type} (entries : Keyed α) (name : String) :
    (unreserved entries).get? name = if isReserved name then none else entries.get? name := by
  have hfound : (unreserved entries).get? name =
      (entries.entries.filter fun entry => !isReserved entry.1).reverse.lookup name :=
    (Keyed.get?_insertAll ..).trans (Option.or_none ..)
  rw [hfound, ← List.filter_reverse, lookup_filter_name fun name => !isReserved name, Keyed.lookup_reverse]
  cases isReserved name <;> rfl

/-- A renderer for further helpers has those whose names are not reserved, and then those that it had. -/
theorem get?_unreserved_extend {α : Type} (registry : Registry α) (helpers : List (String × α)) (name : String) :
    (unreserved (registry.extend helpers).entries).get? name =
      if isReserved name then none else (helpers.reverse.lookup name).or (registry.get? name) := by
  rw [get?_unreserved]
  exact congrArg _ (registry.get?_extend helpers name)

section

variable {α : Type} {registry : Registry α} {helpers : List (String × α)} {name : String}

theorem get?_unreserved_extend_of_notMem (hforeign : name ∉ helpers.map Prod.fst) :
    (unreserved (registry.extend helpers).entries).get? name = (unreserved registry.entries).get? name := by
  have habsent : helpers.reverse.lookup name = none := by
    refine lookup_eq_none_of_notMem ?_
    rwa [List.map_reverse, List.mem_reverse]
  rw [get?_unreserved_extend, get?_unreserved, habsent, Option.none_or]
  rfl

theorem isSome_get?_unreserved_extend (hfound : ((unreserved registry.entries).get? name).isSome = true) :
    ((unreserved (registry.extend helpers).entries).get? name).isSome = true := by
  rw [get?_unreserved] at hfound
  rw [get?_unreserved_extend]
  split at hfound
  · cases hfound
  next hfree =>
    have hfound : (registry.get? name).isSome = true := hfound
    rw [if_neg hfree, Option.isSome_or, hfound, Bool.or_true]

end

/-- The environment of a renderer is extended with its registries. -/
theorem extends_environment (helpers : HelperRegistry) (blockHelpers : BlockHelperRegistry)
    (inline : List (String × InlineHelper)) (block : List (String × BlockHelper))
    (bodies : List (String × Body)) (data : Json) :
    (((new helpers blockHelpers).addAll bodies).environment data).Extends
      (((new (helpers.extend inline) (blockHelpers.extend block)).addAll bodies).environment data)
      (inline.map Prod.fst) (block.map Prod.fst) where
  data := rfl
  templates := rfl
  inlineLookup _ := get?_unreserved_extend_of_notMem
  blockLookup _ := get?_unreserved_extend_of_notMem
  kept name hregistered := by
    rw [Environment.isRegistered, Bool.or_eq_true] at hregistered ⊢
    exact hregistered.imp isSome_get?_unreserved_extend isSome_get?_unreserved_extend

/-! ## Rendering with further helpers -/

/-- Rendering a body for the data comes to an evaluation. -/
def ComesTo (renderer : Renderer) (name : Option String) (body : Body) (data : Json) (part : Evaluation) : Prop :=
  Evaluation.ComesTo (renderer.environment data)
    ⟨inclusionLimit - 1, .body name body, { Scope.start with current := name }⟩ part

/-- Rendering a body asks for none of some inline helpers and none of some block helpers. -/
def AsksForNone (renderer : Renderer) (inline block : List String) (name : Option String) (body : Body)
    (data : Json) : Prop :=
  ∀ part, renderer.ComesTo name body data part → ¬ part.Uses (renderer.environment data) inline block

/-- Rendering a body comes to an operator or to a value by a name alone, and another renderer has a helper of
that name. -/
def Shadows (renderer other : Renderer) (name : Option String) (body : Body) (data : Json) (taken : String) :
    Prop :=
  ∃ part, renderer.ComesTo name body data part ∧
    part.Shadowed (renderer.environment data) (other.environment data) taken

/-- What becomes of rendering a body in another renderer, with errors told for `template`: it is the same unless
a name is shadowed, and else an error for such a name. -/
structure Carries (renderer other : Renderer) (name : Option String) (body : Body) (data : Json)
    (template : String) (result result' : Except GenerationError String) : Prop where
  same : (∀ taken, ¬ renderer.Shadows other name body data taken) → result' = result
  shadowed : other.PassesOn → ∀ taken, renderer.Shadows other name body data taken →
    ∃ taken, renderer.Shadows other name body data taken ∧
      result' = .error (.unresolvedHelper taken template)

variable {renderer other : Renderer} {inline block : List String} {data : Json}

theorem carries_renderBody (hextended : (renderer.environment data).Extends (other.environment data) inline block)
    (template : String) {name : Option String} {body : Body}
    (hunused : renderer.AsksForNone inline block name body data) :
    Carries renderer other name body data template (renderer.renderBody template name body data)
      (other.renderBody template name body data) where
  same hvisible := by
    have hsame := Evaluation.sameIn_of_visible hextended hunused fun part taken hcomes hshadowed =>
      hvisible taken ⟨part, hcomes, hshadowed⟩
    rw [renderBody, renderBody, renderAlone_eq, renderAlone_eq]
    exact congrArg (fun ran => Except.mapError (errorOf template) ran.1) hsame.run_eq.symm
  shadowed hpasses taken hgiven := by
    obtain ⟨part, hcomes, hshadowed⟩ := hgiven
    have hpasses : (other.environment data).PassesOn := hpasses
    rcases Evaluation.sameIn_or_failsShadowed hextended hpasses hunused with ⟨-, hvisible⟩ | hfailed
    · exact absurd hshadowed (hvisible part taken hcomes)
    · obtain ⟨part, taken, hcomes, hshadowed, failure, after, hran, hcause⟩ := hfailed
      refine ⟨taken, ⟨part, hcomes, hshadowed⟩, ?_⟩
      rw [renderBody, renderAlone_eq]
      change Except.mapError (errorOf template) (Task.run _ _ _ _).1 = _
      rw [hran]
      change Except.error (errorOf template failure) = _
      rw [errorOf, hcause]
      rfl

/-- The calls in a body and in the templates of a renderer are allowed by what is written. -/
def CallsOnly (renderer : Renderer) (allows : Bool → Call → Bool) (body : Body) : Prop :=
  body.callsOnly allows = true ∧
    ∀ name other, renderer.templates.get? name = some other → other.callsOnly allows = true

/-- Rendering comes to no other calls. -/
theorem CallsOnly.of_comesTo {allows : Bool → Call → Bool} {name : Option String} {body : Body} {part : Evaluation}
    (honly : renderer.CallsOnly allows body) (hcomes : renderer.ComesTo name body data part) :
    part.task.callsOnly allows = true := by
  have hregistered : ∀ other body, (renderer.environment data).templates.lookup other = some body →
      body.callsOnly allows = true := honly.2
  refine ((Evaluation.isHereditary_callsOnly hregistered).of_comesTo hcomes
    ⟨honly.1, ⟨fun entry hmem => ?_, fun kept hmem => ?_⟩⟩).task
  · cases hmem
  · cases hmem

/-- Helpers whose names no call of their kind is written with are not asked for. -/
theorem asksForNone_of_callsOnly {body : Body} (honly : renderer.CallsOnly (Call.avoids inline block) body)
    (name : Option String) (data : Json) : renderer.AsksForNone inline block name body data :=
  fun _ hcomes => Evaluation.not_uses_of_callsOnly (honly.of_comesTo hcomes)

/-- Rendering is the same with further helpers if no call of their kind, no name alone and no operator is written
with one of their names. -/
theorem renderBody_of_callsOnly (hextended : (renderer.environment data).Extends (other.environment data) inline block)
    {body : Body} (honly : renderer.CallsOnly (Call.avoids inline block) body)
    (hclear : renderer.CallsOnly (Call.isClearOf (inline ++ block)) body) (template : String)
    (name : Option String) :
    other.renderBody template name body data = renderer.renderBody template name body data := by
  refine (carries_renderBody hextended template (asksForNone_of_callsOnly honly name data)).same fun taken hgiven => ?_
  obtain ⟨part, hcomes, hshadowed⟩ := hgiven
  exact Evaluation.not_shadowed_of_callsOnly hextended (hclear.of_comesTo hcomes) taken hshadowed

/-- Whatever helpers are added to two registries, a template that asks for none of them renders to the same text
or error, unless they take the name of an operator or of a value that it comes to. -/
theorem carries_extend (helpers : HelperRegistry) (blockHelpers : BlockHelperRegistry)
    (inline : List (String × InlineHelper)) (block : List (String × BlockHelper))
    (bodies : List (String × Body)) (data : Json) :
    let renderer := (new helpers blockHelpers).addAll bodies
    let other := (new (helpers.extend inline) (blockHelpers.extend block)).addAll bodies
    (∀ name body, renderer.templates.get? name = some body →
      renderer.AsksForNone (inline.map Prod.fst) (block.map Prod.fst) (some name) body data →
        Carries renderer other (some name) body data name (renderer.renderNamed name data)
          (other.renderNamed name data)) ∧
    (∀ source body, parse source = .ok body →
      renderer.AsksForNone (inline.map Prod.fst) (block.map Prod.fst) none body data →
        Carries renderer other none body data inlineName (renderer.render source data)
          (other.render source data)) ∧
    (∀ name, renderer.templates.get? name = none → other.renderNamed name data = renderer.renderNamed name data) ∧
    ∀ source fault, parse source = .error fault → other.render source data = renderer.render source data := by
  intro renderer other
  have hextended := extends_environment helpers blockHelpers inline block bodies data
  have htemplates : other.templates = renderer.templates := rfl
  refine ⟨fun name body hfound hunused => ?_, fun source body hparsed hunused => ?_, fun name hmissing => ?_,
    fun source fault hparsed => ?_⟩
  · rw [renderNamed, renderNamed, htemplates, hfound]
    exact carries_renderBody hextended name hunused
  · rw [render, render, hparsed]
    exact carries_renderBody hextended inlineName hunused
  · rw [renderNamed, renderNamed, htemplates, hmissing]
  · rw [render, render, hparsed]

/-- A value is printed by its name alone. -/
def valueAlone : Body := .cons (some ⟨1, 1⟩) (.expression (.mk (.path ⟨"n", false, false, 0, ["n"]⟩) [] [])) .nil

/-- The data has the value. -/
def valueData : Json := .object [("n", .string "v")]

/-- A block helper of the same name, which renders its section once. -/
def namesake : List (String × BlockHelper) := [("n", fun _ => .thenWith false none .write)]

/-- A renderer of the template, with the block helpers. -/
def printing (block : List (String × BlockHelper)) : Renderer :=
  (new HelperRegistry.standard (BlockHelperRegistry.empty.extend block)).addAll [("page", valueAlone)]

theorem callsOnly_printing {allows : Bool → Call → Bool} (honly : valueAlone.callsOnly allows = true) :
    (printing []).CallsOnly allows valueAlone := by
  refine ⟨honly, fun name other hfound => ?_⟩
  change List.lookup name [("page", valueAlone)] = some other at hfound
  rw [List.lookup_cons] at hfound
  split at hfound
  · cases hfound
    exact honly
  · cases hfound

theorem passesOn_printing : (printing namesake).PassesOn :=
  .of_entries (List.forall_mem_singleton.mpr fun _ => BlockPlan.passesOn_thenWith fun _ => trivial)

theorem shadows_printing : (printing []).Shadows (printing namesake) (some "page") valueAlone valueData "n" :=
  ⟨_, .single .first, .value rfl rfl rfl rfl fun hsame => by cases hsame⟩

theorem carries_extend_valueAlone :
    (printing []).AsksForNone [] ["n"] (some "page") valueAlone valueData ∧
      (printing []).renderNamed "page" valueData = .ok "v" ∧
        ∃ taken, (printing []).Shadows (printing namesake) (some "page") valueAlone valueData taken ∧
          (printing namesake).renderNamed "page" valueData = .error (.unresolvedHelper taken "page") := by
  have honly : valueAlone.callsOnly (Call.avoids [] ["n"]) = true := by decide
  have hunused := asksForNone_of_callsOnly (callsOnly_printing honly) (some "page") valueData
  have hcarries := (carries_extend HelperRegistry.standard BlockHelperRegistry.empty [] namesake
    [("page", valueAlone)] valueData).1 "page" valueAlone rfl hunused
  exact ⟨hunused, rfl, hcarries.shadowed passesOn_printing "n" shadows_printing⟩

end Renderer

end EntityScaffold
