import EntityScaffold.Proofs.Generation.Dependencies
import EntityScaffold.Proofs.Generation.Referring

/-! # Calls of name transformers

A name transformer may answer differently each time it is called. A run still calls an entity by the same
names throughout: both transformers are called once for each name that the model mentions, before anything is
made, and every output takes the names from the answers to these calls.
-/

namespace EntityScaffold

variable {σ : Type}

/-! ## Writing down calls -/

/-- A call of a name transformer with its answer. -/
structure NameCall where
  role : TransformRole
  name : String
  answer : Except String String

/-- The name transformer that also writes down its calls. -/
def NameTransformer.noting (role : TransformRole) (f : NameTransformer σ) :
    NameTransformer (σ × List NameCall) := fun name (s, calls) =>
  ((f name s).1, ((f name s).2, calls ++ [⟨role, name, (f name s).1⟩]))

namespace TransformerSet

/-- The transformers with name transformers that write down their calls. -/
def noting (set : TransformerSet σ) : TransformerSet (σ × List NameCall) where
  toMemberTransformers := set.toMemberTransformers
  entityName := set.entityName.map (NameTransformer.noting .entityName)
  entityFileName := set.entityFileName.map (NameTransformer.noting .entityFileName)

/-- The roles of the name transformers that there are, in the order in which they are called. -/
def nameRoles (set : TransformerSet σ) : List TransformRole :=
  (set.entityName.map fun _ => .entityName).toList ++
    (set.entityFileName.map fun _ => .entityFileName).toList

/-- The calls that give an entity its names: one for each name transformer that there is. -/
def callsGiving (set : TransformerSet σ) (name : String) (names : ResolvedName) : List NameCall :=
  (set.entityName.map fun _ => ⟨.entityName, name, .ok names.className⟩).toList ++
    (set.entityFileName.map fun _ => ⟨.entityFileName, name, .ok names.fileStem⟩).toList

/-- The call of a transformer, if there is one. -/
def callOf (f : Option (NameTransformer σ)) (role : TransformRole) (name : String) (s : σ) :
    Option NameCall :=
  f.map fun f => ⟨role, name, (f name s).1⟩

theorem applyName_noting (f : Option (NameTransformer σ)) (role : TransformRole) (name : String) (s : σ)
    (calls : List NameCall) :
    applyName (f.map (NameTransformer.noting role)) role name (s, calls) =
      ((applyName f role name s).1, (applyName f role name s).2,
        calls ++ (callOf f role name s).toList) := by
  cases f with
  | none => simp [applyName, callOf, state_pure]
  | some f => rfl

/-- A transformer that gives a name was called with that answer, and where there is none the name stays as it
is. -/
theorem callOf_of_applyName {f : Option (NameTransformer σ)} {role : TransformRole} {name result : String}
    {s : σ} (h : (applyName f role name s).1 = .ok result) :
    callOf f role name s = (f.map fun _ => ⟨role, name, .ok result⟩) ∧ (f = none → result = name) := by
  cases f with
  | none =>
    cases h
    exact ⟨rfl, fun _ => rfl⟩
  | some f =>
    change (f name s).1.mapError _ = .ok result at h
    cases hf : (f name s).1 with
    | error cause => rw [hf] at h; cases h
    | ok answer =>
      rw [hf] at h
      cases h
      exact ⟨by rw [callOf, Option.map_some, hf]; rfl, nofun⟩

end TransformerSet

namespace EntityNames

variable {transformers : TransformerSet σ} {extension : String}

/-! ## Calls of a resolution -/

/-- The calls for one name. -/
def callsFor (transformers : TransformerSet σ) (name : String) (s : σ) : List NameCall :=
  (TransformerSet.callOf transformers.entityName .entityName name s).toList ++
    (TransformerSet.callOf transformers.entityFileName .entityFileName name
      (transformers.transformEntityName name s).2).toList

/-- The calls for the names of a list. -/
def callsForAll (transformers : TransformerSet σ) : List String → σ → List NameCall
  | [], _ => []
  | name :: rest, s =>
    callsFor transformers name s ++ callsForAll transformers rest (resolveOne transformers name s).2

theorem resolveOne_noting (transformers : TransformerSet σ) (name : String) (s : σ)
    (calls : List NameCall) :
    resolveOne transformers.noting name (s, calls) =
      ((resolveOne transformers name s).1, (resolveOne transformers name s).2,
        calls ++ callsFor transformers name s) := by
  simp only [resolveOne, TransformerSet.transformEntityName, TransformerSet.transformEntityFileName,
    TransformerSet.noting, state_bind, state_pure, TransformerSet.applyName_noting, callsFor,
    List.append_assoc]

/-- Writing down the calls changes nothing of what is resolved, and there are calls only for the names that
the table does not have. -/
theorem foldlM_resolveNext_noting (transformers : TransformerSet σ) (extension : String)
    (known : EntityNames) (failures : List EntityFailure) (names : List String) (s : σ)
    (calls : List NameCall) :
    let run := names.foldlM (resolveNext transformers extension) (known, failures) s
    names.foldlM (resolveNext transformers.noting extension) (known, failures) (s, calls) =
      (run.1, run.2, calls ++ callsForAll transformers (known.unmet names) s) := by
  induction names generalizing known failures s calls with
  | nil => simp [unmet, callsForAll, state_pure]
  | cons name rest ih =>
    rw [List.foldlM_cons, List.foldlM_cons, state_bind, state_bind]
    by_cases h : known.contains name = true
    · rw [resolveNext_of_contains h, resolveNext_of_contains h, unmet_cons_of_contains h]
      exact ih known failures s calls
    · rw [resolveNext_of_not_contains h, resolveNext_of_not_contains h,
        unmet_cons h (resolveOne transformers name s).1, resolveOne_noting, callsForAll, ← List.append_assoc]
      exact ih _ _ _ _

theorem resolve_noting (transformers : TransformerSet σ) (model : DatabaseModel) (extension : String)
    (s : σ) :
    resolve transformers.noting model extension (s, []) =
      ((resolve transformers model extension s).1, (resolve transformers model extension s).2,
        callsForAll transformers model.mentionedNames s) := by
  have h := foldlM_resolveNext_noting transformers extension empty [] model.namesInOrder s []
  rwa [unmet_empty] at h

/-- Each name transformer is called with the name. -/
theorem map_callsFor (transformers : TransformerSet σ) (name : String) (s : σ) :
    (callsFor transformers name s).map (fun call => (call.name, call.role)) =
      transformers.nameRoles.map (name, ·) := by
  unfold callsFor TransformerSet.callOf TransformerSet.nameRoles
  cases transformers.entityName <;> cases transformers.entityFileName <;> rfl

/-- Each name transformer is called once for each name, in the order of the names. -/
theorem map_callsForAll (transformers : TransformerSet σ) (names : List String) (s : σ) :
    (callsForAll transformers names s).map (fun call => (call.name, call.role)) =
      names.flatMap fun name => transformers.nameRoles.map (name, ·) := by
  induction names generalizing s with
  | nil => rfl
  | cons name rest ih =>
    rw [callsForAll, List.map_append, map_callsFor, ih, List.flatMap_cons]

theorem name_of_mem_callsForAll {names : List String} {s : σ} {call : NameCall}
    (h : call ∈ callsForAll transformers names s) : call.name ∈ names := by
  have hmem := List.mem_map_of_mem (f := fun call : NameCall => (call.name, call.role)) h
  rw [map_callsForAll, List.mem_flatMap] at hmem
  obtain ⟨name, hname, hcall⟩ := hmem
  obtain ⟨role, -, heq⟩ := List.mem_map.1 hcall
  cases heq
  exact hname

theorem name_of_mem_callsFor {name : String} {s : σ} {call : NameCall}
    (h : call ∈ callsFor transformers name s) : call.name = name := by
  have hmem : call ∈ callsForAll transformers [name] s := by simpa [callsForAll] using h
  simpa using name_of_mem_callsForAll hmem

/-- A name that is resolved is what the calls for it answered. -/
theorem callsFor_of_resolveOne {name : String} {s : σ} {names : ResolvedName}
    (h : (resolveOne transformers name s).1 = .ok names) :
    callsFor transformers name s = transformers.callsGiving name names ∧
      (transformers.entityName = none → names.className = name) ∧
      (transformers.entityFileName = none → names.fileStem = name) := by
  simp only [resolveOne, state_bind, state_pure] at h
  split at h
  · next hclass hfile =>
    cases h
    obtain ⟨hfirst, hnone⟩ := TransformerSet.callOf_of_applyName hclass
    obtain ⟨hsecond, hnone'⟩ := TransformerSet.callOf_of_applyName hfile
    refine ⟨?_, hnone, hnone'⟩
    rw [callsFor, hfirst, hsecond]
    rfl
  · cases h
  · cases h
  · cases h

/-- Of all calls, those for a name that is resolved are the ones that answered its names. -/
theorem filter_callsForAll {names : List String} (hd : names.Nodup) {name : String} {s : σ}
    {resolved : ResolvedName}
    (h : (resolveAll transformers extension names s).1.1.lookup name = some (.resolved resolved)) :
    (callsForAll transformers names s).filter (fun call => call.name = name) =
        transformers.callsGiving name resolved ∧
      (transformers.entityName = none → resolved.className = name) ∧
      (transformers.entityFileName = none → resolved.fileStem = name) := by
  induction names generalizing s with
  | nil => cases h
  | cons other rest ih =>
    obtain ⟨hother, hrest⟩ := List.nodup_cons.1 hd
    rw [resolveAll_cons, Keyed.lookup_entry_cons] at h
    rw [callsForAll, List.filter_append]
    by_cases he : name = other
    · subst he
      rw [if_pos rfl] at h
      have hresolved : (resolveOne transformers name s).1 = .ok resolved := by
        cases ho : (resolveOne transformers name s).1 with
        | error e => rw [ho] at h; cases h
        | ok names => rw [ho] at h; cases h; rfl
      have hown : (callsFor transformers name s).filter (fun call => call.name = name) =
          callsFor transformers name s :=
        List.filter_eq_self.2 fun call hcall => by simp [name_of_mem_callsFor hcall]
      have hlater : (callsForAll transformers rest (resolveOne transformers name s).2).filter
          (fun call => call.name = name) = [] := by
        refine List.filter_eq_nil_iff.2 fun call hcall => ?_
        have hne : call.name ≠ name := fun heq => hother (heq ▸ name_of_mem_callsForAll hcall)
        simpa using hne
      rw [hown, hlater, List.append_nil]
      exact callsFor_of_resolveOne hresolved
    · rw [if_neg he] at h
      have hown : (callsFor transformers other s).filter (fun call => call.name = name) = [] := by
        refine List.filter_eq_nil_iff.2 fun call hcall => ?_
        rw [name_of_mem_callsFor hcall]
        simpa using Ne.symm he
      rw [hown, List.nil_append]
      exact ih hrest h

end EntityNames

/-! ## Runs -/

namespace Scaffolder

/-- The scaffolder that also writes down the calls of the name transformers. -/
def noting (scaffolder : Scaffolder σ) : Scaffolder (σ × List NameCall) where
  config := {
    mode := scaffolder.config.mode
    language := scaffolder.config.language
    roles := scaffolder.config.roles
    helpers := scaffolder.config.helpers
    blockHelpers := scaffolder.config.blockHelpers
    transformers := scaffolder.config.transformers.noting }
  options := scaffolder.options
  renderer := scaffolder.renderer

/-- The calls of name transformers in a run. -/
def nameCalls (scaffolder : Scaffolder σ) (model : DatabaseModel) (s : σ) : List NameCall :=
  (scaffolder.noting.generateReport model (s, [])).2.2

/-- A run that writes down its calls makes the same report, and has written them all once the names are
resolved. -/
theorem generateReport_noting (scaffolder : Scaffolder σ) (model : DatabaseModel) (s : σ) :
    scaffolder.noting.generateReport model (s, []) =
      ((scaffolder.generateReport model s).1, (scaffolder.generateReport model s).2,
        EntityNames.callsForAll scaffolder.config.transformers model.mentionedNames s) := by
  have hresolve : EntityNames.resolve scaffolder.noting.config.transformers model
      scaffolder.noting.config.roles.language.extension (s, []) = _ :=
    EntityNames.resolve_noting scaffolder.config.transformers model _ s
  -- What follows the names does not look at the state, so nothing more is written down.
  simp only [generateReport, state_bind, state_pure, hresolve]
  rfl

/-- A run calls its name transformers only to resolve the names, each of them once for each name that the
model mentions. An entity is then called by the answers to the calls for its name, in whatever refers to it;
where there is no transformer, it keeps its name. -/
theorem generateReport_callsOnce (scaffolder : Scaffolder σ) (model : DatabaseModel) (s : σ) :
    scaffolder.noting.generateReport model (s, []) =
      ((scaffolder.generateReport model s).1, (scaffolder.generateReport model s).2,
        scaffolder.nameCalls model s) ∧
    (scaffolder.noting.generateReport model (s, [])).2 =
      (EntityNames.resolve scaffolder.noting.config.transformers model
        scaffolder.config.roles.language.extension (s, [])).2 ∧
    model.mentionedNames.Nodup ∧
    (scaffolder.nameCalls model s).map (fun call => (call.name, call.role)) =
      model.mentionedNames.flatMap (fun name =>
        scaffolder.config.transformers.nameRoles.map fun role => (name, role)) ∧
    (∀ name names, (scaffolder.runScope model s).names.get name = .ok names →
      (scaffolder.nameCalls model s).filter (fun call => call.name = name) =
          scaffolder.config.transformers.callsGiving name names ∧
        (scaffolder.config.transformers.entityName = none → names.className = name) ∧
        (scaffolder.config.transformers.entityFileName = none → names.fileStem = name)) ∧
    scaffolder.RefersByNames model s := by
  have hcalls : scaffolder.nameCalls model s =
      EntityNames.callsForAll scaffolder.config.transformers model.mentionedNames s := by
    rw [nameCalls, generateReport_noting]
  refine ⟨?_, rfl, nodup_eraseDups _, ?_, fun name names hnames => ?_, scaffolder.refersByNames model s⟩
  · rw [generateReport_noting, hcalls]
  · rw [hcalls, EntityNames.map_callsForAll]
  · rw [hcalls]
    have hentry := EntityNames.resolution?_of_get hnames
    exact EntityNames.filter_callsForAll (nodup_eraseDups _)
      ((EntityNames.resolution?_resolve _ _ model s name).symm.trans hentry)

/-- A transformer that numbers its calls. -/
def numbering : NameTransformer Nat := fun name n => (.ok (name ++ toString n), n + 1)

example :
    let config : GenerationConfig Nat := GenerationConfig.start .entitiesOnly .csharp
    let transformers : TransformerSet Nat := ⟨⟨none, none⟩, some numbering, some numbering⟩
    let scaffolder : Scaffolder Nat :=
      ⟨{ config with transformers := transformers }, {}, .new config.helpers config.blockHelpers⟩
    let line := (EntityType.new "Line").withNavigation (.reference "Order" "Order")
    scaffolder.nameCalls ⟨"Shop", [line, .new "Order", .new "Line"]⟩ 1 =
      [⟨.entityName, "Line", .ok "Line1"⟩, ⟨.entityFileName, "Line", .ok "Line2"⟩,
        ⟨.entityName, "Order", .ok "Order3"⟩, ⟨.entityFileName, "Order", .ok "Order4"⟩] := rfl

end Scaffolder

end EntityScaffold
