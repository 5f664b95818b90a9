import EntityScaffold.Generation.Names

/-! # The table of names

Resolution goes through all names that a model mentions and passes over those it has met. So it asks for
each of them once, in the order in which they first occur, and records what came of it: it is the same as
asking for the names of a list without repetitions. The table then has an entry for every mentioned name
and for no other, and a failure is recorded exactly for the entries that failed. With transformers that
depend on nothing but the name, an entry does not depend on the rest of the table.
-/

namespace EntityScaffold

variable {σ : Type}

/-! ## State -/

theorem state_bind {α β : Type} (x : StateM σ α) (f : α → StateM σ β) (s : σ) :
    (x >>= f) s = f (x s).1 (x s).2 := rfl

theorem state_pure {α : Type} (a : α) (s : σ) : (pure a : StateM σ α) s = (a, s) := rfl

/-! ## Mentioned names -/

namespace DatabaseModel

variable {model : DatabaseModel} {entity : EntityType}

/-- The names that a model mentions, each once. -/
def mentionedNames (model : DatabaseModel) : List String := model.namesInOrder.eraseDups

theorem entity_mem_mentionedNames (h : entity ∈ model.entityTypes) :
    entity.name ∈ model.mentionedNames :=
  List.mem_eraseDups.2 (List.mem_append_left _ (List.mem_map_of_mem h))

theorem target_mem_mentionedNames (h : entity ∈ model.entityTypes) {navigation : Navigation}
    (hn : navigation ∈ entity.navigations) : navigation.targetEntity ∈ model.mentionedNames := by
  refine List.mem_eraseDups.2 (List.mem_append_right _ ?_)
  exact List.mem_flatMap.2 ⟨entity, h, List.mem_map_of_mem hn⟩

end DatabaseModel

/-- What became of the name of an entity. -/
inductive Resolution where
  | resolved (name : ResolvedName)
  | failed
deriving DecidableEq, Repr

namespace EntityNames

variable {transformers : TransformerSet σ} {extension : String}

/-! ## One name -/

/-- The entry of a name. -/
def entryOf : Except (GenerationError × Option String) ResolvedName → Resolution
  | .ok name => .resolved name
  | .error _ => .failed

/-- The failure of a name, if it failed. -/
def failureOf (extension name : String) :
    Except (GenerationError × Option String) ResolvedName → Option EntityFailure
  | .ok _ => none
  | .error (e, fileStem) => some (.mk name (fileStem.map fun stem => stem ++ "." ++ extension) e)

theorem entity_of_failureOf {name : String} {failure : EntityFailure}
    {outcome : Except (GenerationError × Option String) ResolvedName}
    (h : failureOf extension name outcome = some failure) : failure.entity = name := by
  cases outcome with
  | ok _ => cases h
  | error e => cases h; rfl

/-- The error of a name transformer tells the name and the role. -/
theorem transformation_of_applyName {f : Option (NameTransformer σ)} {role : TransformRole}
    {name : String} {s : σ} {e : GenerationError}
    (h : (TransformerSet.applyName f role name s).1 = .error e) :
    ∃ cause, e = .transformation name role cause := by
  cases f with
  | none => cases h
  | some f =>
    change (f name s).1.mapError _ = .error e at h
    cases hf : (f name s).1 with
    | ok _ => rw [hf] at h; cases h
    | error cause => rw [hf] at h; cases h; exact ⟨cause, rfl⟩

/-- A name fails for the error of one of the two name transformers. -/
theorem transformation_of_resolveOne {name : String} {s : σ} {e : GenerationError}
    {fileStem : Option String} (h : (resolveOne transformers name s).1 = .error (e, fileStem)) :
    ∃ role cause, (role = .entityName ∨ role = .entityFileName) ∧
      e = .transformation name role cause := by
  simp only [resolveOne, state_bind, state_pure] at h
  split at h
  · cases h
  · next hc _ =>
    cases h
    obtain ⟨cause, rfl⟩ := transformation_of_applyName hc
    exact ⟨_, cause, .inl rfl, rfl⟩
  · next hc _ =>
    cases h
    obtain ⟨cause, rfl⟩ := transformation_of_applyName hc
    exact ⟨_, cause, .inl rfl, rfl⟩
  · next hf =>
    cases h
    obtain ⟨cause, rfl⟩ := transformation_of_applyName hf
    exact ⟨_, cause, .inr rfl, rfl⟩

/-! ## Names without repetitions -/

/-- Resolve the names of a list, each as often as it is there; failures come in its order. -/
def resolveAll (transformers : TransformerSet σ) (extension : String) :
    List String → StateM σ (List (String × Resolution) × List EntityFailure)
  | [] => return ([], [])
  | name :: rest => do
    let outcome ← resolveOne transformers name
    let (entries, failures) ← resolveAll transformers extension rest
    return ((name, entryOf outcome) :: entries, (failureOf extension name outcome).toList ++ failures)

theorem resolveAll_cons (name : String) (rest : List String) (s : σ) :
    (resolveAll transformers extension (name :: rest) s).1 =
      let outcome := resolveOne transformers name s
      let others := resolveAll transformers extension rest outcome.2
      ((name, entryOf outcome.1) :: others.1.1,
        (failureOf extension name outcome.1).toList ++ others.1.2) := rfl

/-- The table lists the names in the order in which they were asked for. -/
theorem keys_resolveAll (transformers : TransformerSet σ) (extension : String)
    (names : List String) (s : σ) :
    (resolveAll transformers extension names s).1.1.map Prod.fst = names := by
  induction names generalizing s with
  | nil => rfl
  | cons name rest ih => rw [resolveAll_cons, List.map_cons, ih]

/-- Every recorded failure is a transformation error of a name that was asked for. -/
theorem transformation_of_mem_resolveAll {names : List String} {s : σ} {failure : EntityFailure}
    (h : failure ∈ (resolveAll transformers extension names s).1.2) :
    failure.entity ∈ names ∧ ∃ role cause, (role = .entityName ∨ role = .entityFileName) ∧
      failure.error = .transformation failure.entity role cause := by
  induction names generalizing s with
  | nil => cases h
  | cons name rest ih =>
    rw [resolveAll_cons] at h
    rcases List.mem_append.1 h with h | h
    · have hf := Option.mem_toList.1 h
      cases ho : (resolveOne transformers name s).1 with
      | ok _ => rw [ho] at hf; cases hf
      | error e =>
        rw [ho] at hf
        cases hf
        exact ⟨List.mem_cons_self, transformation_of_resolveOne ho⟩
    · exact ⟨List.mem_cons_of_mem _ (ih h).1, (ih h).2⟩

/-- A name whose entry failed has a recorded failure. -/
theorem exists_failure_of_lookup {names : List String} {name : String} {s : σ}
    (h : (resolveAll transformers extension names s).1.1.lookup name = some .failed) :
    ∃ failure ∈ (resolveAll transformers extension names s).1.2, failure.entity = name := by
  induction names generalizing s with
  | nil => cases h
  | cons other rest ih =>
    rw [resolveAll_cons, Keyed.lookup_entry_cons] at h
    rw [resolveAll_cons]
    by_cases he : name = other
    · rw [if_pos he] at h
      cases ho : (resolveOne transformers other s).1 with
      | ok _ => rw [ho] at h; cases h
      | error e =>
        refine ⟨.mk other (e.2.map fun stem => stem ++ "." ++ extension) e.1,
          List.mem_append_left _ (Option.mem_toList.2 ?_), he.symm⟩
        rw [ho]
        rfl
    · rw [if_neg he] at h
      obtain ⟨failure, hf, hentity⟩ := ih h
      exact ⟨failure, List.mem_append_right _ hf, hentity⟩

/-- A name that was asked for has an entry. -/
theorem lookup_isSome_of_mem_keys {entries : List (String × Resolution)} {name : String}
    (h : name ∈ entries.map Prod.fst) : (entries.lookup name).isSome := by
  obtain ⟨entry, he, rfl⟩ := List.mem_map.1 h
  rw [List.lookup_isSome_iff]
  exact ⟨entry, he, by simp⟩

/-! ## The table of a resolution -/

section

variable {names known : EntityNames} {name : String}

/-- What a table has of a name. -/
def resolution? (names : EntityNames) (name : String) : Option Resolution :=
  match names.resolved.lookup name with
  | some resolved => some (.resolved resolved)
  | none => if names.failed.contains name then some .failed else none

theorem get_eq (names : EntityNames) (name : String) : names.get name =
    match names.resolution? name with
    | some (.resolved resolved) => .ok resolved
    | some .failed => .error (.failedDependency name)
    | none => .error (.configuration (.unknownEntity name)) := by
  unfold get resolution?
  cases names.resolved.lookup name with
  | some resolved => rfl
  | none => cases names.failed.contains name <;> rfl

theorem isFailed_iff : names.isFailed name = true ↔ names.resolution? name = some .failed := by
  unfold isFailed resolution?
  cases hresolved : names.resolved.lookup name with
  | none => simp
  | some resolved =>
    have hfailed : name ∉ names.failed := fun h => by simp [names.apart name h] at hresolved
    simp [hfailed]

theorem resolution?_of_get {resolved : ResolvedName} (h : names.get name = .ok resolved) :
    names.resolution? name = some (.resolved resolved) := by
  rw [get_eq] at h
  split at h
  · next heq => cases h; exact heq
  · cases h
  · cases h

theorem contains_eq (names : EntityNames) (name : String) :
    names.contains name = (names.resolution? name).isSome := by
  unfold contains resolution?
  cases names.resolved.lookup name with
  | some resolved => rfl
  | none => cases names.failed.contains name <;> rfl

/-- Note what came of a name that was not met before. -/
def record (names : EntityNames) (name : String) (h : ¬ names.contains name = true) :
    Except (GenerationError × Option String) ResolvedName → EntityNames
  | .ok resolved => names.insert name resolved h
  | .error _ => names.fail name h

theorem resolution?_record (h : ¬ names.contains name = true)
    (outcome : Except (GenerationError × Option String) ResolvedName) (other : String) :
    (names.record name h outcome).resolution? other =
      if other = name then some (entryOf outcome) else names.resolution? other := by
  cases outcome with
  | ok resolved =>
    simp only [record, insert, resolution?, Keyed.lookup_entry_cons, entryOf]
    by_cases heq : other = name <;> simp [heq]
  | error e =>
    simp only [record, fail, resolution?, entryOf]
    by_cases heq : other = name
    · simp [heq, (not_contains_iff.1 h).1]
    · simp [heq]

/-- The names of a list that a table does not have, each once. -/
def unmet (known : EntityNames) (names : List String) : List String :=
  (names.filter fun name => !known.contains name).eraseDups

theorem unmet_empty (names : List String) : unmet empty names = names.eraseDups := by
  have hall : names.filter (fun name => !empty.contains name) = names :=
    List.filter_eq_self.2 fun _ _ => rfl
  rw [unmet, hall]

theorem unmet_cons_of_contains (h : known.contains name = true) (rest : List String) :
    known.unmet (name :: rest) = known.unmet rest := by
  rw [unmet, List.filter_cons_of_neg (by simp [h]), unmet]

theorem unmet_cons (h : ¬ known.contains name = true)
    (outcome : Except (GenerationError × Option String) ResolvedName) (rest : List String) :
    known.unmet (name :: rest) = name :: (known.record name h outcome).unmet rest := by
  have hcontains (other : String) : (!(known.record name h outcome).contains other) =
      (!other == name && !known.contains other) := by
    rw [contains_eq, resolution?_record, contains_eq]
    by_cases heq : other = name <;> simp [heq]
  rw [unmet, List.filter_cons_of_pos (by simpa using h), List.eraseDups_cons, List.filter_filter, unmet]
  simp only [hcontains]

end

/-! ## The run through all names -/

theorem resolveNext_of_contains {known : EntityNames} {name : String} (h : known.contains name = true)
    (failures : List EntityFailure) (s : σ) :
    resolveNext transformers extension (known, failures) name s = ((known, failures), s) := by
  rw [resolveNext, dif_pos h]
  rfl

theorem resolveNext_of_not_contains {known : EntityNames} {name : String}
    (h : ¬ known.contains name = true) (failures : List EntityFailure) (s : σ) :
    resolveNext transformers extension (known, failures) name s =
      let outcome := resolveOne transformers name s
      ((known.record name h outcome.1, failures ++ (failureOf extension name outcome.1).toList),
        outcome.2) := by
  rw [resolveNext, dif_neg h, state_bind]
  dsimp only
  cases (resolveOne transformers name s).1 with
  | ok resolved => exact congrArg (fun told => ((known.insert name resolved h, told), _)) (List.append_nil _).symm
  | error e => rfl

/-- Going through names with a table is resolving those that the table does not have. -/
theorem foldlM_resolveNext (transformers : TransformerSet σ) (extension : String) (known : EntityNames)
    (failures : List EntityFailure) (names : List String) (s : σ) :
    let run := names.foldlM (resolveNext transformers extension) (known, failures) s
    let all := resolveAll transformers extension (known.unmet names) s
    run.2 = all.2 ∧ run.1.2 = failures ++ all.1.2 ∧
      ∀ name, run.1.1.resolution? name = (known.resolution? name).or (all.1.1.lookup name) := by
  induction names generalizing known failures s with
  | nil => exact ⟨rfl, (List.append_nil _).symm, fun _ => (Option.or_none).symm⟩
  | cons name rest ih =>
    rw [List.foldlM_cons, state_bind]
    by_cases h : known.contains name = true
    · rw [resolveNext_of_contains h, unmet_cons_of_contains h]
      exact ih known failures s
    · have hnone : known.resolution? name = none := by
        rwa [contains_eq, Bool.not_eq_true, Option.isSome_eq_false_iff, Option.isNone_iff_eq_none] at h
      rw [resolveNext_of_not_contains h, unmet_cons h (resolveOne transformers name s).1]
      obtain ⟨hstate, hfailures, htable⟩ := ih (known.record name h (resolveOne transformers name s).1)
        (failures ++ (failureOf extension name (resolveOne transformers name s).1).toList)
        (resolveOne transformers name s).2
      refine ⟨hstate, ?_, fun other => ?_⟩
      · rw [resolveAll_cons]
        exact hfailures.trans (List.append_assoc ..)
      · rw [resolveAll_cons, Keyed.lookup_entry_cons]
        refine (htable other).trans ?_
        rw [resolution?_record]
        by_cases heq : other = name <;> simp [heq, hnone]

section

variable (transformers : TransformerSet σ) (extension : String) (model : DatabaseModel) (s : σ)

/-- A resolution asks for each mentioned name once. -/
theorem state_resolve : (resolve transformers model extension s).2 =
    (resolveAll transformers extension model.mentionedNames s).2 := by
  have h := (foldlM_resolveNext transformers extension empty [] model.namesInOrder s).1
  rwa [unmet_empty] at h

theorem failures_resolve : (resolve transformers model extension s).1.2 =
    (resolveAll transformers extension model.mentionedNames s).1.2 := by
  have h := (foldlM_resolveNext transformers extension empty [] model.namesInOrder s).2.1
  rwa [unmet_empty] at h

theorem resolution?_resolve (name : String) :
    (resolve transformers model extension s).1.1.resolution? name =
      (resolveAll transformers extension model.mentionedNames s).1.1.lookup name := by
  have h := (foldlM_resolveNext transformers extension empty [] model.namesInOrder s).2.2 name
  rwa [unmet_empty] at h

end

/-- Every failure of a resolution is a transformation error of a name that the model mentions. -/
theorem transformation_of_mem_resolve {model : DatabaseModel} {s : σ} {failure : EntityFailure}
    (h : failure ∈ (resolve transformers model extension s).1.2) :
    failure.entity ∈ model.mentionedNames ∧
      ∃ role cause, (role = .entityName ∨ role = .entityFileName) ∧
        failure.error = .transformation failure.entity role cause := by
  rw [failures_resolve] at h
  exact transformation_of_mem_resolveAll h

/-- A failed name has a failure. -/
theorem exists_failure_of_isFailed {model : DatabaseModel} {s : σ} {name : String}
    (h : (resolve transformers model extension s).1.1.isFailed name = true) :
    ∃ failure ∈ (resolve transformers model extension s).1.2, failure.entity = name := by
  rw [isFailed_iff, resolution?_resolve] at h
  rw [failures_resolve]
  exact exists_failure_of_lookup h

/-- Looking up a mentioned name gives its names, or fails because the name did. -/
theorem get_resolve {model : DatabaseModel} {s : σ} {name : String} {e : GenerationError}
    (h : name ∈ model.mentionedNames)
    (he : ((resolve transformers model extension s).1.1.get name) = .error e) :
    e = .failedDependency name := by
  have hkeys := keys_resolveAll transformers extension model.mentionedNames s
  have hsome := lookup_isSome_of_mem_keys (hkeys ▸ h)
  rw [get_eq, resolution?_resolve] at he
  split at he
  · cases he
  · cases he; rfl
  · next hn => rw [hn] at hsome; cases hsome

end EntityNames

/-! ## Transformers without memory -/

/-- The answers of a name transformer do not depend on the calls before. -/
def NameTransformer.IsPure (f : NameTransformer σ) : Prop :=
  ∀ (name : String) (s t : σ), (f name s).1 = (f name t).1

/-- Neither name transformer remembers anything. -/
structure TransformerSet.IsPure (transformers : TransformerSet σ) : Prop where
  entityName : ∀ f ∈ transformers.entityName, NameTransformer.IsPure f
  entityFileName : ∀ f ∈ transformers.entityFileName, NameTransformer.IsPure f

namespace EntityNames

variable {transformers : TransformerSet σ} {extension : String}

theorem applyName_of_isPure {f : Option (NameTransformer σ)}
    (hf : ∀ g ∈ f, NameTransformer.IsPure g) (role : TransformRole) (name : String) (s t : σ) :
    (TransformerSet.applyName f role name s).1 = (TransformerSet.applyName f role name t).1 := by
  cases f with
  | none => rfl
  | some g =>
    simp only [TransformerSet.applyName, state_bind, state_pure]
    rw [hf g rfl name s t]

/-- What becomes of a name does not depend on when it is asked for. -/
theorem resolveOne_of_isPure (h : transformers.IsPure) (name : String) (s t : σ) :
    (resolveOne transformers name s).1 = (resolveOne transformers name t).1 := by
  simp only [resolveOne, TransformerSet.transformEntityName,
    TransformerSet.transformEntityFileName, state_bind, state_pure]
  rw [applyName_of_isPure h.entityName _ name s t,
    applyName_of_isPure h.entityFileName _ name _
      (TransformerSet.applyName transformers.entityName .entityName name t).2]

/-- The entry of a name is the same in every table that has one. -/
theorem lookup_resolveAll (h : transformers.IsPure) {names : List String} {name : String}
    (hn : name ∈ names) (s t : σ) :
    (resolveAll transformers extension names s).1.1.lookup name =
      some (entryOf (resolveOne transformers name t).1) := by
  induction names generalizing s with
  | nil => cases hn
  | cons other rest ih =>
    rw [resolveAll_cons, Keyed.lookup_entry_cons]
    by_cases he : name = other
    · rw [if_pos he, he, resolveOne_of_isPure h other s t]
    · rw [if_neg he]
      exact ih ((List.mem_cons.1 hn).resolve_left he) _

/-- The failure that is recorded for a name, if any, is the same for every table. -/
theorem find?_resolveAll (h : transformers.IsPure) (names : List String) (name : String)
    (s t : σ) :
    (resolveAll transformers extension names s).1.2.find? (fun failure => failure.entity = name) =
      if name ∈ names then failureOf extension name (resolveOne transformers name t).1 else none := by
  induction names generalizing s with
  | nil => rfl
  | cons other rest ih =>
    rw [resolveAll_cons, List.find?_append, ih, resolveOne_of_isPure h other s t]
    by_cases he : name = other
    · subst he
      rw [if_pos List.mem_cons_self]
      cases ho : failureOf extension name (resolveOne transformers name t).1 with
      | none => simp
      | some failure => simp [entity_of_failureOf ho]
    · have hne : ((failureOf extension other (resolveOne transformers other t).1).toList.find?
          fun failure => failure.entity = name) = none := by
        rw [List.find?_eq_none]
        intro failure hf
        rw [entity_of_failureOf (Option.mem_toList.1 hf)]
        simpa using fun h => he h.symm
      rw [hne, Option.none_or]
      simp [he]

/-- What a resolution has of a mentioned name does not depend on the rest of the model. -/
theorem resolution?_of_isPure (h : transformers.IsPure) {model : DatabaseModel} {name : String}
    (hn : name ∈ model.mentionedNames) (s t : σ) :
    (resolve transformers model extension s).1.1.resolution? name =
      some (entryOf (resolveOne transformers name t).1) :=
  (resolution?_resolve ..).trans (lookup_resolveAll h hn s t)

theorem find?_resolve (h : transformers.IsPure) (model : DatabaseModel) (name : String) (s t : σ) :
    (resolve transformers model extension s).1.2.find? (fun failure => failure.entity = name) =
      if name ∈ model.mentionedNames then failureOf extension name (resolveOne transformers name t).1
      else none := by
  rw [failures_resolve]
  exact find?_resolveAll h model.mentionedNames name s t

end EntityNames

end EntityScaffold
