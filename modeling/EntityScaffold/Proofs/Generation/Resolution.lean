import EntityScaffold.Proofs.Generation.Calls

/-! # What a resolution decides

The names that a model mentions are taken in the order in which they first occur. For each of them both name
transformers are called, and the two answers decide alone what becomes of the name and which failure is told.
-/

namespace EntityScaffold

variable {σ : Type}

/-! ## First occurrences -/

/-- The items of a list, each once and in the order in which they first occur. -/
structure FirstOccurrences (items firsts : List String) : Prop where
  mem_iff : ∀ item, item ∈ firsts ↔ item ∈ items
  ordered : firsts.Pairwise fun first second => items.idxOf first < items.idxOf second

theorem FirstOccurrences.nodup {items firsts : List String} (h : FirstOccurrences items firsts) :
    firsts.Nodup := by
  refine h.ordered.imp fun {first second} hlt heq => ?_
  rw [heq] at hlt
  exact Nat.lt_irrefl _ hlt

/-- Items that stay keep their order when others are dropped. -/
theorem idxOf_lt_of_filter {items : List String} {dropped first second : String} (hfirst : first ≠ dropped)
    (hsecond : second ≠ dropped)
    (h : (items.filter fun item => !item == dropped).idxOf first <
      (items.filter fun item => !item == dropped).idxOf second) :
    items.idxOf first < items.idxOf second := by
  induction items with
  | nil => exact h
  | cons item rest ih =>
    by_cases hitem : item = dropped
    · subst hitem
      rw [List.filter_cons_of_neg (by simp)] at h
      rw [List.idxOf_cons_ne _ hfirst.symm, List.idxOf_cons_ne _ hsecond.symm]
      exact Nat.succ_lt_succ (ih h)
    · rw [List.filter_cons_of_pos (by simpa using hitem)] at h
      by_cases hi : item = first
      · subst hi
        rw [List.idxOf_cons_self] at h ⊢
        by_cases hj : item = second
        · subst hj
          rw [List.idxOf_cons_self] at h
          cases h
        · rw [List.idxOf_cons_ne _ hj]
          exact Nat.succ_pos _
      · by_cases hj : item = second
        · subst hj
          rw [List.idxOf_cons_self] at h
          cases h
        · rw [List.idxOf_cons_ne _ hi, List.idxOf_cons_ne _ hj] at h ⊢
          exact Nat.succ_lt_succ (ih (Nat.lt_of_succ_lt_succ h))

/-- Dropping repetitions leaves the first occurrences. -/
theorem firstOccurrences_eraseDups : (items : List String) → FirstOccurrences items items.eraseDups
  | [] => ⟨fun _ => .rfl, .nil⟩
  | item :: rest => by
    have hothers := firstOccurrences_eraseDups (rest.filter fun other => !other == item)
    refine ⟨fun _ => List.mem_eraseDups, ?_⟩
    have hne : ∀ other ∈ (rest.filter fun other => !other == item).eraseDups, other ≠ item := by
      intro other hother
      simpa using (List.mem_filter.1 (List.mem_eraseDups.1 hother)).2
    rw [List.eraseDups_cons, List.pairwise_cons]
    refine ⟨fun other hother => ?_, hothers.ordered.imp_of_mem fun hfirst hsecond hlt => ?_⟩
    · rw [List.idxOf_cons_self, List.idxOf_cons_ne _ (hne other hother).symm]
      exact Nat.succ_pos _
    · rw [List.idxOf_cons_ne _ (hne _ hfirst).symm, List.idxOf_cons_ne _ (hne _ hsecond).symm]
      exact Nat.succ_lt_succ (idxOf_lt_of_filter (hne _ hfirst) (hne _ hsecond) hlt)
termination_by items => items.length
decreasing_by exact Nat.lt_succ_of_le (List.length_filter_le ..)

theorem DatabaseModel.firstOccurrences_mentionedNames (model : DatabaseModel) :
    FirstOccurrences model.namesInOrder model.mentionedNames :=
  firstOccurrences_eraseDups model.namesInOrder

/-! ## Calls one after another -/

namespace TransformerSet

variable {set : TransformerSet σ}

/-- The name transformer of a role. -/
def nameTransformer? (set : TransformerSet σ) : TransformRole → Option (NameTransformer σ)
  | .entityName => set.entityName
  | .entityFileName => set.entityFileName
  | .property | .navigationProperty => none

/-- The transformers answer calls one after another, each in the state that the calls before it leave. -/
inductive Answers (set : TransformerSet σ) : σ → List NameCall → σ → Prop
  | nil {s : σ} : Answers set s [] s
  | cons {role : TransformRole} {f : NameTransformer σ} {name : String} {rest : List NameCall} {s last : σ} :
    set.nameTransformer? role = some f → Answers set (f name s).2 rest last →
      Answers set s (⟨role, name, (f name s).1⟩ :: rest) last

theorem Answers.append {first second : List NameCall} {s middle last : σ}
    (h : set.Answers s first middle) (h' : set.Answers middle second last) :
    set.Answers s (first ++ second) last := by
  induction h with
  | nil => exact h'
  | cons hf _ ih => exact .cons hf (ih h')

theorem answers_applyName {f : Option (NameTransformer σ)} {role : TransformRole}
    (h : set.nameTransformer? role = f) (name : String) (s : σ) :
    set.Answers s (callOf f role name s).toList (applyName f role name s).2 := by
  cases f with
  | none => exact .nil
  | some f => exact .cons h .nil

end TransformerSet

namespace EntityNames

variable {transformers : TransformerSet σ}

theorem answers_callsFor (transformers : TransformerSet σ) (name : String) (s : σ) :
    transformers.Answers s (callsFor transformers name s) (resolveOne transformers name s).2 :=
  (TransformerSet.answers_applyName rfl name s).append (TransformerSet.answers_applyName rfl name _)

theorem answers_callsForAll (transformers : TransformerSet σ) (extension : String) (names : List String)
    (s : σ) : transformers.Answers s (callsForAll transformers names s)
      (resolveAll transformers extension names s).2 := by
  induction names generalizing s with
  | nil => exact .nil
  | cons name rest ih => exact (answers_callsFor transformers name s).append (ih _)

end EntityNames

/-! ## Answers -/

namespace NameCall

variable {first second : List NameCall} {role : TransformRole} {name : String}

/-- What a name is in a role: what was answered when it was asked for, or the name itself if it was not. -/
def given (calls : List NameCall) (role : TransformRole) (name : String) :
    Except GenerationError String :=
  match calls.find? fun call => call.role = role ∧ call.name = name with
  | some call => call.answer.mapError (.transformation name role)
  | none => .ok name

/-- What becomes of a name: it has both names, or it failed. -/
def resolution (calls : List NameCall) (name : String) : Resolution :=
  match given calls .entityName name, given calls .entityFileName name with
  | .ok className, .ok fileStem => .resolved ⟨className, fileStem⟩
  | _, _ => .failed

/-- The failure that is told of a name: the error of the class name, or else that of the file name, with the
file if its name is known. -/
def failure? (calls : List NameCall) (extension name : String) : Option EntityFailure :=
  match given calls .entityName name, given calls .entityFileName name with
  | .ok _, .ok _ => none
  | .error e, .ok fileStem => some (.mk name (some (fileStem ++ "." ++ extension)) e)
  | .error e, .error _ => some (.mk name none e)
  | .ok _, .error e => some (.mk name none e)

/-- A failure is told of a name exactly if it failed. -/
theorem map_entity_failure? (calls : List NameCall) (extension name : String) :
    (failure? calls extension name).map EntityFailure.entity =
      if resolution calls name = .failed then some name else none := by
  unfold failure? resolution
  cases given calls .entityName name <;> cases given calls .entityFileName name <;> rfl

theorem find?_eq_none_of_name_ne {calls : List NameCall} (h : ∀ call ∈ calls, call.name ≠ name) :
    (calls.find? fun call => call.role = role ∧ call.name = name) = none :=
  List.find?_eq_none.2 fun call hcall => by simp [h call hcall]

theorem given_append_left (h : ∀ call ∈ second, call.name ≠ name) :
    given (first ++ second) role name = given first role name := by
  rw [given, List.find?_append, find?_eq_none_of_name_ne h, Option.or_none]
  rfl

theorem given_append_right (h : ∀ call ∈ first, call.name ≠ name) :
    given (first ++ second) role name = given second role name := by
  rw [given, List.find?_append, find?_eq_none_of_name_ne h, Option.none_or]
  rfl

end NameCall

namespace EntityNames

open NameCall

variable {transformers : TransformerSet σ} {extension : String}

theorem given_callsFor (transformers : TransformerSet σ) (name : String) (s : σ) :
    given (callsFor transformers name s) .entityName name = (transformers.transformEntityName name s).1 ∧
    given (callsFor transformers name s) .entityFileName name =
      (transformers.transformEntityFileName name (transformers.transformEntityName name s).2).1 := by
  unfold callsFor TransformerSet.transformEntityFileName
  generalize (transformers.transformEntityName name s).2 = after
  unfold TransformerSet.transformEntityName TransformerSet.callOf given
  cases transformers.entityName <;> cases transformers.entityFileName <;>
    simp [TransformerSet.applyName, state_bind, state_pure]

/-- What becomes of one name is decided by the calls for it. -/
theorem resolveOne_given (transformers : TransformerSet σ) (extension name : String) (s : σ) :
    entryOf (resolveOne transformers name s).1 = NameCall.resolution (callsFor transformers name s) name ∧
    failureOf extension name (resolveOne transformers name s).1 =
      failure? (callsFor transformers name s) extension name := by
  obtain ⟨hclass, hfile⟩ := given_callsFor transformers name s
  simp only [resolveOne, state_bind, state_pure, NameCall.resolution, failure?, hclass, hfile]
  cases (transformers.transformEntityName name s).1 <;>
    cases (transformers.transformEntityFileName name (transformers.transformEntityName name s).2).1 <;>
      exact ⟨rfl, rfl⟩

/-- The calls decide what becomes of each name of a list, and nothing else is recorded. -/
theorem resolveAll_given (transformers : TransformerSet σ) (extension : String) {names : List String}
    (hd : names.Nodup) (s : σ) :
    (resolveAll transformers extension names s).1 =
      (names.map fun name => (name, NameCall.resolution (callsForAll transformers names s) name),
        names.filterMap (failure? (callsForAll transformers names s) extension)) := by
  induction names generalizing s with
  | nil => rfl
  | cons name rest ih =>
    obtain ⟨hname, hrest⟩ := List.nodup_cons.1 hd
    obtain ⟨hentry, hfailure⟩ := resolveOne_given transformers extension name s
    -- Calls for one name say nothing about another.
    have hown : ∀ role, given (callsForAll transformers (name :: rest) s) role name =
        given (callsFor transformers name s) role name := fun role =>
      given_append_left fun call hcall heq => hname (heq ▸ name_of_mem_callsForAll hcall)
    have hother : ∀ other ∈ rest, ∀ role, given (callsForAll transformers (name :: rest) s) role other =
        given (callsForAll transformers rest (resolveOne transformers name s).2) role other := by
      intro other hmem role
      refine given_append_right fun call hcall heq => hname ?_
      rwa [← name_of_mem_callsFor hcall, heq]
    have hentries : (rest.map fun other =>
        (other, NameCall.resolution (callsForAll transformers (name :: rest) s) other)) =
        rest.map fun other => (other,
          NameCall.resolution (callsForAll transformers rest (resolveOne transformers name s).2) other) :=
      List.map_congr_left fun other hmem => by simp only [NameCall.resolution, hother other hmem]
    have hfailures : rest.filterMap (failure? (callsForAll transformers (name :: rest) s) extension) =
        rest.filterMap (failure? (callsForAll transformers rest (resolveOne transformers name s).2)
          extension) :=
      List.filterMap_congr fun other hmem => by simp only [failure?, hother other hmem]
    rw [resolveAll_cons]
    dsimp only
    rw [ih hrest, hentry, hfailure, List.map_cons, List.filterMap_cons, hentries, hfailures]
    simp only [NameCall.resolution, failure?, hown]
    cases given (callsFor transformers name s) .entityName name <;>
      cases given (callsFor transformers name s) .entityFileName name <;> rfl

/-! ## Resolutions -/

/-- A table records what the calls decide about some names, and knows no others. -/
structure Records (table : EntityNames) (calls : List NameCall) (names : List String) : Prop where
  resolved : ∀ name className fileStem, table.get name = .ok ⟨className, fileStem⟩ ↔ name ∈ names ∧
    given calls .entityName name = .ok className ∧ given calls .entityFileName name = .ok fileStem
  failed : ∀ name, table.isFailed name = true ↔ name ∈ names ∧
    ((∃ e, given calls .entityName name = .error e) ∨ ∃ e, given calls .entityFileName name = .error e)
  /-- A name that failed is told to whatever depends on it. -/
  dependency : ∀ name, table.get name = .error (.failedDependency name) ↔ table.isFailed name = true
  unknown : ∀ name, (∃ fault, table.get name = .error (.configuration fault)) ↔ name ∉ names
  settled : ∀ name ∈ names, (∃ resolved, table.get name = .ok resolved) ↔ ¬ table.isFailed name = true

theorem lookup_map_of_mem {α : Type} {f : String → α} {names : List String} {name : String} :
    (names.map fun name => (name, f name)).lookup name = if name ∈ names then some (f name) else none := by
  induction names with
  | nil => rfl
  | cons other rest ih =>
    rw [List.map_cons, Keyed.lookup_entry_cons, ih]
    by_cases h : name = other
    · simp [h]
    · simp [h]

/-- A table of decisions records them. -/
theorem records_of_resolution? {table : EntityNames} {calls : List NameCall} {names : List String}
    (htable : ∀ name, table.resolution? name =
      if name ∈ names then some (NameCall.resolution calls name) else none) : Records table calls names := by
  refine ⟨fun name className fileStem => ?_, fun name => ?_, fun name => ?_, fun name => ?_, fun name => ?_⟩
  all_goals
    simp only [get_eq, isFailed_iff, htable, NameCall.resolution]
    by_cases h : name ∈ names
    · cases given calls .entityName name <;> cases given calls .entityFileName name <;> simp [h]
    · simp [h]

/-- The calls of a resolution. -/
def resolutionCalls (transformers : TransformerSet σ) (model : DatabaseModel) (extension : String) (s : σ) :
    List NameCall :=
  (resolve transformers.noting model extension (s, [])).2.2

theorem resolutionCalls_eq (transformers : TransformerSet σ) (model : DatabaseModel) (extension : String)
    (s : σ) :
    resolutionCalls transformers model extension s = callsForAll transformers model.mentionedNames s :=
  congrArg (·.2.2) (resolve_noting transformers model extension s)

/-- A resolution records for each mentioned name what the calls decide. -/
theorem resolve_given (transformers : TransformerSet σ) (model : DatabaseModel) (extension : String) (s : σ) :
    let calls := resolutionCalls transformers model extension s
    let resolution := (resolve transformers model extension s).1
    (∀ name, resolution.1.resolution? name =
      if name ∈ model.mentionedNames then some (NameCall.resolution calls name) else none) ∧
    resolution.2 = model.mentionedNames.filterMap (failure? calls extension) := by
  intro calls resolution
  have hgiven := resolveAll_given transformers extension model.firstOccurrences_mentionedNames.nodup s
  rw [← resolutionCalls_eq transformers model extension s] at hgiven
  refine ⟨fun name => ?_, ?_⟩
  · rw [resolution?_resolve, hgiven, lookup_map_of_mem]
  · rw [failures_resolve, hgiven]

/-- A resolution calls both transformers for each mentioned name in the order of first occurrence, and what they
answer decides alone what the table has and which failures are told. -/
theorem resolve_decided (transformers : TransformerSet σ) (model : DatabaseModel) (extension : String) (s : σ) :
    let calls := resolutionCalls transformers model extension s
    let resolution := resolve transformers model extension s
    resolve transformers.noting model extension (s, []) = (resolution.1, resolution.2, calls) ∧
    FirstOccurrences model.namesInOrder model.mentionedNames ∧
    calls.map (fun call => (call.name, call.role)) =
      model.mentionedNames.flatMap (fun name => transformers.nameRoles.map fun role => (name, role)) ∧
    transformers.Answers s calls resolution.2 ∧
    resolution.1.1.Records calls model.mentionedNames ∧
    resolution.1.2 = model.mentionedNames.filterMap (failure? calls extension) ∧
    resolution.1.2.map EntityFailure.entity =
      model.mentionedNames.filter fun name => resolution.1.1.isFailed name := by
  intro calls resolution
  have hcalls : calls = callsForAll transformers model.mentionedNames s :=
    resolutionCalls_eq transformers model extension s
  obtain ⟨htable, hfailures⟩ := resolve_given transformers model extension s
  refine ⟨?_, model.firstOccurrences_mentionedNames, ?_, ?_, ?_, ?_, ?_⟩
  · rw [hcalls]
    exact resolve_noting transformers model extension s
  · rw [hcalls, map_callsForAll]
  · rw [hcalls, state_resolve]
    exact answers_callsForAll transformers extension model.mentionedNames s
  · exact records_of_resolution? htable
  · exact hfailures
  · rw [hfailures, List.map_filterMap, ← List.filterMap_eq_filter]
    refine List.filterMap_congr fun name hname => ?_
    have hfailed : resolution.1.1.isFailed name = true ↔ NameCall.resolution calls name = .failed := by
      rw [isFailed_iff, htable, if_pos hname, Option.some.injEq]
    rw [map_entity_failure?, Option.guard]
    simp only [hfailed]
    rfl

/-- A transformer that refuses its first call and numbers the later ones. -/
def refusingOnce : NameTransformer Nat := fun name n =>
  (if n = 0 then .error "refused" else .ok (name ++ toString n), n + 1)

/-- The file name is asked for although there is no class name, and is told with the failure. -/
example :
    let transformers : TransformerSet Nat := ⟨⟨none, none⟩, some refusingOnce, some refusingOnce⟩
    let line := (EntityType.new "Line").withNavigation (.reference "Order" "Order")
    let resolution := (resolve transformers ⟨"Shop", [line, .new "Line"]⟩ "cs" 0).1
    resolution.1.get "Order" = .ok ⟨"Order2", "Order3"⟩ ∧
    resolution.2 = [.mk "Line" (some "Line1.cs") (.transformation "Line" .entityName "refused")] :=
  ⟨rfl, rfl⟩

end EntityNames

end EntityScaffold
