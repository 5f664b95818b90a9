import EntityScaffold.Proofs.Generation.Failing

/-! # What a failed name fails

A name fails once, and its failure is reported before anything that needs the name. The database context
then fails for the first entity of the model without a name. An entity with a name fails for the first of
its navigations that leads to a failed name, unless a property or a navigation before it fails for a cause
of its own. Nothing else fails for a name, and an error of a transformer tells the entity that it is
reported for.
-/

namespace EntityScaffold

variable {σ : Type}

/-! ## Failures of names -/

/-- The failure is that of one of the two names of an entity. -/
def EntityFailure.isOfName (name : String) (failure : EntityFailure) : Bool :=
  failure.entity = name && match failure.error with
    | .transformation _ .entityName _ | .transformation _ .entityFileName _ => true
    | _ => false

/-- The name of an entity failed. -/
def ScaffoldReport.isFailedName (report : ScaffoldReport) (name : String) : Bool :=
  report.failures.any (·.isOfName name)

theorem nodup_eraseDups : ∀ names : List String, names.eraseDups.Nodup
  | [] => by simp
  | name :: rest => by
    have hlength : (rest.filter fun other => !other == name).length < rest.length + 1 :=
      Nat.lt_succ_of_le (List.length_filter_le _ _)
    rw [List.eraseDups_cons]
    exact List.nodup_cons.2 ⟨by simp [List.mem_eraseDups], nodup_eraseDups _⟩
termination_by names => names.length

theorem EntityFailure.isOfName_eq_false {failure : EntityFailure} {name : String}
    (h : failure.entity ≠ name) : failure.isOfName name = false := by
  simp [isOfName, h]

theorem EntityFailure.isOfName_of_transformation {failure : EntityFailure} {entity cause : String}
    {role : TransformRole} (hr : role = .entityName ∨ role = .entityFileName)
    (he : failure.error = .transformation entity role cause) :
    failure.isOfName failure.entity = true := by
  rcases hr with rfl | rfl <;> simp [isOfName, he]

namespace EntityNames

variable {transformers : TransformerSet σ} {extension : String}

/-- A name that failed has one recorded failure, any other name has none. -/
theorem countP_resolveAll {names : List String} (hd : names.Nodup) (name : String) (s : σ) :
    (resolveAll transformers extension names s).1.2.countP (·.isOfName name) =
      if (resolveAll transformers extension names s).1.1.lookup name = some .failed then 1 else 0 := by
  induction names generalizing s with
  | nil => rfl
  | cons other rest ih =>
    obtain ⟨hother, hrest⟩ := List.nodup_cons.1 hd
    rw [resolveAll_cons, List.countP_append, ih hrest, Keyed.lookup_entry_cons]
    by_cases he : name = other
    · subst he
      have hnone : (resolveAll transformers extension rest
          (resolveOne transformers name s).2).1.1.lookup name = none := by
        refine List.lookup_eq_none_iff.2 fun entry hentry => ?_
        have hkey : entry.1 ∈ rest := keys_resolveAll transformers extension rest _ ▸
          List.mem_map_of_mem hentry
        have hne : name ≠ entry.1 := fun h => hother (h ▸ hkey)
        simpa using hne
      rw [hnone, if_pos rfl]
      cases ho : (resolveOne transformers name s).1 with
      | ok resolved => rfl
      | error e =>
        obtain ⟨role, cause, hr, he⟩ := transformation_of_resolveOne ho
        have hname (fileName : Option String) :
            EntityFailure.isOfName name (.mk name fileName e.1) = true :=
          EntityFailure.isOfName_of_transformation hr he
        simp [failureOf, entryOf, hname]
    · rw [if_neg he]
      cases ho : failureOf extension other (resolveOne transformers other s).1 with
      | none => simp
      | some failure =>
        have hne : failure.entity ≠ name := fun h => he (h ▸ entity_of_failureOf ho)
        simp [EntityFailure.isOfName_eq_false hne]

end EntityNames

/-! ## Failed names in a report -/

namespace Scaffolder

variable {model : DatabaseModel} {entity : EntityType}
variable {scaffolder : Scaffolder σ} {s : σ} {failure : EntityFailure} {name : String}

/-- The database context fails for a name exactly if that is the first failed name of an entity. -/
theorem dbContextOutcome_eq_failedDependency (hc : scaffolder.config.HasOwnRoles) :
    (∃ failure, (scaffolder.dbContextOutcome (scaffolder.runScope model s) model).result =
        .error failure ∧ failure.error = .failedDependency name) ↔
      scaffolder.config.mode.generatesDbContext = true ∧
        (scaffolder.runScope model s).names.firstFailed? model = some name := by
  simp only [dbContextOutcome_eq_error hc,
    DbContextView.build_eq_error (covers_runScope scaffolder model s)]
  constructor
  · rintro ⟨_, ⟨hm, _, rfl, ⟨_, hfirst, rfl⟩ | ⟨_, -, hrender⟩⟩, herror⟩
    · cases herror
      exact ⟨hm, hfirst⟩
    · obtain ⟨_, rfl⟩ := Renderer.error_of_renderNamed hrender
      exact absurd herror (Renderer.errorOf_ne_failedDependency _ _ _)
  · rintro ⟨hm, hfirst⟩
    exact ⟨_, ⟨hm, _, rfl, .inl ⟨name, hfirst, rfl⟩⟩, rfl⟩

/-- An entity fails for a name exactly if it has a name itself and the first thing about it that has no
view is a navigation that leads to the failed name. -/
theorem entityOutcome_eq_failedDependency (hc : scaffolder.config.HasOwnRoles)
    (he : entity ∈ model.entityTypes) :
    (∃ failure, (scaffolder.entityOutcome (scaffolder.runScope model s) entity).result =
        .error failure ∧ failure.error = .failedDependency name) ↔
      (scaffolder.runScope model s).names.isFailed entity.name = false ∧
      scaffolder.config.mode.generatesEntities = true ∧
      EntityTypeView.build (scaffolder.runScope model s) entity = .error (.failedDependency name) := by
  simp only [entityOutcome_eq_error hc he]
  constructor
  · rintro ⟨_, ⟨hown, hm, _, _, -, rfl, hbuild | ⟨_, -, hrender⟩⟩, herror⟩
    · cases herror
      exact ⟨hown, hm, hbuild⟩
    · obtain ⟨_, rfl⟩ := Renderer.error_of_renderNamed hrender
      exact absurd herror (Renderer.errorOf_ne_failedDependency _ _ _)
  · rintro ⟨hown, hm, hbuild⟩
    have hcovers := covers_runScope scaffolder model s
    obtain ⟨resolved, hget⟩ :=
      (hcovers.exists_get_eq_ok (model.entity_mem_mentionedNames he)).2 hown
    have hfile := congrArg (Except.map fun stem => stem ++ "." ++
      (scaffolder.runScope model s).language.extension) (congrArg (Except.map (·.fileStem)) hget)
    exact ⟨_, ⟨hown, hm, _, _, hfile, rfl, .inl hbuild⟩, rfl⟩

/-- What follows the failures of names in a run: the database context, then the entities. -/
def laterOutcomes (scaffolder : Scaffolder σ) (model : DatabaseModel) (s : σ)
    (entities : List EntityType) : List Outcome :=
  scaffolder.dbContextOutcome (scaffolder.runScope model s) model ::
    entities.map (scaffolder.entityOutcome (scaffolder.runScope model s))

theorem runOutcomes_eq (scaffolder : Scaffolder σ) (model : DatabaseModel) (s : σ) :
    scaffolder.runOutcomes model s = (scaffolder.resolution model s).2.map nameOutcome ++
      scaffolder.laterOutcomes model s model.entityTypes := rfl

/-- Errors of transformers after the names are those of properties and navigations. -/
theorem refuses_of_mem_laterOutcomes (hc : scaffolder.config.HasOwnRoles)
    (h : failure ∈ (scaffolder.laterOutcomes model s model.entityTypes).filterMap Outcome.failure?)
    {told cause : String} {role : TransformRole}
    (herror : failure.error = .transformation told role cause) :
    told = failure.entity ∧ ∃ entity ∈ model.entityTypes, entity.name = told ∧
      (scaffolder.runScope model s).Refuses entity cause role := by
  obtain ⟨outcome, ho, hfailure⟩ := List.mem_filterMap.1 h
  have hresult := Outcome.failure?_eq_some.1 hfailure
  rcases List.mem_cons.1 ho with rfl | ho
  · obtain ⟨-, _, rfl, hview | ⟨_, -, hrender⟩⟩ := (dbContextOutcome_eq_error hc).1 hresult
    · obtain ⟨_, -, rfl⟩ :=
        (DbContextView.build_eq_error (covers_runScope scaffolder model s)).1 hview
      cases herror
    · obtain ⟨_, rfl⟩ := Renderer.error_of_renderNamed hrender
      exact absurd herror (Renderer.errorOf_ne_transformation _ _ _ _ _)
  · obtain ⟨entity, he, rfl⟩ := List.mem_map.1 ho
    obtain ⟨hown, -, _, _, -, rfl, hview | ⟨_, -, hrender⟩⟩ :=
      (entityOutcome_eq_error hc he).1 hresult
    · cases herror
      obtain ⟨rfl, hrefuses⟩ :=
        EntityTypeView.refuses_of_build (covers_runScope scaffolder model s) he hown hview
      exact ⟨rfl, entity, he, rfl, hrefuses⟩
    · obtain ⟨_, rfl⟩ := Renderer.error_of_renderNamed hrender
      exact absurd herror (Renderer.errorOf_ne_transformation _ _ _ _ _)

/-- No failure after those of names is that of a name. -/
theorem isOfName_of_mem_laterOutcomes (hc : scaffolder.config.HasOwnRoles)
    (h : failure ∈ (scaffolder.laterOutcomes model s model.entityTypes).filterMap Outcome.failure?) :
    failure.isOfName name = false := by
  by_contra hname
  rw [Bool.not_eq_false, EntityFailure.isOfName, Bool.and_eq_true] at hname
  obtain ⟨-, hrole⟩ := hname
  split at hrole
  · next herror => exact absurd (refuses_of_mem_laterOutcomes hc h herror).2 (by simp [GenerationScope.Refuses])
  · next herror => exact absurd (refuses_of_mem_laterOutcomes hc h herror).2 (by simp [GenerationScope.Refuses])
  · cases hrole

/-- The failures of a run: those of names come first. -/
theorem failures_runOutcomes (scaffolder : Scaffolder σ) (model : DatabaseModel) (s : σ) :
    (scaffolder.runOutcomes model s).filterMap Outcome.failure? = (scaffolder.resolution model s).2 ++
      (scaffolder.laterOutcomes model s model.entityTypes).filterMap Outcome.failure? := by
  have hname : Outcome.failure? ∘ nameOutcome = some := rfl
  rw [runOutcomes_eq, List.filterMap_append, List.filterMap_map, hname, List.filterMap_some]

theorem failures_eq {report : ScaffoldReport}
    (hr : (scaffolder.generateReport model s).1 = .ok report) :
    report.failures = (scaffolder.resolution model s).2 ++
      (scaffolder.laterOutcomes model s model.entityTypes).filterMap Outcome.failure? := by
  obtain ⟨collected, hmerges, rfl⟩ := exists_merges hr
  exact hmerges.failures.trans (failures_runOutcomes scaffolder model s)

theorem countP_nameFailures (scaffolder : Scaffolder σ) (model : DatabaseModel) (s : σ)
    (name : String) :
    (scaffolder.resolution model s).2.countP (·.isOfName name) =
      if (scaffolder.runScope model s).names.isFailed name then 1 else 0 := by
  have hfailures : (scaffolder.resolution model s).2 = _ := EntityNames.failures_resolve ..
  have hentry : (scaffolder.runScope model s).names.resolution? name = _ :=
    EntityNames.resolution?_resolve ..
  simp only [EntityNames.isFailed_iff, hfailures, hentry]
  exact EntityNames.countP_resolveAll (nodup_eraseDups _) name s

/-- What fails for a name fails for one that failed. -/
theorem isFailed_of_mem_laterOutcomes (hc : scaffolder.config.HasOwnRoles)
    (h : failure ∈ (scaffolder.laterOutcomes model s model.entityTypes).filterMap Outcome.failure?)
    (herror : failure.error = .failedDependency name) :
    (scaffolder.runScope model s).names.isFailed name = true := by
  obtain ⟨outcome, ho, hfailure⟩ := List.mem_filterMap.1 h
  have hresult := Outcome.failure?_eq_some.1 hfailure
  rcases List.mem_cons.1 ho with rfl | ho
  · obtain ⟨-, hfirst⟩ := (dbContextOutcome_eq_failedDependency hc).1 ⟨failure, hresult, herror⟩
    obtain ⟨entity, hfind, rfl⟩ := Option.map_eq_some_iff.1 hfirst
    exact by simpa using List.find?_some hfind
  · obtain ⟨entity, he, rfl⟩ := List.mem_map.1 ho
    obtain ⟨hown, -, hbuild⟩ :=
      (entityOutcome_eq_failedDependency hc he).1 ⟨failure, hresult, herror⟩
    obtain ⟨-, _, _, _, -, -, hf, rfl⟩ := (EntityTypeView.build_eq_failedDependency
      (covers_runScope scaffolder model s) he hown).1 hbuild
    exact hf

/-- The failure of a name is an error of one of the two name transformers. -/
theorem error_of_mem_resolution (h : failure ∈ (scaffolder.resolution model s).2) :
    ∃ role cause, (role = .entityName ∨ role = .entityFileName) ∧
      failure.error = .transformation failure.entity role cause :=
  (EntityNames.transformation_of_mem_resolve h).2

/-- A run does not fail first for a name that failed. -/
theorem head_ne_failedDependency (hc : scaffolder.config.HasOwnRoles) {rest : List EntityFailure}
    (h : (scaffolder.runOutcomes model s).filterMap Outcome.failure? = failure :: rest) :
    failure.error ≠ .failedDependency name := by
  intro herror
  rw [failures_runOutcomes] at h
  cases hnames : (scaffolder.resolution model s).2 with
  | nil =>
    rw [hnames, List.nil_append] at h
    have hfailed := isFailed_of_mem_laterOutcomes hc (h ▸ List.mem_cons_self) herror
    have hcount := countP_nameFailures scaffolder model s name
    rw [hnames, if_pos hfailed] at hcount
    cases hcount
  | cons first others =>
    rw [hnames] at h
    cases h
    obtain ⟨_, _, -, he⟩ := error_of_mem_resolution (hnames ▸ List.mem_cons_self)
    rw [he] at herror
    cases herror

theorem countP_failures (hc : scaffolder.config.HasOwnRoles) {report : ScaffoldReport}
    (hr : (scaffolder.generateReport model s).1 = .ok report) (name : String) :
    report.failures.countP (·.isOfName name) =
      if (scaffolder.runScope model s).names.isFailed name then 1 else 0 := by
  rw [failures_eq hr, List.countP_append, countP_nameFailures]
  refine Nat.add_eq_left.2 (List.countP_eq_zero.2 fun failure hf => ?_)
  rw [isOfName_of_mem_laterOutcomes hc hf]
  exact Bool.false_ne_true

/-- The names that failed are those whose failures are reported. -/
theorem isFailedName_eq (hc : scaffolder.config.HasOwnRoles) {report : ScaffoldReport}
    (hr : (scaffolder.generateReport model s).1 = .ok report) (name : String) :
    report.isFailedName name = (scaffolder.runScope model s).names.isFailed name := by
  rw [Bool.eq_iff_iff, ScaffoldReport.isFailedName, List.any_eq_true, ← List.countP_pos_iff,
    countP_failures hc hr]
  cases (scaffolder.runScope model s).names.isFailed name <;> simp

/-- The failure of a name comes before all that fail for it. -/
theorem countP_before (hc : scaffolder.config.HasOwnRoles) {report : ScaffoldReport}
    (hr : (scaffolder.generateReport model s).1 = .ok report) {before after : List EntityFailure}
    (hsplit : report.failures = before ++ failure :: after)
    (herror : failure.error = .failedDependency name) : before.countP (·.isOfName name) = 1 := by
  have hnames : failure ∉ (scaffolder.resolution model s).2 := by
    intro hf
    obtain ⟨_, _, -, he⟩ := error_of_mem_resolution hf
    rw [he] at herror
    cases herror
  have hlater : ∃ between, before = (scaffolder.resolution model s).2 ++ between ∧
      (scaffolder.laterOutcomes model s model.entityTypes).filterMap Outcome.failure? =
        between ++ failure :: after := by
    rw [failures_eq hr] at hsplit
    obtain h | ⟨rest, hbefore, hrest⟩ := List.append_eq_append_iff.1 hsplit
    · exact h
    · cases rest with
      | nil => exact ⟨[], by simp [hbefore], by simpa using hrest.symm⟩
      | cons first rest =>
        cases hrest
        exact absurd (by simp [hbefore]) hnames
  obtain ⟨between, rfl, hfailures⟩ := hlater
  have hmem : ∀ other ∈ between ++ failure :: after, other ∈
      (scaffolder.laterOutcomes model s model.entityTypes).filterMap Outcome.failure? :=
    fun _ h => hfailures ▸ h
  have hfailed := isFailed_of_mem_laterOutcomes hc (hmem failure (by simp)) herror
  rw [List.countP_append, countP_nameFailures, if_pos hfailed]
  refine Nat.add_eq_left.2 (List.countP_eq_zero.2 fun other ho => ?_)
  rw [isOfName_of_mem_laterOutcomes hc (hmem other (by simp [ho]))]
  exact Bool.false_ne_true

/-- Leaving out elements that give nothing gives the same. -/
theorem filterMap_map_filter {α β γ : Type} {f : α → β} {g : β → Option γ} {p : α → Bool} :
    ∀ {l : List α}, (∀ a ∈ l, p a = false → g (f a) = none) →
      (l.map f).filterMap g = ((l.filter p).map f).filterMap g
  | [], _ => rfl
  | a :: rest, h => by
    have ih := filterMap_map_filter fun b hb => h b (List.mem_cons_of_mem a hb)
    cases hp : p a with
    | false => simp [hp, h a List.mem_cons_self hp, ih]
    | true => simp [hp, List.filterMap_cons, ih]

/-- Entities whose names failed contribute nothing to what follows the failures of names. -/
theorem filterMap_laterOutcomes {γ : Type} {g : Outcome → Option γ} {p : EntityType → Bool}
    (hg : ∀ outcome, outcome.result = .ok none → g outcome = none)
    (hp : ∀ entity, p entity = !(scaffolder.runScope model s).names.isFailed entity.name) :
    (scaffolder.laterOutcomes model s model.entityTypes).filterMap g =
      (scaffolder.laterOutcomes model s (model.entityTypes.filter p)).filterMap g := by
  simp only [laterOutcomes, List.filterMap_cons]
  rw [filterMap_map_filter (p := p) fun entity _ h => hg _ (entityOutcome_of_disabled (.inl ?_))]
  simpa [hp] using h

end Scaffolder

/-- What a report of a run tells about the names that failed. -/
structure ScaffoldReport.Explains (report : ScaffoldReport) (scaffolder : Scaffolder σ)
    (model : DatabaseModel) (s : σ) : Prop where
  /-- What fails for a name comes after the failure of that name, which is reported once. -/
  once : ∀ before failure after name, report.failures = before ++ failure :: after →
    failure.error = .failedDependency name →
      before.countP (·.isOfName name) = 1 ∧ report.failures.countP (·.isOfName name) = 1
  /-- The database context fails for a name exactly if an entity has none; the first such is told. -/
  dbContext : scaffolder.config.mode.generatesDbContext = true → ∀ name,
    (∃ failure, (scaffolder.dbContextOutcome (scaffolder.runScope model s) model).result =
        .error failure ∧ failure.error = .failedDependency name) ↔
      ∃ entity, model.entityTypes.find? (fun entity => report.isFailedName entity.name) = some entity ∧
        entity.name = name
  /-- An entity with a name fails for another name exactly if a navigation leads to that one, and all
  properties and all earlier navigations have views. -/
  entity : scaffolder.config.mode.generatesEntities = true → ∀ entity ∈ model.entityTypes,
    report.isFailedName entity.name = false → ∀ name,
      (∃ failure, (scaffolder.entityOutcome (scaffolder.runScope model s) entity).result =
          .error failure ∧ failure.error = .failedDependency name) ↔
        (∀ property ∈ entity.properties, ∃ view,
          PropertyView.build (scaffolder.runScope model s) entity property = .ok view) ∧
        ∃ before navigation after, entity.navigations = before ++ navigation :: after ∧
          (∀ other ∈ before, ∃ view,
            NavigationView.build (scaffolder.runScope model s) entity other = .ok view) ∧
          report.isFailedName navigation.targetEntity = true ∧ navigation.targetEntity = name
  /-- Nothing is made of an entity without a name. -/
  nameless : ∀ entity ∈ model.entityTypes, report.isFailedName entity.name = true →
    (scaffolder.entityOutcome (scaffolder.runScope model s) entity).result = .ok none
  /-- The failures are those of names, and then those of the database context and of entities with
  names. -/
  failures : report.failures = (scaffolder.resolution model s).2 ++ (scaffolder.laterOutcomes model s
    (model.entityTypes.filter fun entity => !report.isFailedName entity.name)).filterMap
      Outcome.failure?
  /-- The files are those of the database context and of entities with names. -/
  files : report.model.files.entries.Perm ((scaffolder.laterOutcomes model s
    (model.entityTypes.filter fun entity => !report.isFailedName entity.name)).filterMap Outcome.entry?)
  /-- An error of a transformer tells the entity that it is reported for. It is an error of the name, or
  the transformer of properties or navigations has refused one of the entity. -/
  transformation : ∀ failure ∈ report.failures, ∀ told role cause,
    failure.error = .transformation told role cause → told = failure.entity ∧
      ((role = .entityName ∨ role = .entityFileName) ∧ failure ∈ (scaffolder.resolution model s).2 ∨
        ∃ entity ∈ model.entityTypes, entity.name = told ∧
          (scaffolder.runScope model s).Refuses entity cause role)

namespace Scaffolder

variable {scaffolder : Scaffolder σ} {s : σ} {failure : EntityFailure} {name : String}

/-- Every report explains the names that failed. -/
theorem generateReport_explains {steps : List (BuilderStep σ)} {config : GenerationConfig σ}
    {templates : TemplateSource} {options : ScaffoldOptions}
    (hconfig : GenerationBuilder.buildBy steps = .ok config)
    (hnew : new config templates options = .ok scaffolder) {report : ScaffoldReport}
    (hr : (scaffolder.generateReport model s).1 = .ok report) :
    report.Explains scaffolder model s := by
  obtain ⟨rfl, rfl⟩ := of_new hnew
  have hc := GenerationBuilder.hasOwnRoles_of_buildBy hconfig
  have hnames := isFailedName_eq hc hr
  exact {
    once := fun before failure after name hsplit herror => by
      have hbefore := countP_before hc hr hsplit herror
      refine ⟨hbefore, Nat.le_antisymm ?_ ?_⟩
      · rw [countP_failures hc hr]
        split <;> omega
      · rw [hsplit, List.countP_append, hbefore]
        omega
    dbContext := fun hm name => by
      rw [dbContextOutcome_eq_failedDependency hc, and_iff_right hm, EntityNames.firstFailed?,
        Option.map_eq_some_iff]
      simp only [hnames]
    entity := fun hm entity he hown name => by
      rw [hnames] at hown
      rw [entityOutcome_eq_failedDependency hc he, and_iff_right hown, and_iff_right hm,
        EntityTypeView.build_eq_failedDependency (covers_runScope scaffolder model s) he hown]
      simp only [hnames]
    nameless := fun entity _ hf => entityOutcome_of_disabled (.inl (hnames entity.name ▸ hf))
    failures := by
      rw [failures_eq hr]
      refine congrArg _ (filterMap_laterOutcomes (fun outcome ho => ?_) fun entity => ?_)
      · rw [Outcome.failure?, ho]
      · rw [hnames]
    files := by
      obtain ⟨collected, hmerges, rfl⟩ := exists_merges hr
      have hnone : ((scaffolder.resolution model s).2.map nameOutcome).filterMap Outcome.entry? = [] := by
        rw [List.filterMap_map]
        exact List.filterMap_eq_nil_iff.2 fun _ _ => rfl
      have hfiles := hmerges.files
      rw [runOutcomes_eq, List.filterMap_append, hnone, List.nil_append] at hfiles
      refine hfiles.trans (.of_eq (filterMap_laterOutcomes (fun outcome ho => ?_) fun entity => ?_))
      · rw [Outcome.entry?, Outcome.file?, ho]
        rfl
      · rw [hnames]
    transformation := fun failure hf told role cause herror => by
      rw [failures_eq hr] at hf
      rcases List.mem_append.1 hf with hf | hf
      · obtain ⟨_, _, hrole, he⟩ := error_of_mem_resolution hf
        rw [he] at herror
        cases herror
        exact ⟨rfl, .inl ⟨hrole, hf⟩⟩
      · obtain ⟨htold, hrefuses⟩ := refuses_of_mem_laterOutcomes hc hf herror
        exact ⟨htold, .inr hrefuses⟩ }

/-- Steps after which the name `Order` is refused. -/
def orderlessSteps : List (BuilderStep Unit) :=
  [.configure .dbContextAndEntities .typescript, .registerTransformers { TransformerSet.empty with
    entityName := some fun name => pure (if name = "Order" then .error "refused" else .ok name) }]

/-- Two templates of one word. -/
def wordTemplates : TemplateSource := fun path =>
  if path = dbContextTemplate then some "context"
  else if path = LanguageMode.typescript.entityTemplate then some "interface"
  else none

/-- The scaffolder after these steps with these templates. -/
def orderlessScaffolder : Scaffolder Unit :=
  let config : GenerationConfig Unit := .start .dbContextAndEntities .typescript
  ⟨{ config with transformers := { TransformerSet.empty with
      entityName := some fun name => pure (if name = "Order" then .error "refused" else .ok name) } },
    {}, { Renderer.new config.helpers config.blockHelpers with
      templates := (Keyed.empty.insert dbContextTemplate (.cons none (.text "context") .nil)).insert
        LanguageMode.typescript.entityTemplate (.cons none (.text "interface") .nil) }⟩

theorem generateReport_explains_orderless :
    let line := (EntityType.new "Line").withNavigation (.reference "Order" "Order")
    let model : DatabaseModel := ⟨"Shop", [line, .new "Order"]⟩
    GenerationBuilder.buildBy orderlessSteps = .ok orderlessScaffolder.config ∧
    new orderlessScaffolder.config wordTemplates {} = .ok orderlessScaffolder ∧
    ∃ report, (orderlessScaffolder.generateReport model ()).1 = .ok report ∧
      report.failures.map (·.entity) = ["Order", "ShopContext", "Line"] ∧
      (∃ failure, (orderlessScaffolder.entityOutcome (orderlessScaffolder.runScope model ()) line).result =
        .error failure ∧ failure.error = .failedDependency "Order") ∧
      (orderlessScaffolder.entityOutcome (orderlessScaffolder.runScope model ()) (.new "Order")).result =
        .ok none := by
  intro line model
  have hconfig : GenerationBuilder.buildBy orderlessSteps = .ok orderlessScaffolder.config := rfl
  have hnew : new orderlessScaffolder.config wordTemplates {} = .ok orderlessScaffolder := rfl
  obtain ⟨report, hr, hfailures, hline, horder⟩ : ∃ report,
      (orderlessScaffolder.generateReport model ()).1 = .ok report ∧
      report.failures.map (·.entity) = ["Order", "ShopContext", "Line"] ∧
      report.isFailedName "Line" = false ∧ report.isFailedName "Order" = true :=
    ⟨_, rfl, rfl, rfl, rfl⟩
  have hexplains := generateReport_explains hconfig hnew hr
  refine ⟨hconfig, hnew, report, hr, hfailures, ?_, ?_⟩
  · refine (hexplains.entity rfl line (by simp [model]) hline "Order").2 ⟨nofun, ?_⟩
    exact ⟨[], .reference "Order" "Order", [], rfl, nofun, horder, rfl⟩
  · exact hexplains.nameless (.new "Order") (by simp [model]) horder

end Scaffolder

end EntityScaffold
