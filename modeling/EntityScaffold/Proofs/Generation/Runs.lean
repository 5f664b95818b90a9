import EntityScaffold.Proofs.Generation.Merging
import EntityScaffold.Proofs.Generation.Recoverable

/-! # Runs

A run resolves the names of a model and merges the outcomes of its outputs. With a configuration that
can be built no outcome is fatal, so a run that collects failures either ends with the first collision
of two file names, or reports every file and every failure.
-/

namespace EntityScaffold

variable {σ : Type}

namespace Scaffolder

/-! ## Parts of a run -/

/-- The table of names of a run, and the failures of names. -/
def resolution (scaffolder : Scaffolder σ) (model : DatabaseModel) (s : σ) :
    EntityNames × List EntityFailure :=
  (EntityNames.resolve scaffolder.config.transformers model
    scaffolder.config.roles.language.extension s).1

/-- What all outputs of a run share. -/
def runScope (scaffolder : Scaffolder σ) (model : DatabaseModel) (s : σ) : GenerationScope :=
  scaffolder.scope model (scaffolder.resolution model s).1

/-- The outcomes of a run: failed names, the database context, then the entities of the model. -/
def runOutcomes (scaffolder : Scaffolder σ) (model : DatabaseModel) (s : σ) : List Outcome :=
  scaffolder.outcomes model (scaffolder.resolution model s).1 (scaffolder.resolution model s).2

theorem generateReport_eq (scaffolder : Scaffolder σ) (model : DatabaseModel) (s : σ) :
    (scaffolder.generateReport model s).1 =
      (Collected.empty.acceptAll scaffolder.options.failFast (scaffolder.runOutcomes model s)).map
        Collected.report := rfl

theorem of_new {config : GenerationConfig σ} {templates : TemplateSource}
    {options : ScaffoldOptions} {scaffolder : Scaffolder σ}
    (h : new config templates options = .ok scaffolder) :
    scaffolder.config = config ∧ scaffolder.options = options := by
  obtain ⟨_, _, h⟩ := exists_ok_of_bind h
  obtain ⟨_, _, h⟩ := exists_ok_of_bind h
  cases h
  exact ⟨rfl, rfl⟩

/-! ## No outcome is fatal -/

variable {scaffolder : Scaffolder σ} {model : DatabaseModel} {s : σ}

theorem isRecoverable_nameOutcome {failure : EntityFailure}
    (h : failure ∈ (scaffolder.resolution model s).2) : (nameOutcome failure).IsRecoverable := by
  obtain ⟨-, role, cause, -, he⟩ := EntityNames.transformation_of_mem_resolve h
  rintro _ ⟨⟩
  rw [he]
  rfl

theorem covers_runScope (scaffolder : Scaffolder σ) (model : DatabaseModel) (s : σ) :
    (scaffolder.runScope model s).names.Covers model :=
  EntityNames.covers_resolve _ _ _ _

theorem language_runScope (hc : scaffolder.config.HasOwnRoles) :
    (scaffolder.runScope model s).language = scaffolder.config.roles.model.language := by
  change scaffolder.config.roles.language = _
  rw [hc]
  rfl

theorem isRecoverable_dbContextOutcome (hc : scaffolder.config.HasOwnRoles) :
    (scaffolder.dbContextOutcome (scaffolder.runScope model s) model).IsRecoverable := by
  have hr : Recoverable (scaffolder.config.roles.model.generateDbContext
      scaffolder.config.roles.dbContext (scaffolder.runScope model s) model) := by
    simp only [ModelGenerator.generateDbContext, if_neg (not_not_intro (language_runScope hc))]
    exact .bind (.writeDbContext _ (covers_runScope scaffolder model s)) fun _ => .ok _
  intro failure hf
  simp only [dbContextOutcome] at hf
  cases hg : scaffolder.config.roles.model.generateDbContext scaffolder.config.roles.dbContext
      (scaffolder.runScope model s) model with
  | ok file => rw [hg] at hf; cases hf
  | error e =>
    rw [hg] at hf
    cases hf
    exact hr e hg

theorem isRecoverable_entityOutcome (hc : scaffolder.config.HasOwnRoles) {entity : EntityType}
    (he : entity ∈ model.entityTypes) :
    (scaffolder.entityOutcome (scaffolder.runScope model s) entity).IsRecoverable := by
  have hcovers := covers_runScope scaffolder model s
  have hl : ∀ language, scaffolder.config.roles.entityType = .rendering language →
      (scaffolder.runScope model s).language = language := by
    intro language h
    change scaffolder.config.roles.language = language
    rw [hc] at h ⊢
    simp only [RoleBindings.select] at h ⊢
    split at h <;> cases h
    rfl
  intro failure hf
  simp only [entityOutcome] at hf
  split at hf
  · cases hf
  · unfold ModelGenerator.generateEntity at hf
    split at hf
    · cases hf
    · split at hf
      · next e hname =>
        cases hf
        exact ((hcovers _ (model.entity_mem_mentionedNames he)).map _).map _ e hname
      · split at hf
        · next e hcode => cases hf; exact Recoverable.writeEntity hl hcovers he e hcode
        · cases hf

theorem isRecoverable_of_mem_runOutcomes (hc : scaffolder.config.HasOwnRoles) {outcome : Outcome}
    (h : outcome ∈ scaffolder.runOutcomes model s) : outcome.IsRecoverable := by
  rcases List.mem_append.1 h with h | h
  · obtain ⟨failure, hf, rfl⟩ := List.mem_map.1 h
    exact isRecoverable_nameOutcome hf
  · rcases List.mem_cons.1 h with rfl | h
    · exact isRecoverable_dbContextOutcome hc
    · obtain ⟨entity, he, rfl⟩ := List.mem_map.1 h
      exact isRecoverable_entityOutcome hc he

end Scaffolder

/-! ## Collisions -/

theorem eq_of_nodup_filterMap {α β : Type} {f : α → Option β} {x y : α} {b : β} :
    ∀ {l : List α}, (l.filterMap f).Nodup → x ∈ l → y ∈ l → f x = some b → f y = some b → x = y
  | [], _, hx, _, _, _ => nomatch hx
  | a :: rest, hd, hx, hy, hfx, hfy => by
    rw [List.filterMap_cons] at hd
    rcases List.mem_cons.1 hx with rfl | hx' <;> rcases List.mem_cons.1 hy with rfl | hy'
    · rfl
    · rw [hfx] at hd
      exact absurd (List.mem_filterMap.2 ⟨y, hy', hfy⟩) (List.nodup_cons.1 hd).1
    · rw [hfy] at hd
      exact absurd (List.mem_filterMap.2 ⟨x, hx', hfx⟩) (List.nodup_cons.1 hd).1
    · refine eq_of_nodup_filterMap ?_ hx' hy' hfx hfy
      cases ha : f a with
      | none => rw [ha] at hd; exact hd
      | some _ => rw [ha] at hd; exact hd.of_cons

namespace FirstCollision

variable {outcomes : List Outcome} {fileName first second : String}

/-- Two files of one name. -/
theorem not_nodup (h : FirstCollision outcomes fileName first second) :
    ¬ (outcomes.filterMap Outcome.fileName?).Nodup := by
  obtain ⟨before, outcome, after, earlier, rfl, -, hname, -, hmem, hearlier, -⟩ := h
  intro hd
  rw [List.filterMap_append, List.nodup_append] at hd
  refine hd.2.2 fileName ?_ fileName ?_ rfl
  · exact List.mem_filterMap.2 ⟨earlier, hmem, hearlier⟩
  · exact List.mem_filterMap.2 ⟨outcome, List.mem_cons_self, hname⟩

/-- The names before one collision are distinct, so no other collision lies before it. -/
theorem not_longer {before before' after after' : List Outcome} {outcome outcome' : Outcome}
    {name : String} (he : before ++ outcome :: after = before' ++ outcome' :: after')
    (hd : (before'.filterMap Outcome.fileName?).Nodup) (hname : outcome.fileName? = some name)
    {earlier : Outcome} (hmem : earlier ∈ before) (hearlier : earlier.fileName? = some name) :
    before'.length ≤ before.length := by
  by_contra hlt
  have hprefix : before ++ [outcome] <+: before' := by
    refine List.prefix_of_prefix_length_le ⟨after, ?_⟩ ⟨outcome' :: after', he.symm⟩ ?_
    · simp
    · rw [List.length_append]
      exact Nat.lt_of_not_le hlt
  obtain ⟨between, rfl⟩ := hprefix
  have hbefore : (before.filterMap Outcome.fileName?).Nodup := by
    rw [List.filterMap_append, List.filterMap_append, List.append_assoc] at hd
    exact (List.nodup_append.1 hd).1
  have hfirst : FirstCollision (before ++ [outcome] ++ between) name earlier.origin outcome.origin :=
    ⟨before, outcome, between, earlier, by simp, hbefore, hname, rfl, hmem, hearlier, rfl⟩
  exact hfirst.not_nodup hd

theorem unique {fileName' first' second' : String}
    (h : FirstCollision outcomes fileName first second)
    (h' : FirstCollision outcomes fileName' first' second') :
    fileName = fileName' ∧ first = first' ∧ second = second' := by
  obtain ⟨before, outcome, after, earlier, rfl, hd, hname, rfl, hmem, hearlier, rfl⟩ := h
  obtain ⟨before', outcome', after', earlier', he, hd', hname', rfl, hmem', hearlier', rfl⟩ := h'
  have hlength : before.length = before'.length :=
    Nat.le_antisymm (not_longer he.symm hd hname' hmem' hearlier')
      (not_longer he hd' hname hmem hearlier)
  obtain ⟨rfl, htail⟩ := List.append_inj he hlength
  cases htail
  rw [hname] at hname'
  cases hname'
  rw [eq_of_nodup_filterMap hd hmem hmem' hearlier hearlier']
  exact ⟨rfl, rfl, rfl⟩

end FirstCollision

/-! ## What a run returns -/

namespace Scaffolder

variable {scaffolder : Scaffolder σ} {model : DatabaseModel} {s : σ}

/-- What is reported has been merged. -/
theorem exists_merges {report : ScaffoldReport}
    (h : (scaffolder.generateReport model s).1 = .ok report) :
    ∃ collected : Collected, collected.Merges (scaffolder.runOutcomes model s) ∧
      collected.report = report := by
  rw [generateReport_eq] at h
  cases hc : Collected.empty.acceptAll scaffolder.options.failFast
      (scaffolder.runOutcomes model s) with
  | error e => rw [hc] at h; cases h
  | ok collected =>
    rw [hc] at h
    cases h
    exact ⟨collected, Collected.merges_empty.run hc, rfl⟩

theorem firstCollision_of_error {e : GenerationError} (hc : scaffolder.config.HasOwnRoles)
    (hfast : scaffolder.options.failFast = false)
    (h : (scaffolder.generateReport model s).1 = .error e) :
    ∃ fileName first second, e = .fileNameCollision fileName first second ∧
      FirstCollision (scaffolder.runOutcomes model s) fileName first second := by
  rw [generateReport_eq, hfast] at h
  cases ha : Collected.empty.acceptAll false (scaffolder.runOutcomes model s) with
  | ok collected => rw [ha] at h; cases h
  | error e' =>
    rw [ha] at h
    cases h
    exact Collected.merges_empty.firstCollision
      (fun outcome ho => isRecoverable_of_mem_runOutcomes hc ho) ha

/-- Only one outcome is that of the database context. -/
theorem filter_isDbContext (scaffolder : Scaffolder σ) (model : DatabaseModel) (s : σ) :
    (scaffolder.runOutcomes model s).filter (·.isDbContext) =
      [scaffolder.dbContextOutcome (scaffolder.runScope model s) model] := by
  have hnames : ((scaffolder.resolution model s).2.map nameOutcome).filter (·.isDbContext) = [] := by
    rw [List.filter_eq_nil_iff]
    intro outcome ho
    obtain ⟨failure, -, rfl⟩ := List.mem_map.1 ho
    exact Bool.false_ne_true
  have hentities : (model.entityTypes.map
      (scaffolder.entityOutcome (scaffolder.runScope model s))).filter (·.isDbContext) = [] := by
    rw [List.filter_eq_nil_iff]
    intro outcome ho
    obtain ⟨entity, -, rfl⟩ := List.mem_map.1 ho
    exact Bool.false_ne_true
  change (_ ++ _ :: _).filter _ = _
  rw [List.filter_append, hnames, List.nil_append, List.filter_cons_of_pos rfl]
  exact congrArg _ hentities

/-- A disabled role makes no file of the database context. -/
theorem dbContextOutcome_of_disabled (hc : scaffolder.config.HasOwnRoles)
    (hd : scaffolder.config.roles.dbContext.isEnabled = false) :
    (scaffolder.dbContextOutcome (scaffolder.runScope model s) model).result = .ok none := by
  simp only [dbContextOutcome, ModelGenerator.generateDbContext, if_neg (not_not_intro (language_runScope hc))]
  cases hg : scaffolder.config.roles.dbContext with
  | rendering => rw [hg] at hd; cases hd
  | null => rfl

/-- Nothing is made of an entity whose name failed, or if the role is disabled. -/
theorem entityOutcome_of_disabled {scope : GenerationScope} {entity : EntityType}
    (h : scope.names.isFailed entity.name = true ∨
      scaffolder.config.roles.entityType.isEnabled = false) :
    (scaffolder.entityOutcome scope entity).result = .ok none := by
  simp only [entityOutcome]
  split
  · rfl
  · next hn =>
    have hd := h.resolve_left hn
    simp only [ModelGenerator.generateEntity, hd]
    rfl

/-- A run that collects failures ends with the first collision if two files have one name. Otherwise it
reports an entry for every file, every failure in order, and the file of the database context if there
is one. -/
theorem generateReport_exact {steps : List (BuilderStep σ)} {config : GenerationConfig σ}
    {templates : TemplateSource} {options : ScaffoldOptions}
    (hconfig : GenerationBuilder.buildBy steps = .ok config)
    (hnew : new config templates options = .ok scaffolder) (hfast : options.failFast = false)
    (model : DatabaseModel) (s : σ) :
    (∀ fileName first second,
      (scaffolder.generateReport model s).1 = .error (.fileNameCollision fileName first second) ↔
        FirstCollision (scaffolder.runOutcomes model s) fileName first second) ∧
    ((∃ fileName first second,
        FirstCollision (scaffolder.runOutcomes model s) fileName first second) ↔
      ¬ ((scaffolder.runOutcomes model s).filterMap Outcome.fileName?).Nodup) ∧
    (((scaffolder.runOutcomes model s).filterMap Outcome.fileName?).Nodup →
      ∃ report, (scaffolder.generateReport model s).1 = .ok report ∧
        report.model.files.entries.Perm
          ((scaffolder.runOutcomes model s).filterMap Outcome.entry?) ∧
        report.failures = (scaffolder.runOutcomes model s).filterMap Outcome.failure? ∧
        report.model.dbContextFile =
          (scaffolder.dbContextOutcome (scaffolder.runScope model s) model).fileName?) ∧
    (scaffolder.config.roles.dbContext.isEnabled = false →
      (scaffolder.dbContextOutcome (scaffolder.runScope model s) model).result = .ok none) ∧
    ∀ entity ∈ model.entityTypes,
      (scaffolder.runScope model s).names.isFailed entity.name = true ∨
        scaffolder.config.roles.entityType.isEnabled = false →
      (scaffolder.entityOutcome (scaffolder.runScope model s) entity).result = .ok none := by
  obtain ⟨rfl, rfl⟩ := of_new hnew
  have hc := GenerationBuilder.hasOwnRoles_of_buildBy hconfig
  have hok : ∀ report, (scaffolder.generateReport model s).1 = .ok report →
      ((scaffolder.runOutcomes model s).filterMap Outcome.fileName?).Nodup := by
    intro report h
    obtain ⟨collected, hmerges, -⟩ := exists_merges h
    exact hmerges.distinct
  refine ⟨fun fileName first second => ⟨fun h => ?_, fun h => ?_⟩, ⟨?_, fun h => ?_⟩, fun h => ?_,
    dbContextOutcome_of_disabled hc, fun entity _ => entityOutcome_of_disabled⟩
  · obtain ⟨_, _, _, he, hfirst⟩ := firstCollision_of_error hc hfast h
    cases he
    exact hfirst
  · cases hr : (scaffolder.generateReport model s).1 with
    | ok report => exact absurd (hok report hr) h.not_nodup
    | error e =>
      obtain ⟨_, _, _, rfl, hfirst⟩ := firstCollision_of_error hc hfast hr
      obtain ⟨rfl, rfl, rfl⟩ := h.unique hfirst
      rfl
  · rintro ⟨fileName, first, second, h⟩
    exact h.not_nodup
  · cases hr : (scaffolder.generateReport model s).1 with
    | ok report => exact absurd (hok report hr) h
    | error e =>
      obtain ⟨fileName, first, second, -, hfirst⟩ := firstCollision_of_error hc hfast hr
      exact ⟨fileName, first, second, hfirst⟩
  · cases hr : (scaffolder.generateReport model s).1 with
    | error e =>
      obtain ⟨fileName, first, second, -, hfirst⟩ := firstCollision_of_error hc hfast hr
      exact absurd h hfirst.not_nodup
    | ok report =>
      obtain ⟨collected, hmerges, rfl⟩ := exists_merges hr
      refine ⟨_, rfl, hmerges.files, hmerges.failures, ?_⟩
      change collected.dbContextFile = _
      rw [hmerges.dbContextFile, filter_isDbContext]
      cases hn : (scaffolder.dbContextOutcome (scaffolder.runScope model s) model).fileName? <;>
        simp [hn]

/-- Steps after which all entities go into files of one name. -/
def oneFileSteps : List (BuilderStep Unit) :=
  [.configure .entitiesOnly .csharp, .registerTransformers
    { TransformerSet.empty with entityFileName := some (TransformerSet.total fun _ => "All") }]

/-- The scaffolder after these steps with a template of one word. -/
def oneFileScaffolder : Scaffolder Unit :=
  let config : GenerationConfig Unit := GenerationConfig.start .entitiesOnly .csharp
  ⟨{ config with transformers :=
      { TransformerSet.empty with entityFileName := some (TransformerSet.total fun _ => "All") } },
    {}, { Renderer.new config.helpers config.blockHelpers with
      templates := Keyed.empty.insert "CSharpEntityType/Class.hbs" (.cons none (.text "class") .nil) }⟩

theorem generateReport_exact_oneFile :
    GenerationBuilder.buildBy oneFileSteps = .ok oneFileScaffolder.config ∧
    new oneFileScaffolder.config
      (fun path => if path = "CSharpEntityType/Class.hbs" then some "class" else none) {} =
        .ok oneFileScaffolder ∧
    FirstCollision (oneFileScaffolder.runOutcomes ⟨"Shop", [.new "A", .new "B"]⟩ ()) "All.cs" "A" "B" ∧
    (oneFileScaffolder.generateReport ⟨"Shop", [.new "A"]⟩ ()).1.map (·.model.files.entries) =
      .ok [("All.cs", "class")] := by
  have hconfig : GenerationBuilder.buildBy oneFileSteps = .ok oneFileScaffolder.config := rfl
  have hnew : new oneFileScaffolder.config
      (fun path => if path = "CSharpEntityType/Class.hbs" then some "class" else none) {} =
        .ok oneFileScaffolder := rfl
  refine ⟨hconfig, hnew, ?_, ?_⟩
  · exact ((generateReport_exact hconfig hnew rfl _ ()).1 "All.cs" "A" "B").1 rfl
  · obtain ⟨report, hreport, hfiles, -⟩ :=
      (generateReport_exact hconfig hnew rfl ⟨"Shop", [.new "A"]⟩ ()).2.2.1 (by decide)
    rw [hreport]
    exact congrArg Except.ok (List.perm_singleton.1 hfiles)

end Scaffolder

end EntityScaffold
