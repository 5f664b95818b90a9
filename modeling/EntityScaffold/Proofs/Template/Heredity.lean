import EntityScaffold.Proofs.Template.Operands
import EntityScaffold.Proofs.Template.Recovery
import Mathlib.Logic.Relation

/-! # What parts inherit

Whatever an evaluation comes to was written: in the text that is evaluated, in a registered template, or in a
section that the scope keeps for inclusions. So a property of texts that their parts have, too, holds wherever
an evaluation comes to, if it holds of the text, of the templates that are found and of the kept sections.
-/

namespace EntityScaffold.Template

/-- A property of what is evaluated that parts of the same text have, too, and so do the templates that are found
by a name. The sections that are kept have a property from which it follows. -/
structure IsHereditary (env : Environment) (holds : Task → Prop) (kept : Body → Prop) : Prop where
  part : ∀ {within : Bool} {evaluation part : Evaluation}, evaluation.Starts env within part →
    part.limit = evaluation.limit → holds evaluation.task → holds part.task
  sections : ∀ {call : Call} {binders : Binders} {isBlock : Bool} {body inverse : Branch},
    holds (.tag call binders isBlock body inverse) → holds (.section body) ∧ holds (.section inverse)
  title : ∀ {name : Option String} {body : Body}, holds (.body none body) → holds (.body name body)
  decorator : ∀ {call : Call} {body : Body}, holds (.element (.decorator call (.present body))) → kept body
  inclusion : ∀ {call : Call} {indent : Option String} {body : Body},
    holds (.element (.inclusion call indent (.present body))) → kept body
  rendered : ∀ {body : Body}, kept body → holds (.body none body)
  found : ∀ {call : Call} {indent : Option String} {own : Branch} {prepared : Invocation} {scope after : Scope}
    {body : Body}, holds (.element (.inclusion call indent own)) →
      call.prepare env scope = (.ok prepared, after) → env.templates.lookup prepared.name = some body →
        holds (.body none body)

variable {env : Environment} {holds : Task → Prop} {kept : Body → Prop} {limit : Nat}

/-! ## Scopes -/

/-- A property holds of the sections that a scope keeps. -/
structure Scope.Keeps (kept : Body → Prop) (scope : Scope) : Prop where
  inlined : ∀ entry ∈ scope.inlined, kept entry.2
  sections : ∀ body ∈ scope.sections, kept body

namespace Scope

variable {scope inner : Scope}

/-- The second scope keeps no other sections if the first one does not. -/
def StillKeeps (kept : Body → Prop) (first second : Scope) : Prop := first.Keeps kept → second.Keeps kept

theorem isFlow_stillKeeps : IsFlow (StillKeeps kept) where
  refl _ := id
  trans hfirst hsecond hkeeps := hsecond (hfirst hkeeps)
  current _ _ hkeeps := ⟨hkeeps.inlined, hkeeps.sections⟩

theorem stillKeeps_blocks (scope : Scope) (blocks : List Block) :
    StillKeeps kept scope { scope with blocks := blocks } := fun hkeeps => ⟨hkeeps.inlined, hkeeps.sections⟩

theorem stillKeeps_define {title : String} {body : Body} (hheld : kept body) :
    StillKeeps kept scope { scope with inlined := insertEntry title body scope.inlined } := by
  refine fun hkeeps => ⟨fun entry he => ?_, hkeeps.sections⟩
  rcases mem_insertEntry he with rfl | he
  · exact hheld
  · exact hkeeps.inlined entry he

theorem enterIncluded_eq_ok {data : Json} {arguments : List Found} {named : List (String × Found)}
    (h : enterIncluded data arguments named scope = .ok inner) :
    ∃ blocks, inner = { scope with blocks := blocks } := by
  have hmerged : ∀ (start : Scope) (current : Except Cause Found) (blocks : Found → List Block),
      (do return { start with blocks := blocks (← current) } : Except Cause Scope) = .ok inner →
        ∃ blocks, inner = { start with blocks := blocks } := by
    intro start current blocks hinner
    cases current with
    | error cause => cases hinner
    | ok found =>
      cases hinner
      exact ⟨_, rfl⟩
  cases hplace : arguments.head?.bind Found.path? with
  | none =>
    simp only [enterIncluded, hplace] at h
    split at h
    · cases h
      exact ⟨_, rfl⟩
    · exact hmerged scope _ _ h
  | some path =>
    simp only [enterIncluded, hplace] at h
    split at h
    · cases h
      exact ⟨_, rfl⟩
    · exact hmerged { scope with blocks := [.ofPath path] } _ _ h

/-- An included template finds the sections of the scope, and the own section of the inclusion. -/
theorem Keeps.included {name : String} {arguments : List Found} {named : List (String × Found)}
    {indent : Option String} {own : Branch} (hkeeps : scope.Keeps kept)
    (hheld : ∀ body, own = .present body → kept body)
    (h : includedScope env name arguments named indent own scope = .ok inner) : inner.Keeps kept := by
  unfold includedScope at h
  dsimp only at h
  cases hentered : enterIncluded env.data arguments named
      { scope with depth := if name = sectionName then scope.depth + 1 else scope.depth - 1 } with
  | error cause =>
    rw [hentered] at h
    cases h
  | ok entered =>
    rw [hentered] at h
    obtain ⟨blocks, rfl⟩ := enterIncluded_eq_ok hentered
    cases h
    cases own with
    | absent => exact ⟨hkeeps.inlined, hkeeps.sections⟩
    | present body =>
      refine ⟨hkeeps.inlined, fun other hmem => ?_⟩
      rcases List.mem_cons.1 hmem with rfl | hmem
      · exact hheld _ rfl
      · exact hkeeps.sections other hmem

/-- What an inclusion finds is kept, or it is the registered template of its name. -/
theorem Keeps.found {name : String} {own : Branch} {title : Option String} {body : Body}
    (hkeeps : scope.Keeps kept) (hown : ∀ body, own = .present body → kept body)
    (hfound : findIncluded env scope name own = some (title, body)) :
    title = none ∧ kept body ∨ title = some name ∧ env.templates.lookup name = some body := by
  have hstored : ∀ stored, (if name = sectionName then scope.sections[scope.depth]?
      else scope.inlined.lookup name) = some stored → kept stored := by
    intro stored h
    split at h
    · exact hkeeps.sections stored (List.mem_of_getElem? h)
    · obtain ⟨before, rest, hsplit, -⟩ := List.lookup_eq_some_iff.1 h
      exact hkeeps.inlined (name, stored) (by simp [hsplit])
  unfold findIncluded at hfound
  dsimp only at hfound
  split at hfound
  · next hscope =>
    cases hfound
    exact .inl ⟨rfl, hstored _ hscope⟩
  · next hregistered =>
    cases hfound
    exact .inr ⟨rfl, hregistered⟩
  · cases hfound
    exact .inl ⟨rfl, hown _ rfl⟩
  · cases hfound

end Scope

/-- A relation that does not look at the blocks leads to the scopes where a plan renders its sections, if the
sections keep it. -/
theorem CallPlan.Enters.related {R : Scope → Scope → Prop} (hflow : IsFlow R)
    (hblocks : ∀ scope blocks, R scope { scope with blocks := blocks }) {plan : CallPlan}
    {body inverse : Option (Render String)} {useInverse : Bool} {scope inner : Scope}
    (hsections : ∀ (useInverse : Bool) (inner : Scope),
      (Invocation.textOf (if useInverse then inverse else body)).Moves R inner)
    (henters : plan.Enters body inverse scope useInverse inner) : R scope inner := by
  induction henters with
  | enter _ ih => exact hflow.trans (hblocks _ _) ih
  | move _ ih =>
    refine hflow.trans ?_ ih
    unfold Scope.updateBlock
    split
    · exact hflow.refl _
    · exact hblocks _ _
  | leave _ ih => exact hflow.trans (hblocks _ _) ih
  | here => exact hflow.refl _
  | later _ ih => exact hflow.trans (hsections _ _) ih

/-! ## Evaluations -/

namespace Evaluation

variable {evaluation part : Evaluation}

theorem Starts.limit_eq (hstarts : evaluation.Starts env false part) : part.limit = evaluation.limit := by
  cases hstarts with
  | included hwithin => cases hwithin
  | _ => rfl

/-- An evaluation is, or comes to, a part. -/
def ComesTo (env : Environment) : Evaluation → Evaluation → Prop := Relation.ReflTransGen (Starts env true)

/-- A property holds of what is evaluated, and the other one of the sections that the scope keeps. -/
structure Holds (holds : Task → Prop) (kept : Body → Prop) (evaluation : Evaluation) : Prop where
  task : holds evaluation.task
  scope : evaluation.scope.Keeps kept

end Evaluation

namespace IsHereditary

variable {evaluation part : Evaluation} {scope after : Scope}

/-- What an inclusion finds has the property of what is evaluated. -/
theorem of_findIncluded (hheredity : IsHereditary env holds kept) (hkeeps : after.Keeps kept) {call : Call}
    {indent : Option String} {own : Branch} {prepared : Invocation} {middle : Scope} {title : Option String}
    {body : Body} (hheld : holds (.element (.inclusion call indent own)))
    (hgiven : call.prepare env scope = (.ok prepared, middle))
    (hfound : findIncluded env after prepared.name own = some (title, body)) : holds (.body title body) := by
  have hown : ∀ body, own = .present body → kept body := by
    rintro body rfl
    exact hheredity.inclusion hheld
  rcases hkeeps.found hown hfound with ⟨rfl, hbody⟩ | ⟨rfl, hregistered⟩
  · exact hheredity.rendered hbody
  · exact hheredity.title (hheredity.found hheld hgiven hregistered)

theorem of_reaches_define (hheredity : IsHereditary env holds kept) {title : String} {body : Body}
    (hreaches : evaluation.Reaches env false (.define title body scope)) (hheld : holds evaluation.task) :
    kept body := by
  generalize hstep : Step.define title body scope = step at hreaches
  induction hreaches with
  | here hperforms =>
    cases hperforms with
    | define =>
      cases hstep
      exact hheredity.decorator hheld
    | call => cases hstep
    | bare => cases hstep
  | part hstarts _ ih => exact ih (hheredity.part hstarts hstarts.limit_eq hheld) hstep

/-- The sections that a text names have the property of the text. -/
theorem stillKeeps (hheredity : IsHereditary env holds kept) (evaluation : Evaluation) (hheld : holds evaluation.task) :
    evaluation.Moves env (Scope.StillKeeps kept) := by
  refine evaluation.moves Scope.isFlow_stillKeeps fun step hreaches => ?_
  cases step with
  | call invocation scope =>
    intro hsections
    rw [Invocation.run_plan]
    exact CallPlan.moves_run Scope.isFlow_stillKeeps Scope.stillKeeps_blocks hsections
  | bare name found => trivial
  | define title body scope => exact Scope.stillKeeps_define (hheredity.of_reaches_define hreaches hheld)

/-- What comes after an evaluation finds the sections of its scope, and those that it names. -/
theorem keeps_after (hheredity : IsHereditary env holds kept) (evaluation : Evaluation)
    (hheld : evaluation.Holds holds kept) {value : evaluation.task.Value}
    (hran : evaluation.task.run env evaluation.limit evaluation.scope = (.ok value, after)) :
    after.Keeps kept := by
  have hmoves : evaluation.Moves env (Scope.StillKeeps kept) := hheredity.stillKeeps evaluation hheld.task
  have hkeeps := hmoves hheld.scope
  rwa [hran] at hkeeps

theorem keeps_enters (hheredity : IsHereditary env holds kept) {call : Call} {prepared : Invocation}
    {binders : Binders} {isBlock useInverse : Bool} {body inverse : Branch} {inner : Scope}
    (hheld : holds (.tag call binders isBlock body inverse)) (hkeeps : scope.Keeps kept)
    (henters : (prepared.ofTag env limit binders isBlock body inverse).Enters env scope useInverse inner) :
    inner.Keeps kept := by
  refine henters.related Scope.isFlow_stillKeeps Scope.stillKeeps_blocks (fun useInverse inner => ?_) hkeeps
  cases useInverse with
  | true => exact hheredity.stillKeeps ⟨limit, .section inverse, inner⟩ (hheredity.sections hheld).2
  | false => exact hheredity.stillKeeps ⟨limit, .section body, inner⟩ (hheredity.sections hheld).1

theorem keeps_declare (hheredity : IsHereditary env holds kept) {element : Element} (hkeeps : scope.Keeps kept)
    (hheld : ∀ call own, element = .decorator call own → holds (.element element))
    (hdeclared : element.declare env scope = (.ok (), after)) : after.Keeps kept := by
  cases element with
  | decorator call own =>
    have hran : Task.run env 0 (.element (.decorator call own)) scope = (.ok "", after) := by
      rw [Task.run_decorator]
      exact Render.bind_ok hdeclared
    exact hheredity.keeps_after ⟨0, .element (.decorator call own), scope⟩ ⟨hheld call own rfl, hkeeps⟩ hran
  | _ =>
    cases hdeclared
    exact hkeeps

theorem keeps_declarations (hheredity : IsHereditary env holds kept) {own : Branch} (hkeeps : scope.Keeps kept)
    (hheld : ∀ body, own = .present body → holds (.declarations body))
    (hdeclared : own.declare env scope = (.ok (), after)) : after.Keeps kept := by
  cases own with
  | absent =>
    cases hdeclared
    exact hkeeps
  | present body => exact hheredity.keeps_after ⟨0, .declarations body, scope⟩ ⟨hheld body rfl, hkeeps⟩ hdeclared

/-- When an inclusion looks for its template, the scope keeps what it kept before and what the own section names. -/
theorem keeps_declared (hheredity : IsHereditary env holds kept) {call : Call} {indent : Option String} {own : Branch}
    {prepared : Invocation} {later : Scope} (hheld : holds (.element (.inclusion call indent own)))
    (hkeeps : scope.Keeps kept) (hgiven : call.prepare env scope = (.ok prepared, after))
    (hdeclared : own.declare env after = (.ok (), later)) : later.Keeps kept := by
  cases (Call.leavesScope_prepare env _).eq hgiven
  refine hheredity.keeps_declarations hkeeps ?_ hdeclared
  rintro body rfl
  exact hheredity.part (.declarations hgiven : Evaluation.Starts env true
    ⟨0, .element (.inclusion call indent (.present body)), scope⟩ _) rfl hheld

/-- What an evaluation comes to has the property of what is evaluated. -/
theorem of_starts (hheredity : IsHereditary env holds kept) (hstarts : evaluation.Starts env true part)
    (hheld : evaluation.Holds holds kept) : part.Holds holds kept := by
  obtain ⟨htask, hscope⟩ := hheld
  have hpart : part.limit = evaluation.limit → holds part.task := fun hown => hheredity.part hstarts hown htask
  cases hstarts with
  | computed | operand | callee | parts | bareCallee | expression | block | decorator | inclusion
  | declaration | first => exact ⟨hpart rfl, hscope⟩
  | operands hevaluated =>
    cases (Operand.leavesScope_eval env _).eq hevaluated
    exact ⟨hpart rfl, hscope⟩
  | arguments hnamed | bareCall _ hnamed _ | bareValue _ hnamed _ =>
    cases (Callee.leavesScope_name env _).eq hnamed
    exact ⟨hpart rfl, hscope⟩
  | named hnamed hevaluated =>
    cases (Callee.leavesScope_name env _).eq hnamed
    cases (leavesScope_evalArguments env _).eq hevaluated
    exact ⟨hpart rfl, hscope⟩
  | «section» hgiven henters =>
    cases (Call.leavesScope_prepare env _).eq hgiven
    exact ⟨hpart rfl, hheredity.keeps_enters htask hscope henters⟩
  | anonymous => exact ⟨hpart rfl, hscope.inlined, hscope.sections⟩
  | declarations hgiven =>
    cases (Call.leavesScope_prepare env _).eq hgiven
    exact ⟨hpart rfl, hscope⟩
  | @included limit call indent own prepared title body scope after later inner _ hgiven hdeclared _ hfound
      hentered =>
    have hlater := hheredity.keeps_declared htask hscope hgiven hdeclared
    have hinner : inner.Keeps kept := by
      refine hlater.included (fun body hsame => ?_) hentered
      subst hsame
      exact hheredity.inclusion htask
    exact ⟨hheredity.of_findIncluded hlater htask hgiven hfound, hinner.inlined, hinner.sections⟩
  | @declared limit position element rest scope after hdone =>
    refine ⟨hpart rfl, hheredity.keeps_declare hscope (fun call own hsame => ?_) hdone⟩
    subst hsame
    exact hheredity.part (.declaration : Evaluation.Starts env true
      ⟨limit, .declarations (.cons position (.decorator call own) rest), scope⟩ _) rfl htask
  | @rest limit name position element rest text scope after hrendered =>
    have helement : holds (.element element) := hheredity.part (.first : Evaluation.Starts env true
      ⟨limit, .body name (.cons position element rest), scope⟩ _) rfl htask
    exact ⟨hpart rfl, hheredity.keeps_after ⟨limit, .element element, scope⟩ ⟨helement, hscope⟩ hrendered⟩

theorem of_comesTo (hheredity : IsHereditary env holds kept) (hcomes : evaluation.ComesTo env part)
    (hheld : evaluation.Holds holds kept) : part.Holds holds kept := by
  induction hcomes with
  | refl => exact hheld
  | tail _ hstarts ih => exact hheredity.of_starts hstarts ih

end IsHereditary

end EntityScaffold.Template
