import EntityScaffold.Proofs.Template.Inclusions

/-! # Evaluations that come to an end

An evaluation that would nest inclusions deeper than it may is cut off, and what it gives then means nothing. One
that never gets there comes to an end, and gives the same wherever inclusions may be nested deeper. So do templates
in layers, each of which includes only templates of the layer below. Templates each of which begins by including
another one of them are cut off however deep inclusions may be nested.
-/

namespace EntityScaffold

namespace Template

namespace Evaluation

variable {env : Environment} {evaluation : Evaluation}

/-- An evaluation comes to an end: nothing that it comes to is cut off. -/
def Ends (env : Environment) (evaluation : Evaluation) : Prop :=
  ∀ part, evaluation.ComesTo env part → ¬ part.IsCutOff env

theorem Ends.of_starts (h : evaluation.Ends env) {part : Evaluation} (hstarts : evaluation.Starts env true part) :
    part.Ends env :=
  fun last hcomes => h last (.head hstarts hcomes)

theorem ends_of_parts (hhere : ¬ evaluation.IsCutOff env)
    (hparts : ∀ part, evaluation.Starts env true part → part.Ends env) : evaluation.Ends env := by
  intro last hcomes
  rcases Relation.ReflTransGen.cases_head hcomes with rfl | ⟨part, hstarts, hcomes⟩
  · exact hhere
  · exact hparts part hstarts last hcomes

theorem Ends.sameIn (h : evaluation.Ends env) (deeper : Nat) : evaluation.SameIn env env deeper := by
  induction evaluation using Evaluation.induction env true with
  | step evaluation ih =>
    refine sameIn_of_parts rfl (fun part hstarts => ih part hstarts (h.of_starts hstarts)) (fun query _ => ?_)
      fun hcut => absurd hcut (h evaluation .refl)
    cases query <;> rfl

/-- What comes to an end gives the same wherever inclusions may be nested deeper. -/
theorem Ends.run_eq (h : evaluation.Ends env) (deeper : Nat) :
    evaluation.task.run env (evaluation.limit + deeper) evaluation.scope =
      evaluation.task.run env evaluation.limit evaluation.scope :=
  (h.sameIn deeper).run_eq.symm

end Evaluation

/-! ## Templates in layers -/

section

variable (below : List String)

mutual

/-- The inclusions in an element are written with names of the layer below. The sections that it gives a name or
hands on include nothing. -/
def Element.isLayered : Element → Bool
  | .text _ | .expression _ => true
  | .block _ _ body inverse => body.isLayered && inverse.isLayered
  | .decorator _ own => own.includesOnly []
  | .inclusion call _ own => call.callee.writtenName?.any below.contains && own.includesOnly []

/-- All elements are of their layer. -/
def Body.isLayered : Body → Bool
  | .nil => true
  | .cons _ element rest => element.isLayered && rest.isLayered

/-- A section, if there is one, is of its layer. -/
def Branch.isLayered : Branch → Bool
  | .absent => true
  | .present body => body.isLayered

end

/-- What is evaluated is of its layer. -/
def Task.isLayered : Task → Bool
  | .callee _ | .operands _ | .parts _ => true
  | .tag _ _ _ own inverse => own.isLayered below && inverse.isLayered below
  | .section branch => branch.isLayered below
  | .element e => e.isLayered below
  | .body _ b => b.isLayered below
  | .declarations b => b.includesOnly []

end

/-- The registered templates of a layer include only those of the layer below, the ones of the lowest layer none. -/
structure Environment.Layered (env : Environment) (layer : Nat → List String) : Prop where
  bottom : layer 0 = []
  below : ∀ depth, ∀ name ∈ layer (depth + 1), ∀ body, env.templates.lookup name = some body →
    body.isLayered (layer depth) = true

variable {env : Environment} {below : List String} {layer : Nat → List String}

mutual

/-- What includes nothing is of every layer. -/
theorem Element.isLayered_of_includesOnly : (element : Element) → element.includesOnly [] = true →
    element.isLayered below = true
  | .text _, _ | .expression _, _ => rfl
  | .block _ _ body inverse, h => by
    simp only [Element.includesOnly, Bool.and_eq_true] at h
    rw [Element.isLayered, Bool.and_eq_true]
    exact ⟨body.isLayered_of_includesOnly h.1, inverse.isLayered_of_includesOnly h.2⟩
  | .decorator _ _, h => h
  | .inclusion call _ _, h => by
    cases hname : call.callee.writtenName? <;> simp [Element.includesOnly, hname] at h

theorem Body.isLayered_of_includesOnly : (body : Body) → body.includesOnly [] = true →
    body.isLayered below = true
  | .nil, _ => rfl
  | .cons _ element rest, h => by
    simp only [Body.includesOnly, Bool.and_eq_true] at h
    rw [Body.isLayered, Bool.and_eq_true]
    exact ⟨element.isLayered_of_includesOnly h.1, rest.isLayered_of_includesOnly h.2⟩

theorem Branch.isLayered_of_includesOnly : (branch : Branch) → branch.includesOnly [] = true →
    branch.isLayered below = true
  | .absent, _ => rfl
  | .present body, h => body.isLayered_of_includesOnly h

end

namespace Evaluation

variable {evaluation part : Evaluation} {within : Bool}

/-- A part of a text is of the layer of the text. -/
theorem Starts.isLayered (hstarts : evaluation.Starts env within part) (hlimit : part.limit = evaluation.limit)
    (h : evaluation.task.isLayered below = true) : part.task.isLayered below = true := by
  cases hstarts with
  | computed | operand | operands | callee | arguments | named | parts | bareCallee | bareCall | bareValue
  | expression | decorator | inclusion => rfl
  | @«section» _ _ _ _ _ _ _ useInverse =>
    simp only [Task.isLayered, Bool.and_eq_true] at h
    cases useInverse with
    | true => exact h.2
    | false => exact h.1
  | anonymous | block => exact h
  | declarations =>
    simp only [Task.isLayered, Element.isLayered, Bool.and_eq_true] at h
    exact h.2
  | included => exact absurd hlimit (Nat.ne_of_lt (Nat.lt_succ_self _))
  | declaration =>
    simp only [Task.isLayered, Body.includesOnly, Bool.and_eq_true] at h
    exact h.1
  | first =>
    simp only [Task.isLayered, Body.isLayered, Bool.and_eq_true] at h
    exact h.1
  | declared =>
    simp only [Task.isLayered, Body.includesOnly, Bool.and_eq_true] at h
    exact h.2
  | rest =>
    simp only [Task.isLayered, Body.isLayered, Bool.and_eq_true] at h
    exact h.2

/-- What an evaluation comes to is of some layer if it is, and keeps only sections that include nothing. -/
theorem isHereditary_isLayered (henv : env.Layered layer) :
    IsHereditary env (fun task => ∃ depth, task.isLayered (layer depth) = true)
      fun body => body.includesOnly [] = true where
  part hstarts hlimit := fun ⟨depth, h⟩ => ⟨depth, hstarts.isLayered hlimit h⟩
  sections := fun ⟨depth, h⟩ => by
    simp only [Task.isLayered, Bool.and_eq_true] at h
    exact ⟨⟨depth, h.1⟩, depth, h.2⟩
  title := id
  decorator := fun ⟨_, h⟩ => h
  inclusion := fun ⟨_, h⟩ => by
    simp only [Task.isLayered, Element.isLayered, Bool.and_eq_true] at h
    exact h.2
  rendered h := ⟨0, Body.isLayered_of_includesOnly _ h⟩
  found := fun ⟨depth, h⟩ hgiven hregistered => by
    simp only [Task.isLayered, Element.isLayered, Bool.and_eq_true] at h
    have hname := Call.name_mem_of_prepare h.1 hgiven
    cases depth with
    | zero => simp [henv.bottom] at hname
    | succ depth => exact ⟨depth, henv.below depth _ hname _ hregistered⟩

/-- Inclusions may be nested as deep as there are layers, and the scope keeps only sections that include nothing. -/
structure IsLayered (layer : Nat → List String) (evaluation : Evaluation) : Prop where
  task : ∃ depth ≤ evaluation.limit, evaluation.task.isLayered (layer depth) = true
  scope : evaluation.scope.Keeps fun body => body.includesOnly [] = true

theorem IsLayered.of_starts (henv : env.Layered layer) (h : evaluation.IsLayered layer)
    (hstarts : evaluation.Starts env true part) : part.IsLayered layer := by
  obtain ⟨⟨depth, hdepth, htask⟩, hscope⟩ := h
  have hheredity := isHereditary_isLayered henv
  refine ⟨?_, (hheredity.of_starts hstarts ⟨⟨depth, htask⟩, hscope⟩).scope⟩
  by_cases hlimit : part.limit = evaluation.limit
  · exact ⟨depth, hlimit ▸ hdepth, hstarts.isLayered hlimit htask⟩
  · cases hstarts with
    | @included limit call indent own prepared title body scope after later inner _ hgiven hdeclared _ hfound =>
      have hlater := hheredity.keeps_declared ⟨depth, htask⟩ hscope hgiven hdeclared
      simp only [Task.isLayered, Element.isLayered, Bool.and_eq_true] at htask
      have hname := Call.name_mem_of_prepare htask.1 hgiven
      have hown : ∀ body, own = .present body → body.includesOnly [] = true := by
        rintro body rfl
        exact htask.2
      cases depth with
      | zero => simp [henv.bottom] at hname
      | succ depth =>
        refine ⟨depth, Nat.le_of_succ_le_succ hdepth, ?_⟩
        rcases hlater.found hown hfound with ⟨-, hbody⟩ | ⟨-, hregistered⟩
        · exact body.isLayered_of_includesOnly hbody
        · exact henv.below depth _ hname _ hregistered
    | _ => exact absurd rfl hlimit

theorem IsLayered.not_isCutOff (henv : env.Layered layer) (h : evaluation.IsLayered layer) :
    ¬ evaluation.IsCutOff env := by
  obtain ⟨⟨depth, hdepth, htask⟩, -⟩ := h
  rintro ⟨hgiven, -⟩
  cases Nat.le_zero.1 hdepth
  simp only [Task.isLayered, Element.isLayered, Bool.and_eq_true] at htask
  have hname := Call.name_mem_of_prepare htask.1 hgiven
  simp [henv.bottom] at hname

/-- Templates in layers come to an end. -/
theorem IsLayered.ends (henv : env.Layered layer) (h : evaluation.IsLayered layer) : evaluation.Ends env := by
  induction evaluation using Evaluation.induction env true with
  | step evaluation ih =>
    exact ends_of_parts (h.not_isCutOff henv) fun part hstarts => ih part hstarts (h.of_starts henv hstarts)

end Evaluation

/-! ## Templates that go round in circles -/

/-- A text begins by including the template of a name. -/
def Body.IncludesFirst (body : Body) (name : String) : Prop :=
  ∃ position indent rest, body = .cons position (.inclusion (.mk (.word name) [] []) indent .absent) rest

namespace Evaluation

theorem includedScope_plain {name : String} (hname : name ≠ sectionName) (indent : Option String) (scope : Scope) :
    includedScope env name [] [] indent .absent scope =
      .ok { scope with depth := scope.depth - 1, indent := indent } := by
  rw [includedScope, if_neg hname]
  rfl

theorem findIncluded_registered {name : String} {body : Body} {scope : Scope} (hname : name ≠ sectionName)
    (hinlined : scope.inlined = []) (hbody : env.templates.lookup name = some body) :
    findIncluded env scope name .absent = some (some name, body) := by
  simp only [findIncluded, if_neg hname, hinlined, hbody, List.lookup_nil]

/-- Templates each of which begins by including another one of them come to no end, however deep inclusions may be
nested. -/
theorem not_ends_of_includesFirst {names : List String} (hsection : sectionName ∉ names)
    (hnames : ∀ name ∈ names, ∃ body, env.templates.lookup name = some body ∧
      ∃ next ∈ names, next ≠ name ∧ body.IncludesFirst next)
    (limit : Nat) {name : String} {body : Body} {scope : Scope} (hname : name ∈ names)
    (hbody : env.templates.lookup name = some body) (hcurrent : scope.current = some name)
    (hinlined : scope.inlined = []) : ¬ Ends env ⟨limit, .body (some name) body, scope⟩ := by
  intro hends
  induction limit using Nat.strongRecOn generalizing name body scope with
  | ind limit ih =>
    obtain ⟨_, hsame, next, hnext, hne, position, indent, rest, rfl⟩ := hnames name hname
    cases hbody.symm.trans hsame
    obtain ⟨other, hother, -⟩ := hnames next hnext
    have hfree : next ≠ sectionName := fun h => hsection (h ▸ hnext)
    have hcurrent : scope.current ≠ some next := fun h => hne (Option.some.inj (h.symm.trans hcurrent))
    have hfound := findIncluded_registered hfree hinlined hother
    have hinner : includedScope env next [] [] indent .absent scope = _ := includedScope_plain hfree indent scope
    have helement := hends.of_starts .first
    cases limit with
    | zero => exact helement _ .refl (.intro rfl rfl hcurrent hfound hinner)
    | succ limit =>
      refine ih limit (Nat.lt_succ_self _) hnext hother rfl ?_
        (helement.of_starts (.included rfl rfl rfl hcurrent hfound hinner))
      exact hinlined

end Evaluation

end Template

/-! ## Renderings -/

namespace Renderer

open Template

variable {renderer : Renderer} {name : String} {data : Json}

/-- Rendering the template of a name for the data comes to an end. -/
def Ends (renderer : Renderer) (name : String) (data : Json) : Prop :=
  ∀ body, renderer.templates.get? name = some body → Evaluation.Ends (renderer.environment data)
    ⟨inclusionLimit - 1, .body (some name) body, { Scope.start with current := some name }⟩

/-- A rendering that comes to an end does not depend on how deep inclusions may be nested. -/
theorem Ends.expand_eq (h : renderer.Ends name data) {body : Body} (hbody : renderer.templates.get? name = some body)
    (deeper : Nat) : (expand (renderer.environment data) (inclusionLimit + deeper) (some name) body .start).1 =
      body.renderAlone (renderer.environment data) (some name) := by
  have hrun := congrArg Prod.fst ((h body hbody).run_eq deeper)
  have hlimit : inclusionLimit + deeper = inclusionLimit - 1 + deeper + 1 := by
    simp only [inclusionLimit, UInt64.size]
    omega
  rw [renderAlone_eq, hlimit]
  exact hrun

/-- The templates of a renderer include only those of some layer, these only those of the layer below, and so on to
the lowest, which include none. -/
structure IsLayered (renderer : Renderer) (layer : Nat → List String) (depth : Nat) : Prop where
  layered : ∀ data, (renderer.environment data).Layered layer
  depth_lt : depth < inclusionLimit
  body : ∀ name body, renderer.templates.get? name = some body → body.isLayered (layer depth) = true

/-- Rendering templates in layers comes to an end. -/
theorem IsLayered.ends {layer : Nat → List String} {depth : Nat} (h : renderer.IsLayered layer depth)
    (name : String) (data : Json) : renderer.Ends name data := by
  intro body hget
  refine Evaluation.IsLayered.ends (h.layered data)
    ⟨⟨depth, Nat.le_sub_one_of_lt h.depth_lt, h.body name body hget⟩, ?_⟩
  exact ⟨fun entry hentry => (List.not_mem_nil hentry).elim, fun kept hkept => (List.not_mem_nil hkept).elim⟩

end Renderer

end EntityScaffold
