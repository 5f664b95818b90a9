import EntityScaffold.Proofs.Template.Agreement
import EntityScaffold.Proofs.Template.Fitting
import EntityScaffold.Proofs.Template.Heredity

/-! # Inclusions by written names

The name of what a template includes is written or computed. Where the inclusions of some templates are all
written with names of these same templates, rendering one of them includes none but these.
-/

namespace EntityScaffold

namespace Template

/-! ## Names that are written -/

section

variable (names : List String)

mutual

/-- The inclusions in an element are written with some of the names. -/
def Element.includesOnly : Element → Bool
  | .text _ | .expression _ => true
  | .block _ _ body inverse => body.includesOnly && inverse.includesOnly
  | .decorator _ own => own.includesOnly
  | .inclusion call _ own => call.callee.writtenName?.any names.contains && own.includesOnly

/-- The inclusions in all elements are written with some of the names. -/
def Body.includesOnly : Body → Bool
  | .nil => true
  | .cons _ element rest => element.includesOnly && rest.includesOnly

/-- The inclusions in a section, if there is one, are written with some of the names. -/
def Branch.includesOnly : Branch → Bool
  | .absent => true
  | .present body => body.includesOnly

end

/-- The inclusions in what is evaluated are written with some of the names. -/
def Task.includesOnly : Task → Bool
  | .callee _ | .operands _ | .parts _ => true
  | .tag _ _ _ own inverse => own.includesOnly names && inverse.includesOnly names
  | .section branch => branch.includesOnly names
  | .element e => e.includesOnly names
  | .body _ b => b.includesOnly names
  | .declarations b => b.includesOnly names

/-- So are those in the sections that a scope keeps. -/
structure Scope.IncludesOnly (scope : Scope) : Prop where
  inlined : ∀ entry ∈ scope.inlined, entry.2.includesOnly names = true
  sections : ∀ body ∈ scope.sections, body.includesOnly names = true

/-- So are those in the registered templates of the names. -/
def Environment.IncludesOnly (env : Environment) : Prop :=
  ∀ name ∈ names, ∀ body, env.templates.lookup name = some body → body.includesOnly names = true

end

variable {names : List String} {env : Environment}

/-! ## Parts -/

/-- A call that is written with some of the names calls one of them. -/
theorem Call.name_mem_of_prepare {call : Call} {prepared : Invocation} {scope after : Scope}
    (hcallee : call.callee.writtenName?.any names.contains = true)
    (hgiven : call.prepare env scope = (.ok prepared, after)) : prepared.name ∈ names := by
  obtain ⟨name, hwritten, hname⟩ := (Option.any_eq_true _ _).1 hcallee
  rw [Call.name_of_prepare hwritten hgiven]
  simpa using hname

namespace Evaluation

variable {within : Bool} {evaluation part : Evaluation}

/-- A part of a text has no other inclusions than the text. -/
theorem Starts.includesOnly (hstarts : evaluation.Starts env within part)
    (hown : part.limit = evaluation.limit) (honly : evaluation.task.includesOnly names = true) :
    part.task.includesOnly names = true := by
  cases hstarts with
  | computed | operand | operands | callee | arguments | named | parts | bareCallee | bareCall | bareValue
  | expression | decorator | inclusion => rfl
  | @«section» _ _ _ _ _ _ _ useInverse =>
    simp only [Task.includesOnly, Bool.and_eq_true] at honly
    cases useInverse with
    | true => exact honly.2
    | false => exact honly.1
  | anonymous | block => exact honly
  | declarations =>
    simp only [Task.includesOnly, Element.includesOnly, Bool.and_eq_true] at honly
    exact honly.2
  | included => exact absurd hown (Nat.ne_of_lt (Nat.lt_succ_self _))
  | declaration | first =>
    simp only [Task.includesOnly, Body.includesOnly, Bool.and_eq_true] at honly
    exact honly.1
  | declared | rest =>
    simp only [Task.includesOnly, Body.includesOnly, Bool.and_eq_true] at honly
    exact honly.2

/-- What is evaluated, and what the scope keeps, has no inclusions but of some names. -/
structure IncludesOnly (names : List String) (evaluation : Evaluation) : Prop where
  task : evaluation.task.includesOnly names = true
  scope : evaluation.scope.IncludesOnly names

/-- What an evaluation comes to has no other inclusions than what is evaluated and what it finds. -/
theorem isHereditary_includesOnly (henv : env.IncludesOnly names) :
    IsHereditary env (fun task => task.includesOnly names = true) fun body => body.includesOnly names = true where
  part := Starts.includesOnly
  sections honly := by
    simpa only [Task.includesOnly, Bool.and_eq_true] using honly
  title := id
  decorator := id
  inclusion honly := by
    simp only [Task.includesOnly, Element.includesOnly, Bool.and_eq_true] at honly
    exact honly.2
  rendered := id
  found honly hgiven hregistered := by
    simp only [Task.includesOnly, Element.includesOnly, Bool.and_eq_true] at honly
    exact henv _ (Call.name_mem_of_prepare honly.1 hgiven) _ hregistered

/-- An evaluation only looks for templates of the names that inclusions are written with. -/
theorem mem_of_consults (henv : env.IncludesOnly names) (honly : evaluation.IncludesOnly names)
    {name : String} {own : Branch} {scope : Scope} (hconsults : evaluation.Consults env (.find name own scope)) :
    name ∈ names := by
  generalize hquery : Query.find name own scope = query at hconsults
  induction hconsults with
  | here hasks =>
    cases hasks with
    | find hgiven =>
      cases hquery
      have htask := honly.task
      simp only [Task.includesOnly, Element.includesOnly, Bool.and_eq_true] at htask
      exact Call.name_mem_of_prepare htask.1 hgiven
    | knows => cases hquery
    | call => cases hquery
  | part hstarts _ ih =>
    have hinherited := (isHereditary_includesOnly henv).of_starts hstarts
      ⟨honly.task, honly.scope.inlined, honly.scope.sections⟩
    exact ih ⟨hinherited.task, hinherited.scope.inlined, hinherited.scope.sections⟩ hquery

end Evaluation

/-! ## Templates that fit -/

theorem Call.writtenName?_of_included? {call : Call} {name : String} (h : call.included? = some name) :
    call.callee.writtenName? = some name := by
  unfold Call.included? at h
  split at h
  · cases h
    rfl
  · cases h

section

variable {helpers : List String} {included : String → Shape → Bool}

mutual

/-- A template that fits names what it includes. -/
theorem Element.includesOnly_of_fits (h : ∀ name shape, included name shape = true → name ∈ names)
    (title : Option String) (shape : Shape) : (element : Element) →
      element.fits helpers included title shape = true → element.includesOnly names = true
  | .text _, _ | .expression _, _ => rfl
  | .block call .none body inverse, hfits => by
    rw [Element.fits] at hfits
    rw [Element.includesOnly, Bool.and_eq_true]
    split at hfits
    · rw [Bool.and_eq_true] at hfits
      exact ⟨Body.includesOnly_of_fits h none shape body hfits.1,
        Branch.includesOnly_of_fits h shape inverse hfits.2⟩
    · next item _ =>
      rw [Bool.and_eq_true, Bool.not_eq_true'] at hfits
      refine ⟨Body.includesOnly_of_fits h none item body hfits.1, ?_⟩
      cases inverse with
      | absent => rfl
      | present other => cases hfits.2
    · cases hfits
  | .inclusion call _ .absent, hfits => by
    rw [Element.fits] at hfits
    split at hfits
    · next name hwritten =>
      simp only [Bool.and_eq_true] at hfits
      rw [Element.includesOnly, Call.writtenName?_of_included? hwritten]
      simpa [Branch.includesOnly] using h name shape hfits.2
    · cases hfits
  | .block _ (.one _) _ _, hfits | .block _ (.two _ _) _ _, hfits | .inclusion _ _ (.present _), hfits
  | .decorator _ _, hfits => by cases hfits

theorem Body.includesOnly_of_fits (h : ∀ name shape, included name shape = true → name ∈ names)
    (title : Option String) (shape : Shape) : (body : Body) →
      body.fits helpers included title shape = true → body.includesOnly names = true
  | .nil, _ => rfl
  | .cons _ element rest, hfits => by
    rw [Body.fits, Bool.and_eq_true] at hfits
    rw [Body.includesOnly, Bool.and_eq_true]
    exact ⟨Element.includesOnly_of_fits h title shape element hfits.1,
      Body.includesOnly_of_fits h title shape rest hfits.2⟩

theorem Branch.includesOnly_of_fits (h : ∀ name shape, included name shape = true → name ∈ names)
    (shape : Shape) : (branch : Branch) → branch.fits helpers included shape = true →
      branch.includesOnly names = true
  | .absent, _ => rfl
  | .present body, hfits => by
    rw [Branch.fits] at hfits
    rw [Branch.includesOnly]
    exact Body.includesOnly_of_fits h none shape body hfits

end

end

end Template

namespace Renderer

open Template

/-- Where all inclusions in the templates of some names are written with these names, rendering one of them
includes none but these. -/
theorem mem_of_includes {renderer : Renderer} {names : List String} {name included : String} {data : Json}
    (honly : ∀ name ∈ names, ∀ body, renderer.templates.get? name = some body →
      body.includesOnly names = true)
    (hname : name ∈ names) (hincludes : renderer.Includes name data included) : included ∈ names := by
  obtain ⟨body, hbody, own, scope, found, hconsults, -⟩ := hincludes
  have henv : (renderer.environment data).IncludesOnly names := honly
  refine Evaluation.mem_of_consults henv ?_ hconsults
  refine ⟨honly name hname body hbody, fun entry he => ?_, fun kept hk => ?_⟩
  · cases he
  · cases hk

/-- A template that fits with others includes none but these. -/
theorem mem_of_includes_of_fits {renderer : Renderer} {helpers : List String}
    {templates : List (String × Body)} {depth : Nat} {name included : String} {shape : Shape} {data : Json}
    (hget : ∀ name ∈ templates.map Prod.fst, ∀ body, renderer.templates.get? name = some body →
      templates.lookup name = some body)
    (hfits : fitsNamed helpers templates depth name shape = true)
    (hincludes : renderer.Includes name data included) : included ∈ templates.map Prod.fst := by
  classical
  -- The names of templates that fit some shape are closed under inclusion.
  let Fits := fun name => ∃ depth shape, fitsNamed helpers templates depth name shape = true
  let names := (templates.map Prod.fst).filter fun name => decide (Fits name)
  have hmem : ∀ {depth : Nat} name shape, fitsNamed helpers templates depth name shape = true →
      name ∈ names := by
    intro depth name shape hfits
    refine List.mem_filter.2 ⟨?_, decide_eq_true ⟨depth, shape, hfits⟩⟩
    cases depth with
    | zero => cases hfits
    | succ depth =>
      obtain ⟨body, hbody, -⟩ := (Option.any_eq_true _ _).1 hfits
      obtain ⟨before, after, rfl, -⟩ := List.lookup_eq_some_iff.1 hbody
      simp
  have honly : ∀ name ∈ names, ∀ body, renderer.templates.get? name = some body →
      body.includesOnly names = true := by
    intro name hname body hbody
    obtain ⟨hname, hfits⟩ := List.mem_filter.1 hname
    obtain ⟨depth, shape, hfits⟩ := of_decide_eq_true hfits
    cases depth with
    | zero => cases hfits
    | succ depth =>
      rw [fitsNamed, hget name hname body hbody] at hfits
      exact Body.includesOnly_of_fits (fun name shape => hmem name shape) (some name) shape body hfits
  exact (List.mem_filter.1 (mem_of_includes honly (hmem name shape hfits) hincludes)).1

end Renderer

end EntityScaffold
