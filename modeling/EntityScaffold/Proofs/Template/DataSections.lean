import EntityScaffold.Proofs.Template.OwnData

/-! # Sections rendered with data

A block helper may have its section rendered with data of its own. If the paths of the section stay inside, this is
what the text of the section gives as a template of its own for the data: the data takes the place of the whole data,
and nothing around the section matters but the indent of its lines.
-/

namespace EntityScaffold.Template

open Render (Alike)

/-! ## Texts that name no section -/

mutual

/-- Nothing in an element gives a section a name. -/
def Element.namesNothing : Element → Bool
  | .text _ | .expression _ => true
  | .block _ _ body inverse => body.namesNothing && inverse.namesNothing
  | .decorator _ _ => false
  | .inclusion _ _ own => own.namesNothing

/-- Nothing in a text gives a section a name. -/
def Body.namesNothing : Body → Bool
  | .nil => true
  | .cons _ element rest => element.namesNothing && rest.namesNothing

/-- Nothing in a section, if there is one, gives a section a name. -/
def Branch.namesNothing : Branch → Bool
  | .absent => true
  | .present body => body.namesNothing

end

/-- Nothing in what is evaluated gives a section a name. -/
def Task.namesNothing : Task → Bool
  | .callee _ | .operands _ | .parts _ => true
  | .tag _ _ _ b inverse => b.namesNothing && inverse.namesNothing
  | .section branch => branch.namesNothing
  | .element e => e.namesNothing
  | .body _ b | .declarations b => b.namesNothing

namespace Evaluation

variable {env : Environment} {evaluation part : Evaluation}

theorem Starts.namesNothing (hstarts : evaluation.Starts env false part)
    (hnothing : evaluation.task.namesNothing = true) : part.task.namesNothing = true := by
  cases hstarts with
  | computed | operand | operands | callee | arguments | named | parts | bareCallee | bareCall | bareValue
  | expression | decorator | inclusion => rfl
  | @«section» _ _ _ _ _ _ _ useInverse =>
    simp only [Task.namesNothing, Bool.and_eq_true] at hnothing
    cases useInverse with
    | true => exact hnothing.2
    | false => exact hnothing.1
  | anonymous | block | declarations => exact hnothing
  | included hwithin => cases hwithin
  | declaration | first =>
    simp only [Task.namesNothing, Body.namesNothing, Bool.and_eq_true] at hnothing
    exact hnothing.1
  | declared | rest =>
    simp only [Task.namesNothing, Body.namesNothing, Bool.and_eq_true] at hnothing
    exact hnothing.2

theorem Reaches.not_defines_of_namesNothing {step : Step} (hreaches : evaluation.Reaches env false step)
    (hnothing : evaluation.task.namesNothing = true) : ¬ step.Defines := by
  induction hreaches with
  | here hperforms =>
    cases hperforms with
    | call => exact id
    | bare => exact id
    | define => cases hnothing
  | part hstarts _ ih => exact ih (hstarts.namesNothing hnothing)

/-- No evaluation changes the indent. -/
theorem sameIndent (evaluation : Evaluation) :
    evaluation.Moves env fun first second => second.indent = first.indent := by
  have hflow : IsFlow fun first second => second.indent = first.indent :=
    ⟨fun _ => rfl, fun hfirst hsecond => hsecond.trans hfirst, fun _ _ => rfl⟩
  refine evaluation.moves hflow fun step _ => ?_
  cases step with
  | call invocation scope =>
    intro hsections
    rw [Invocation.run_plan]
    exact CallPlan.moves_run hflow (fun _ _ => rfl) hsections
  | bare name found => trivial
  | define title body scope => rfl

end Evaluation

/-! ## Sections of block helpers -/

/-- What a text gives as a template of its own, with an indent for its lines. -/
def Body.renderIndented (env : Environment) (indent : Option String) (body : Body) : Except Failure String :=
  ((expand env inclusionLimit none body).run { Scope.start with indent := indent }).1

/-- The names that blocks of a scope bind. -/
def Scope.boundNames (scope : Scope) : List String := scope.blocks.flatMap fun block => block.bound.map Prod.fst

theorem Scope.bound?_eq_none_of_notMem {name : String} {blocks : List Block}
    (hfree : name ∉ blocks.flatMap fun block => block.bound.map Prod.fst) : bound? name blocks = none := by
  induction blocks with
  | nil => rfl
  | cons block rest ih =>
    rw [List.flatMap_cons, List.mem_append, not_or] at hfree
    rw [bound?, lookup_eq_none_of_notMem hfree.1]
    exact ih hfree.2

/-- The evaluation of a text as a template of its own, with an indent for its lines. -/
def Evaluation.alone (indent : Option String) (body : Body) : Evaluation :=
  ⟨inclusionLimit - 1, .body none body, { Scope.start with indent := indent }⟩

/-- The evaluation of the text of a section that is rendered with data. -/
def Evaluation.inSection (limit : Nat) (body : Body) (data : Json) (scope : Scope) : Evaluation :=
  ⟨limit, .body none body, { scope.push (.ofValue data) with current := none }⟩

/-- What comes after a text goes on in the same blocks as before it. Only the name of the template is forgotten, and
the sections that the text names are known. -/
structure Scope.GoesOn (body : Body) (first second : Scope) : Prop where
  blocks : first.SameBlocks second
  indent : second.indent = first.indent
  unnamed : body.namesNothing = true → { second with current := none } = { first with current := none }

section

variable {env : Environment} {limit : Nat} {body : Body} {data : Json} {scope : Scope}

theorem renderIndented_eq (env : Environment) (indent : Option String) (body : Body) :
    body.renderIndented env indent =
      ((Evaluation.alone indent body).task.run env (Evaluation.alone indent body).limit
        (Evaluation.alone indent body).scope).1 := by
  change ((expand env (inclusionLimit - 1 + 1) none body) _).1 = _
  rfl

theorem renderSection_present (env : Environment) (limit : Nat) (body : Body) (data : Json) (scope : Scope) :
    Invocation.renderSection ((Branch.present body).render env (expand env limit)) (some data) scope =
      (.ok (Task.run env limit (.body none body) (Evaluation.inSection limit body data scope).scope).1,
        ((Evaluation.inSection limit body data scope).after env).pop) := by
  have hentered : Invocation.textOf ((Branch.present body).render env (expand env limit)) (scope.enter (some data)) =
      Task.run env limit (.body none body) (Evaluation.inSection limit body data scope).scope := by
    rw [Branch.render]
    rfl
  rw [renderSection_eq, Evaluation.sectionResult, hentered]
  exact congrArg (fun after : Scope => (Except.ok _, after.pop)) (congrArg Prod.snd hentered)

/-- A text that is rendered with data in a section does the same as on its own. -/
theorem alike_alone (limit : Nat) (hinside : body.staysInside env.knows scope.boundNames = true)
    (haddressable : data.IsAddressable) (hown : (Evaluation.alone scope.indent body).IsOwn env data) :
    Alike Eq (Scope.Rebased data scope.blocks)
      ((Evaluation.alone scope.indent body).task.run (env.withData data) (Evaluation.alone scope.indent body).limit
        (Evaluation.alone scope.indent body).scope)
      (Task.run env limit (.body none body) (Evaluation.inSection limit body data scope).scope) := by
  have hcovers : (Evaluation.alone scope.indent body).scope.Covers scope.blocks scope.boundNames :=
    ⟨List.cons_ne_nil _ _, fun name hfree _ => Scope.bound?_eq_none_of_notMem hfree⟩
  have hrelated : (Evaluation.alone scope.indent body).scope.Rebased data scope.blocks
      (Evaluation.inSection limit body data scope).scope :=
    ⟨rfl, [.ofValue data], rfl, .cons ⟨⟨data, rfl, .inr ⟨rfl, rfl⟩⟩, .nil⟩ .nil⟩
  exact Evaluation.carriesOver haddressable _ hown scope.boundNames scope.blocks limit _ hinside hcovers hrelated

/-- What comes after a section goes on as before it if the section leaves no more blocks than it finds. -/
theorem goesOn_of_length_le
    (hshort : ((Evaluation.inSection limit body data scope).after env).blocks.length ≤ scope.blocks.length + 1) :
    scope.GoesOn body ((Evaluation.inSection limit body data scope).after env).pop := by
  have hkept : (scope.enter (some data)).KeepsBlocks ((Evaluation.inSection limit body data scope).after env) :=
    (Evaluation.inSection limit body data scope).keepsBlocks
  have hsame : scope.SameBlocks (((Evaluation.inSection limit body data scope).after env).leave (some data)) :=
    (Scope.sameBlocks_leave (some data) hkept).2 (hkept.same hshort)
  refine ⟨hsame, (Evaluation.inSection limit body data scope).sameIndent, fun hnothing => ?_⟩
  have hmoved : (Evaluation.inSection limit body data scope).Moves env Scope.SameSetting :=
    (Evaluation.inSection limit body data scope).sameSetting fun step hreaches =>
      hreaches.not_defines_of_namesNothing hnothing
  have hsetting : (scope.enter (some data)).SameSetting ((Evaluation.inSection limit body data scope).after env) :=
    ⟨hmoved.inlined, hmoved.sections, hmoved.depth, hmoved.indent⟩
  exact (Scope.sameSetting_leave (some data) hsetting).eq hsame

/-- A section that is rendered with data gives what it gives as a template of its own for the data. -/
theorem renderSection_alone (limit : Nat) (hinside : body.staysInside env.knows scope.boundNames = true)
    (haddressable : data.IsAddressable) (hown : (Evaluation.alone scope.indent body).IsOwn env data) :
    ∃ after, Invocation.renderSection ((Branch.present body).render env (expand env limit)) (some data) scope =
        (.ok (body.renderIndented (env.withData data) scope.indent), after) ∧
      ((∃ text, body.renderIndented (env.withData data) scope.indent = .ok text) ∨
        (∀ step, (Evaluation.alone scope.indent body).Reaches (env.withData data) false step →
          ¬ step.LeavesBlock (env.withData data)) → scope.GoesOn body after) := by
  have halike := alike_alone limit hinside haddressable hown
  rw [renderIndented_eq]
  refine ⟨((Evaluation.inSection limit body data scope).after env).pop, ?_, fun hsettled => ?_⟩
  · rw [renderSection_present, halike.result_eq]
  · -- On its own, the text leaves the block of the data alone. So there is one block in its place here.
    have hsame : (Evaluation.alone scope.indent body).scope.SameBlocks
        ((Evaluation.alone scope.indent body).after (env.withData data)) := by
      rcases hsettled with ⟨text, hgives⟩ | hsettled
      · exact hown.settled _ .refl text _ (Prod.ext hgives rfl)
      · exact (Evaluation.alone scope.indent body).sameBlocks hsettled
    obtain ⟨left, hblocks, hrelated⟩ := halike.scopes.blocks
    have hsingle : left.length = 1 := by
      rw [← hrelated.length_eq]
      exact congrArg List.length hsame
    have hlength : ((Evaluation.inSection limit body data scope).after env).blocks.length =
        left.length + scope.blocks.length := by
      rw [← List.length_append]
      exact congrArg List.length hblocks
    exact goesOn_of_length_le (by omega)

theorem Scope.GoesOn.refl (body : Body) (scope : Scope) : scope.GoesOn body scope := ⟨rfl, rfl, fun _ => rfl⟩

theorem Scope.GoesOn.trans {first second third : Scope} (h : first.GoesOn body second)
    (hnext : second.GoesOn body third) : first.GoesOn body third :=
  ⟨hnext.blocks.trans h.blocks, hnext.indent.trans h.indent,
    fun hnothing => (hnext.unnamed hnothing).trans (h.unnamed hnothing)⟩

/-- A block helper that has its section rendered for one value after another writes what the section gives on its own
for each of them, until it fails. -/
theorem carryOut_forEach_go (limit : Nat) {call : Invocation} {ds : List Json}
    (hsection : call.body = (Branch.present body).render env (expand env limit))
    (hinside : body.staysInside env.knows scope.boundNames = true)
    (hown : ∀ d ∈ ds, d.IsAddressable ∧ (Evaluation.alone scope.indent body).IsOwn env d) (text : String) :
    ∃ after, call.carryOut (BlockPlan.forEach.go false .write ds text) scope =
        ((ds.mapM fun d => body.renderIndented (env.withData d) scope.indent).map
          fun texts => text ++ String.join texts, after) ∧
      ((∃ texts, (ds.mapM fun d => body.renderIndented (env.withData d) scope.indent) = .ok texts) →
        scope.GoesOn body after) := by
  induction ds generalizing scope text with
  | nil =>
    refine ⟨scope, ?_, fun _ => .refl body scope⟩
    change ((.ok text : Except Failure String), scope) = (.ok (text ++ String.join []), scope)
    rw [String.join_nil, String.append_empty]
  | cons d rest ih =>
    obtain ⟨haddressable, hisOwn⟩ := hown d List.mem_cons_self
    obtain ⟨after, hrendered, hgoesOn⟩ := renderSection_alone limit hinside haddressable hisOwn
    rw [BlockPlan.forEach.go, BlockPlan.thenWith, Invocation.carryOut, if_neg Bool.false_ne_true, hsection,
      Render.bind_ok hrendered, List.mapM_cons]
    cases hgiven : body.renderIndented (env.withData d) scope.indent with
    | error failure =>
      refine ⟨after, rfl, ?_⟩
      rintro ⟨texts, hgives⟩
      cases hgives
    | ok first =>
      have hwent := hgoesOn (.inl ⟨first, hgiven⟩)
      have hsameNames : after.boundNames = scope.boundNames := by
        rw [Scope.boundNames, hwent.blocks, Scope.boundNames]
      have hstill : body.staysInside env.knows after.boundNames = true := by rwa [hsameNames]
      obtain ⟨later, hwritten, hgoesOn⟩ := ih hstill
        (fun d hmem => by rw [hwent.indent]; exact hown d (List.mem_cons_of_mem _ hmem)) (text ++ first)
      rw [hwent.indent] at hwritten hgoesOn
      refine ⟨later, hwritten.trans ?_, ?_⟩
      · cases rest.mapM fun d => body.renderIndented (env.withData d) scope.indent with
        | error failure => rfl
        | ok texts =>
          change (Except.ok (text ++ first ++ String.join texts), later) =
            (Except.ok (text ++ String.join (first :: texts)), later)
          rw [String.join_cons, String.append_assoc]
      · rintro ⟨texts, hgives⟩
        refine hwent.trans (hgoesOn ?_)
        generalize (rest.mapM fun d => body.renderIndented (env.withData d) scope.indent) = others at hgives
        cases others with
        | error failure => cases hgives
        | ok texts => exact ⟨texts, rfl⟩

end

/-- A section whose paths stay inside, rendered with data by a block helper, gives what its text gives as a template of
its own for the data: the same text, or the same failure. Only the indent of the lines comes from around it; where
there is none, the text is that of the template. So a block helper that has the section rendered for one value after
another writes what the template gives for each of them, or fails as the first of these renderings that fails. What
comes afterwards goes on as before, unless the section has failed in a block that it has entered. -/
theorem renderSection_data_alone (env : Environment) (limit : Nat) (body : Body) (scope : Scope) (ds : List Json)
    (hinside : body.staysInside env.knows scope.boundNames = true)
    (hown : ∀ d ∈ ds, d.IsAddressable ∧ (Evaluation.alone scope.indent body).IsOwn env d) :
    (∀ d ∈ ds, ∃ after,
      Invocation.renderSection ((Branch.present body).render env (expand env limit)) (some d) scope =
          (.ok (body.renderIndented (env.withData d) scope.indent), after) ∧
        ((∃ text, body.renderIndented (env.withData d) scope.indent = .ok text) ∨
          (∀ step, (Evaluation.alone scope.indent body).Reaches (env.withData d) false step →
            ¬ step.LeavesBlock (env.withData d)) → scope.GoesOn body after)) ∧
    (scope.indent = none →
      ∀ d, body.renderIndented (env.withData d) scope.indent = body.renderAlone (env.withData d) none) ∧
    ∀ call : Invocation, call.helperPlan? env = some (.forEach false ds .write) →
      call.body = (Branch.present body).render env (expand env limit) →
        ∃ after, call.registered env scope =
            ((ds.mapM fun d => body.renderIndented (env.withData d) scope.indent).map String.join, after) ∧
          ((∃ texts, (ds.mapM fun d => body.renderIndented (env.withData d) scope.indent) = .ok texts) →
            scope.GoesOn body after) := by
  refine ⟨fun d hmem => ?_, fun hnone d => ?_, fun call hplanned hsection => ?_⟩
  · exact renderSection_alone limit hinside (hown d hmem).1 (hown d hmem).2
  · rw [hnone]
    rfl
  · obtain ⟨after, hwritten, hgoesOn⟩ := carryOut_forEach_go limit hsection hinside hown ""
    refine ⟨after, ?_, hgoesOn⟩
    rw [Invocation.registered_eq hplanned, BlockPlan.forEach, hwritten]
    cases ds.mapM fun d => body.renderIndented (env.withData d) scope.indent with
    | error failure => rfl
    | ok texts =>
      change (Except.ok ("" ++ String.join texts), after) = (Except.ok (String.join texts), after)
      rw [String.empty_append]

/-! ### Examples -/

/-- A block helper that has its section rendered for each of its arguments. -/
def forArguments : BlockHelper := fun call => .forEach false call.arguments .write

theorem passesOn_forArguments (call : BlockCall) : (forArguments call).PassesOn := by
  have hgo : ∀ (values : List Json) (text : String), (BlockPlan.forEach.go false .write values text).PassesOn := by
    intro values
    induction values with
    | nil => exact fun _ => trivial
    | cons value rest ih => exact fun text => BlockPlan.passesOn_thenWith fun more => ih (text ++ more)
  exact hgo call.arguments ""

/-- An environment where `for` is the only helper. -/
def withFor (templates : List (String × Body)) : Environment := ⟨.object [], [], [("for", forArguments)], templates⟩

/-- Nothing in this environment reads the whole data, and failures are passed on. -/
theorem isOwn_withFor (templates : List (String × Body)) (data : Json) (evaluation : Evaluation) :
    evaluation.IsOwn (withFor templates) data where
  ignores call scope _ := by
    refine ⟨fun _ helper hfound => (nomatch hfound), fun _ helper hfound => ?_⟩
    rw [withFor, Keyed.lookup_entry_cons] at hfound
    split at hfound
    · cases hfound
      exact fun _ _ => rfl
    · cases hfound
  settled := by
    refine Evaluation.isSettled_of_passesOn (fun name helper hfound => ?_) evaluation
    change List.lookup name [("for", forArguments)] = some helper at hfound
    rw [Keyed.lookup_entry_cons] at hfound
    split at hfound
    · cases hfound
      exact passesOn_forArguments
    · cases hfound

/-- A title on a line, and items on the next one. -/
def titledItems : Body := .ofList [(some ⟨1, 1⟩, valueTag "title"), (none, .text ":\n-"),
  (some ⟨2, 2⟩, .block (.mk (.word "each") [.path ⟨"xs", false, false, 0, ["xs"]⟩] []) (.one "x")
    (.ofList [(none, .text " "), (some ⟨2, 22⟩, valueTag "x")]) .absent), (none, .text ";\n")]

/-- A title with items. -/
def titled (title : String) (items : List String) : Json :=
  .object [("title", .string title), ("xs", .array (items.map .string))]

theorem isAddressable_titled (title : String) {items : List String} (hshort : items.length ≤ Decimal.maxNatural64) :
    (titled title items).IsAddressable := by
  have hnames : ["title", "xs"].Nodup := by decide
  refine .object hnames fun field hmem => ?_
  simp only [List.mem_cons, List.not_mem_nil, or_false] at hmem
  rcases hmem with rfl | rfl
  · exact .string title
  · refine .array (by rwa [List.length_map]) fun item hmem => ?_
    obtain ⟨text, -, rfl⟩ := List.mem_map.1 hmem
    exact .string text

/-- A scope in a template that is included with an indent, in the block of an item that has a name. -/
def itemScope : Scope :=
  { Scope.start with blocks := [⟨["items", "0"], none, [], [("item", .place)]⟩, .ofPath []], indent := some "  " }

/-- A call of `for` for two values, with a section. -/
def forTwo (env : Environment) (body : Body) (first second : Json) : Invocation :=
  .ofTag env 0 ⟨"for", [.derived first, .derived second], [], .none, false, none, none⟩ .none true (.present body)
    .absent

theorem renderSection_data_alone_titledItems :
    titledItems.staysInside (withFor []).knows itemScope.boundNames = true ∧
    (∀ d ∈ [titled "a" ["1", "2"], titled "b" []],
      d.IsAddressable ∧ (Evaluation.alone itemScope.indent titledItems).IsOwn (withFor []) d) ∧
    ((forTwo (withFor []) titledItems (titled "a" ["1", "2"]) (titled "b" [])).registered (withFor []) itemScope).1 =
      .ok "a:\n  - 1 2;\nb:\n  -;\n" := by
  have hinside : titledItems.staysInside (withFor []).knows itemScope.boundNames = true := by decide
  have hown : ∀ d ∈ [titled "a" ["1", "2"], titled "b" []],
      d.IsAddressable ∧ (Evaluation.alone itemScope.indent titledItems).IsOwn (withFor []) d := by
    intro d hmem
    refine ⟨?_, isOwn_withFor [] d _⟩
    simp only [List.mem_cons, List.not_mem_nil, or_false] at hmem
    rcases hmem with rfl | rfl
    · exact isAddressable_titled "a" (by decide)
    · exact isAddressable_titled "b" (by decide)
  obtain ⟨-, -, hcarriedOut⟩ := renderSection_data_alone (withFor []) 0 titledItems itemScope _ hinside hown
  obtain ⟨after, hwritten, -⟩ :=
    hcarriedOut (forTwo (withFor []) titledItems (titled "a" ["1", "2"]) (titled "b" [])) rfl rfl
  refine ⟨hinside, hown, ?_⟩
  rw [hwritten]
  rfl

/-- A section of two lines. -/
def twoLines : Body := .cons none (.text "a\nb") .nil

/-- A template that has the section of two lines rendered with data. -/
def linesPart : Body :=
  .cons (some ⟨1, 1⟩) (.block (.mk (.word "for") [.path ⟨"d", false, false, 0, ["d"]⟩] []) .none twoLines .absent) .nil

/-- A template that includes another one on a line that is indented. -/
def indentedPage : Body :=
  .ofList [(none, .text "  "), (some ⟨1, 3⟩, .inclusion (.mk (.word "part") [] []) (some "  ") .absent)]

/-- In a template that is included with an indent, a section that is rendered with data gives the indent after its line
break. As a template of its own for the data it gives none. -/
theorem renderSection_twoLines_indented :
    twoLines.staysInside (withFor [("part", linesPart)]).knows [] = true ∧
    Json.IsAddressable (.object []) ∧
    (Evaluation.alone none twoLines).IsOwn (withFor [("part", linesPart)]) (.object []) ∧
    indentedPage.renderAlone ((withFor [("part", linesPart)]).withData (.object [("d", .object [])])) (some "page") =
      .ok "  a\n  b" ∧
    (Invocation.renderSection
      ((Branch.present twoLines).render (withFor [("part", linesPart)]) (expand (withFor [("part", linesPart)]) 0))
      (some (.object [])) { Scope.start with indent := some "  " }).1 = .ok (.ok "a\n  b") ∧
    twoLines.renderAlone ((withFor [("part", linesPart)]).withData (.object [])) none = .ok "a\nb" :=
  ⟨rfl, .object .nil (fun _ hmem => absurd hmem List.not_mem_nil), isOwn_withFor _ _ _, rfl, rfl, rfl⟩

end EntityScaffold.Template
