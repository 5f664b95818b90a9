import EntityScaffold.Proofs.Template.Recovery
import EntityScaffold.Proofs.Template.Rebasing

/-! # Calls with and without places

A call that is made with values of places in the data does the same as a call that is made with the values alone:
it plans the same, enters blocks for the same values, and has the same sections rendered. Only a helper that reads
the whole data can tell the difference.
-/

namespace EntityScaffold

/-- An inline helper that does not read the whole data. -/
def InlineHelper.IgnoresContext (helper : InlineHelper) : Prop :=
  ∀ context other arguments, helper context arguments = helper other arguments

/-- A block helper that does not read the whole data. -/
def BlockHelper.IgnoresContext (helper : BlockHelper) : Prop :=
  ∀ call context, helper { call with context := context } = helper call

namespace Template

open Render (Alike)

/-! ## Plans -/

namespace CallPlan

variable {data : Json} {outer : List Block} {alone inner : Scope} {body inverse body' inverse' : Option (Render String)}

theorem alike_write (h : alone.Rebased data outer inner) (text : String) :
    Alike Eq (Scope.Rebased data outer) ((write text).run body inverse alone) ((write text).run body' inverse' inner) :=
  .ok rfl h

theorem alike_render {next next' : Except Failure String → CallPlan} (useInverse : Bool)
    (hsections : Alike Eq (Scope.Rebased data outer)
      (Invocation.textOf (if useInverse then inverse else body) alone)
      (Invocation.textOf (if useInverse then inverse' else body') inner))
    (hrest : ∀ result after later,
      Invocation.textOf (if useInverse then inverse else body) alone = (result, after) →
        after.Rebased data outer later → Alike Eq (Scope.Rebased data outer) ((next result).run body inverse after)
          ((next' result).run body' inverse' later)) :
    Alike Eq (Scope.Rebased data outer) ((render useInverse next).run body inverse alone)
      ((render useInverse next').run body' inverse' inner) := by
  rw [run_render, run_render]
  rcases hran : Invocation.textOf (if useInverse then inverse else body) alone with ⟨result, after⟩
  rcases hran' : Invocation.textOf (if useInverse then inverse' else body') inner with ⟨result', later⟩
  rw [hran, hran'] at hsections
  cases hsections with
  | ok hsame hrelated =>
    cases hsame
    exact hrest _ after later hran hrelated
  | error hrelated => exact hrest _ after later hran hrelated

theorem alike_thenWith {next next' : String → CallPlan} (useInverse : Bool)
    (hsections : Alike Eq (Scope.Rebased data outer)
      (Invocation.textOf (if useInverse then inverse else body) alone)
      (Invocation.textOf (if useInverse then inverse' else body') inner))
    (hrest : ∀ text after later, Invocation.textOf (if useInverse then inverse else body) alone = (.ok text, after) →
      after.Rebased data outer later → Alike Eq (Scope.Rebased data outer) ((next text).run body inverse after)
        ((next' text).run body' inverse' later)) :
    Alike Eq (Scope.Rebased data outer) ((thenWith useInverse next).run body inverse alone)
      ((thenWith useInverse next').run body' inverse' inner) := by
  refine alike_render useInverse hsections fun result after later hran hrelated => ?_
  cases result with
  | ok text => exact hrest text after later hran hrelated
  | error failure => exact .error hrelated

/-- A repetition over a place does the same as one over the value there, as long as each turn that gives a text
leaves the block of the repetition on top. -/
theorem alike_repeated {binders : Binders} {base : Option (List String)} {isFirst : Bool}
    {all : List Invocation.Turn} {next : String → CallPlan} {block : Block} {below : List Block}
    (hblocks : alone.blocks = block :: below) (hturns : block.Turns binders base isFirst)
    (h : alone.Rebased data outer inner)
    (hfound : ∀ turn ∈ all, ∀ path, base = some path →
      follow (some data) (path ++ [turn.step]) = .ok (some turn.value))
    (hsections : ∀ scope, (repeated binders base isFirst all next).Enters body inverse alone false scope →
      scope.blocks.tail = below → (∀ name ∈ binders.names, Scope.bound? name scope.blocks ≠ none) →
        ∀ other, scope.Rebased data outer other →
          Alike Eq (Scope.Rebased data outer) (Invocation.textOf body scope) (Invocation.textOf body' other))
    (hsettled : ∀ scope text after, (repeated binders base isFirst all next).Enters body inverse alone false scope →
      Invocation.textOf body scope = (.ok text, after) → scope.SameBlocks after)
    (hrest : ∀ text scope other, scope.blocks ≠ [] → scope.Rebased data outer other →
      Alike Eq (Scope.Rebased data outer) ((next text).run body inverse scope)
        ((next text).run body' inverse' other)) :
    Alike Eq (Scope.Rebased data outer) ((repeated binders base isFirst all next).run body inverse alone)
      ((repeated binders none isFirst all next).run body' inverse' inner) := by
  induction all generalizing isFirst next alone inner block with
  | nil => exact hrest "" alone inner (by rw [hblocks]; exact List.cons_ne_nil _ _) h
  | cons turn more ih =>
    have hmoved : (alone.updateBlock (turn.enter binders base isFirst more.isEmpty)).blocks =
        turn.enter binders base isFirst more.isEmpty block :: below := by
      unfold Scope.updateBlock
      rw [hblocks]
    have hrebased := h.updateBlock (turn.enter binders none isFirst more.isEmpty) hblocks
      fun other hrelated => Invocation.Turn.rebased_enter hturns hrelated (hfound turn List.mem_cons_self)
    rw [repeated, repeated, run_move, run_move]
    refine alike_thenWith false (hsections _ (.move .here) (by rw [hmoved]; rfl) (fun name hname => ?_) _ hrebased)
      fun text after later hran hrelated => ?_
    · rw [hmoved, Scope.bound?]
      obtain ⟨bound, hbound⟩ := Option.isSome_iff_exists.1 (Invocation.Turn.isSome_bound_enter hname)
      rw [hbound]
      exact Option.some_ne_none _
    · -- The turn leaves the block as it is, so the next turn moves it on.
      have hsame : after.blocks = _ := hsettled _ text after (.move .here) hran
      have hentered : ∀ {useInverse : Bool} {scope : Scope},
          (repeated binders base false more fun more => next (text ++ more)).Enters body inverse after useInverse
              scope →
            (repeated binders base isFirst (turn :: more) next).Enters body inverse alone useInverse scope := by
        intro useInverse scope henters
        refine .move (.later ?_)
        rw [hran]
        exact henters
      refine ih (hsame.trans hmoved) (Invocation.Turn.turns_enter hturns) hrelated
        (fun other hother => hfound other (List.mem_cons_of_mem _ hother))
        (fun scope henters => hsections scope (hentered henters))
        (fun scope text after henters => hsettled scope text after (hentered henters))
        (fun more scope other => hrest (text ++ more) scope other)

/-- A block helper does the same with sections that do the same. -/
theorem alike_ofHelper (name : String) (plan : BlockPlan) (hnonempty : alone.blocks ≠ [])
    (h : alone.Rebased data outer inner)
    (hsections : ∀ useInverse scope, (ofHelper name plan).Enters body inverse alone useInverse scope →
      alone.KeepsBlocks scope → ∀ other, scope.Rebased data outer other →
        Alike Eq (Scope.Rebased data outer) (Invocation.textOf (if useInverse then inverse else body) scope)
          (Invocation.textOf (if useInverse then inverse' else body') other))
    (hkeeps : ∀ (useInverse : Bool) scope,
      (Invocation.textOf (if useInverse then inverse else body)).Moves Scope.KeepsBlocks scope) :
    Alike Eq (Scope.Rebased data outer) ((ofHelper name plan).run body inverse alone)
      ((ofHelper name plan).run body' inverse' inner) := by
  induction plan generalizing alone inner with
  | write text => exact alike_write h text
  | fail error => cases error <;> exact .error h
  | render useInverse data next ih =>
    cases data with
    | none =>
      refine alike_render useInverse (hsections useInverse alone .here (List.suffix_refl _) inner h) ?_
      intro result after later hran hrelated
      have hkept := hkeeps useInverse alone
      rw [Render.Moves, hran] at hkept
      refine ih result (hkept.ne_nil hnonempty) hrelated fun other scope henters hkept' =>
        hsections other scope (.later ?_) (hkept.trans hkept')
      rw [hran]
      exact henters
    | some value =>
      have hentered : alone.KeepsBlocks (alone.push (.ofValue value)) := List.suffix_cons _ _
      rw [ofHelper, run_enter, run_enter]
      refine alike_render useInverse (hsections useInverse _ (.enter .here) hentered _
        (h.push (.ofValue value))) ?_
      intro result after later hran hrelated
      have hkept := hkeeps useInverse (alone.push (.ofValue value))
      rw [Render.Moves, hran] at hkept
      have hleft : alone.KeepsBlocks after.pop := Scope.keepsBlocks_leave (some value) hkept
      rw [run_leave, run_leave]
      refine ih result (hleft.ne_nil hnonempty) (hrelated.pop (hkept.ne_nil (List.cons_ne_nil _ _)))
        fun other scope henters hkept' => hsections other scope (.enter (.later (.leave ?_))) (hleft.trans hkept')
      rw [hran]
      exact henters

end CallPlan

/-! ## Calls -/

/-- The environment where other data is the whole data. -/
def Environment.withData (env : Environment) (data : Json) : Environment := { env with data := data }

namespace Invocation

/-- The helper that a call asks for does not read the whole data. -/
structure IgnoresContext (env : Environment) (call : Invocation) : Prop where
  inline : call.isBlock = false → ∀ helper, env.inline.lookup call.name = some helper → helper.IgnoresContext
  block : call.isBlock = true → ∀ helper, env.block.lookup call.name = some helper → helper.IgnoresContext

/-- A call, and one for the same values without their places. -/
structure Rebased (data : Json) (alone inner : Invocation) : Prop where
  name : alone.name = inner.name
  arguments : List.Forall₂ (Found.Rebased data) alone.arguments inner.arguments
  named : List.Forall₂ (fun entry other => entry.1 = other.1 ∧ Found.Rebased data entry.2 other.2)
    alone.named inner.named
  binders : alone.binders = inner.binders
  isBlock : alone.isBlock = inner.isBlock
  body : alone.body.isSome = inner.body.isSome
  inverse : alone.inverse.isSome = inner.inverse.isSome

/-- The names that a call binds around its section. -/
def boundBy (call : Invocation) : List String := call.binders.boundBy call.name

namespace Rebased

variable {data : Json} {alone inner : Invocation}

/-- The sections of a tag do not matter as long as they are there for both calls. -/
theorem withSections (h : alone.Rebased data inner) {binders : Binders} {isBlock : Bool}
    {body inverse body' inverse' : Option (Render String)} (hbody : body.isSome = body'.isSome)
    (hinverse : inverse.isSome = inverse'.isSome) :
    (alone.withSections binders isBlock body inverse).Rebased data
      (inner.withSections binders isBlock body' inverse') :=
  ⟨h.name, h.arguments, h.named, rfl, rfl, hbody, hinverse⟩

theorem values (h : alone.Rebased data inner) :
    alone.arguments.map Found.value = inner.arguments.map Found.value := by
  have hargs := h.arguments
  generalize alone.arguments = found at hargs
  generalize inner.arguments = found' at hargs
  induction hargs with
  | nil => rfl
  | cons hfirst _ ih => rw [List.map_cons, List.map_cons, hfirst.value_eq, ih]

theorem namedValues (h : alone.Rebased data inner) :
    (alone.named.map fun (name, found) => (name, found.value)) =
      inner.named.map fun (name, found) => (name, found.value) := by
  have hnamed := h.named
  generalize alone.named = found at hnamed
  generalize inner.named = found' at hnamed
  induction hnamed with
  | nil => rfl
  | @cons first second _ _ hfirst _ ih =>
    obtain ⟨name, found⟩ := first
    obtain ⟨other, found'⟩ := second
    obtain ⟨rfl, hvalue⟩ := hfirst
    have hsame : found.value = found'.value := hvalue.value_eq
    rw [List.map_cons, List.map_cons, ih]
    dsimp only
    rw [hsame]

theorem argument (h : alone.Rebased data inner) (index : Nat) :
    (alone.arguments[index]? = none ∧ inner.arguments[index]? = none) ∨
    ∃ found other, alone.arguments[index]? = some found ∧ inner.arguments[index]? = some other ∧
      found.Rebased data other := by
  have hargs := h.arguments
  generalize alone.arguments = found at hargs
  generalize inner.arguments = found' at hargs
  induction hargs generalizing index with
  | nil => exact .inl ⟨rfl, rfl⟩
  | cons hfirst _ ih =>
    cases index with
    | zero => exact .inr ⟨_, _, rfl, rfl, hfirst⟩
    | succ index => exact ih index

/-- A named argument has the same value. -/
theorem namedValue (h : alone.Rebased data inner) (key : String) :
    (alone.named.lookup key).map Found.value = (inner.named.lookup key).map Found.value := by
  have hlookupMap : ∀ entries : List (String × Found), (entries.lookup key).map Found.value =
      (entries.map fun (name, found) => (name, found.value)).lookup key := by
    intro entries
    induction entries with
    | nil => rfl
    | cons entry rest ih =>
      obtain ⟨name, found⟩ := entry
      rw [List.map_cons, Keyed.lookup_entry_cons, Keyed.lookup_entry_cons]
      split
      · rfl
      · exact ih
  rw [hlookupMap, hlookupMap, h.namedValues]

/-- A helper that does not read the whole data plans the same. -/
theorem helperPlan?_eq (h : alone.Rebased data inner) {env : Environment} (hignores : alone.IgnoresContext env) :
    alone.helperPlan? (env.withData data) = inner.helperPlan? env := by
  have hcall : alone.blockCall (env.withData data) = { inner.blockCall env with context := data } := by
    unfold blockCall
    rw [h.name, h.namedValues, h.values, h.inverse]
    rfl
  unfold helperPlan?
  rw [hcall, ← h.isBlock, ← h.name]
  split
  · next hblock =>
    cases hfound : env.block.lookup alone.name with
    | none =>
      rw [show (env.withData data).block.lookup alone.name = none from hfound]
      rfl
    | some helper =>
      rw [show (env.withData data).block.lookup alone.name = some helper from hfound]
      exact congrArg some (hignores.block hblock helper hfound _ _)
  · rfl

theorem registered_eq (h : alone.Rebased data inner) {env : Environment} (hignores : alone.IgnoresContext env)
    (hunplanned : alone.helperPlan? (env.withData data) = none) :
    alone.registered (env.withData data) = inner.registered env := by
  have hblock : (env.withData data).block = env.block := rfl
  have hinline : (env.withData data).inline = env.inline := rfl
  have hdata : (env.withData data).data = data := rfl
  unfold registered
  rw [h.values, ← h.isBlock, ← h.name, hblock, hinline, hdata]
  dsimp only
  split
  · next hisBlock =>
    rw [helperPlan?, if_pos hisBlock, Option.map_eq_none_iff, hblock] at hunplanned
    rw [hunplanned]
  · next hisInline =>
    cases hfound : env.inline.lookup alone.name with
    | none => rfl
    | some helper =>
      dsimp only
      rw [hignores.inline (Bool.eq_false_iff.2 hisInline) helper hfound data env.data]

/-- A call that only has a result has the same one. -/
theorem run_eq_of_unplanned (h : alone.Rebased data inner) {env : Environment} (hignores : alone.IgnoresContext env)
    (hfree : alone.name ∉ Environment.ownNames) (hunplanned : alone.helperPlan? (env.withData data) = none) :
    alone.run (env.withData data) = inner.run env := by
  have hregistered : (env.withData data).isRegistered inner.name = env.isRegistered inner.name := rfl
  rw [run_of_notMem hfree, run_of_notMem (h.name ▸ hfree), h.registered_eq hignores hunplanned, h.values, h.name,
    hregistered]

theorem lookupValue_eq (h : alone.Rebased data inner) : alone.lookupValue = inner.lookupValue := by
  unfold lookupValue Invocation.argument
  rcases h.argument 0 with ⟨hnone, hnone'⟩ | ⟨found, other, hsome, hsome', hfirst⟩
  · rw [hnone, hnone']
    rfl
  · rcases h.argument 1 with ⟨hnone, hnone'⟩ | ⟨key, key', hkey, hkey', hsecond⟩
    · rw [hsome, hsome', hnone, hnone']
      rfl
    · rw [hsome, hsome', hkey, hkey']
      simp only [pure_bind, hfirst.value_eq, hsecond.value_eq]

theorem logged_eq (h : alone.Rebased data inner) : alone.logged = inner.logged := by
  have hlevel := h.namedValue "level"
  have hbindString : ∀ found : Option Found, found.bind (·.value.string?) =
      (found.map Found.value).bind Json.string? := by
    intro found
    cases found <;> rfl
  unfold logged
  rw [hbindString, hbindString, hlevel]

/-- Both calls have the argument, or both fail without it. -/
theorem alike_withArgument (h : alone.Rebased data inner) {outer : List Block} {scope other : Scope}
    (hrelated : scope.Rebased data outer other) (name : String) (index : Nat) {next next' : Found → CallPlan}
    {body inverse body' inverse' : Option (Render String)}
    (hrest : ∀ found found', alone.arguments[index]? = some found → found.Rebased data found' →
      Alike Eq (Scope.Rebased data outer) ((next found).run body inverse scope)
        ((next' found').run body' inverse' other)) :
    Alike Eq (Scope.Rebased data outer) ((alone.withArgument name index next).run body inverse scope)
      ((inner.withArgument name index next').run body' inverse' other) := by
  unfold withArgument
  rcases h.argument index with ⟨hmissing, hmissing'⟩ | ⟨found, found', hpresent, hpresent', hfound⟩
  · rw [hmissing, hmissing']
    exact .error hrelated
  · rw [hpresent, hpresent']
    exact hrest found found' hpresent hfound

end Rebased

/-- Where a plan of the first call renders a section, with `names` bound around it, the section of the second call
does the same. A section that gives a text leaves the blocks as they are. -/
structure SectionsAlike (data : Json) (outer : List Block) (alone inner : Invocation) (names : List String)
    (plan : CallPlan) (scope : Scope) : Prop where
  alike : ∀ useInverse entered other, plan.Enters alone.body alone.inverse scope useInverse entered →
    scope.KeepsBlocks entered → (useInverse = false → ∀ name ∈ names, Scope.bound? name entered.blocks ≠ none) →
      entered.Rebased data outer other →
        Alike Eq (Scope.Rebased data outer) (alone.sectionOf useInverse entered) (inner.sectionOf useInverse other)
  settled : ∀ entered text after, plan.Enters alone.body alone.inverse scope false entered →
    alone.sectionOf false entered = (.ok text, after) → entered.SameBlocks after
  keeps : ∀ useInverse entered, (alone.sectionOf useInverse).Moves Scope.KeepsBlocks entered

namespace Rebased

variable {data : Json} {alone inner : Invocation} {outer : List Block} {scope other : Scope}

theorem alike_conditionPlan (h : alone.Rebased data inner) (hrelated : scope.Rebased data outer other) {wanted : Bool}
    (hsections : SectionsAlike data outer alone inner [] (alone.conditionPlan wanted) scope) :
    Alike Eq (Scope.Rebased data outer) ((alone.conditionPlan wanted).run alone.body alone.inverse scope)
      ((inner.conditionPlan wanted).run inner.body inner.inverse other) := by
  have hbindBool : ∀ found : Option Found, found.bind (·.value.bool?) =
      (found.map Found.value).bind Json.bool? := by
    intro found
    cases found <;> rfl
  refine h.alike_withArgument hrelated "if" 0 fun found found' hpresent hfound => ?_
  dsimp only
  rw [hbindBool (inner.named.lookup _), ← h.namedValue, ← hbindBool, ← hfound.value_eq]
  refine CallPlan.alike_thenWith _ (hsections.alike _ scope other ?_ (List.suffix_refl _)
    (fun _ _ hmem => absurd hmem List.not_mem_nil) hrelated)
    fun text after later _ hrelated => CallPlan.alike_write hrelated text
  rw [conditionPlan, withArgument, hpresent]
  exact .here

/-- The alternative stands for a value without items. -/
theorem alike_alternative (hrelated : scope.Rebased data outer other) {names : List String} {plan : CallPlan}
    (hsections : SectionsAlike data outer alone inner names plan scope)
    (henters : plan.Enters alone.body alone.inverse scope true scope) :
    Alike Eq (Scope.Rebased data outer)
      ((CallPlan.thenWith true .write).run alone.body alone.inverse scope)
      ((CallPlan.thenWith true .write).run inner.body inner.inverse other) :=
  CallPlan.alike_thenWith true
    (hsections.alike true scope other henters (List.suffix_refl _) (fun habsurd => nomatch habsurd) hrelated)
    fun text _ _ _ hrelated => CallPlan.alike_write hrelated text

theorem alike_withPlan (h : alone.Rebased data inner) (hrelated : scope.Rebased data outer other)
    (hsections : SectionsAlike data outer alone inner alone.binders.single alone.withPlan scope) :
    Alike Eq (Scope.Rebased data outer) (alone.withPlan.run alone.body alone.inverse scope)
      (inner.withPlan.run inner.body inner.inverse other) := by
  refine h.alike_withArgument hrelated "with" 0 fun found found' hpresent hfound => ?_
  have hplanned : alone.withPlan = if found.value.isTrue false then
      .enter (alone.withBlock found) <| .thenWith false fun text => .leave (.write text)
    else .thenWith true .write := by
    rw [withPlan, withArgument, hpresent]
  rw [← hfound.value_eq]
  split
  · next htrue =>
    rw [if_pos htrue] at hplanned
    have hentered : scope.KeepsBlocks (scope.push (alone.withBlock found)) := List.suffix_cons _ _
    have hblock : (alone.withBlock found).Rebased data (inner.withBlock found') := by
      unfold withBlock
      rw [← h.binders]
      cases alone.binders with
      | one name =>
        refine ⟨hfound.blockOf.value, .cons ⟨rfl, hfound.boundValue fun path hpath => ?_⟩ .nil⟩
        unfold blockOf
        rw [hpath]
        rfl
      | _ => exact hfound.blockOf
    rw [CallPlan.run_enter, CallPlan.run_enter]
    refine CallPlan.alike_thenWith false (hsections.alike false _ _ ?_ hentered (fun _ name hname => ?_)
      (hrelated.push hblock)) fun text after later hran hrelated => ?_
    · rw [hplanned]
      exact .enter .here
    · change Scope.bound? name (alone.withBlock found :: scope.blocks) ≠ none
      unfold withBlock
      cases hbinders : alone.binders with
      | one bound =>
        rw [hbinders] at hname
        rw [List.mem_singleton.1 hname, Scope.bound?, Keyed.lookup_entry_cons, if_pos rfl]
        exact Option.some_ne_none _
      | _ =>
        rw [hbinders] at hname
        cases hname
    · have hkept : (scope.push (alone.withBlock found)).KeepsBlocks after := by
        have hmoved := hsections.keeps false (scope.push (alone.withBlock found))
        rwa [Render.Moves, sectionOf, hran] at hmoved
      rw [CallPlan.run_leave, CallPlan.run_leave]
      exact CallPlan.alike_write (hrelated.pop (hkept.ne_nil (List.cons_ne_nil _ _))) text
  · next hfalse =>
    rw [if_neg hfalse] at hplanned
    exact alike_alternative hrelated hsections (by rw [hplanned]; exact .here)

theorem alike_repetition (haddressable : data.IsAddressable)
    (hrelated : scope.Rebased data outer other) {found found' : Found}
    (hfound : found.Rebased data found') {all : List Turn} (hturns : turns? found.value = some all)
    (hsections : SectionsAlike data outer alone inner alone.binders.names (.enter (blockOf found) <|
      .repeated alone.binders found.path? true all fun text => .leave (.write text)) scope) :
    Alike Eq (Scope.Rebased data outer)
      ((CallPlan.enter (blockOf found) <| .repeated alone.binders found.path? true all
        fun text => .leave (.write text)).run alone.body alone.inverse scope)
      ((CallPlan.enter (blockOf found') <| .repeated alone.binders found'.path? true all
        fun text => .leave (.write text)).run inner.body inner.inverse other) := by
  rw [CallPlan.run_enter, CallPlan.run_enter, hfound.path?_eq]
  refine CallPlan.alike_repeated rfl ⟨fun _ => ?_, fun path hpath => ?_⟩ (hrelated.push hfound.blockOf)
    (fun turn hmem path hpath => ?_) (fun entered henters hbelow hnames other hrelated => ?_)
    (fun entered text after henters => hsections.settled entered text after (.enter henters))
    fun text after later hnonempty hrelated => ?_
  · unfold blockOf
    cases found.path? <;> rfl
  · unfold blockOf
    rw [hpath]
    exact ⟨rfl, rfl⟩
  · have hplace := hfound.follow_path hpath
    rw [follow_append, hplace]
    exact (haddressable.of_follow hplace).follow_turn hturns hmem
  · have hkept : scope.KeepsBlocks entered := by
      rw [Scope.KeepsBlocks, ← hbelow]
      exact List.tail_suffix _
    exact hsections.alike false entered other (.enter henters) hkept (fun _ => hnames) hrelated
  · rw [CallPlan.run_leave, CallPlan.run_leave]
    exact CallPlan.alike_write (hrelated.pop hnonempty) text

theorem alike_eachPlan (h : alone.Rebased data inner) (haddressable : data.IsAddressable)
    (hrelated : scope.Rebased data outer other)
    (hsections : SectionsAlike data outer alone inner alone.binders.names alone.eachPlan scope) :
    Alike Eq (Scope.Rebased data outer) (alone.eachPlan.run alone.body alone.inverse scope)
      (inner.eachPlan.run inner.body inner.inverse other) := by
  rcases h.argument 0 with ⟨hmissing, hmissing'⟩ | ⟨found, found', hpresent, hpresent', hfound⟩
  · unfold eachPlan withArgument
    rw [hmissing, hmissing']
    exact .error hrelated
  · rw [eachPlan_eq hpresent] at hsections ⊢
    rw [eachPlan_eq hpresent', ← h.body, ← h.inverse, ← hfound.value_eq, ← h.binders]
    cases hturns : turns? found.value with
    | none =>
      rw [hturns] at hsections
      generalize alone.body.isSome = hasBody at hsections ⊢
      generalize alone.inverse.isSome = hasInverse at hsections ⊢
      cases hasBody with
      | false => exact CallPlan.alike_write hrelated ""
      | true =>
        cases hasInverse with
        | false => exact CallPlan.alike_write hrelated ""
        | true => exact alike_alternative hrelated hsections .here
    | some all =>
      rw [hturns] at hsections
      generalize alone.body.isSome = hasBody at hsections ⊢
      generalize alone.inverse.isSome = hasInverse at hsections ⊢
      cases hasBody with
      | false => exact CallPlan.alike_write hrelated ""
      | true =>
        cases all with
        | nil =>
          cases hasInverse with
          | false => exact alike_repetition haddressable hrelated hfound hturns hsections
          | true => exact alike_alternative hrelated hsections .here
        | cons turn rest => exact alike_repetition haddressable hrelated hfound hturns hsections

/-- Only `each` and `with` bind names. -/
theorem boundBy_eq_nil {call : Invocation} (heach : call.name ≠ "each") (hwith : call.name ≠ "with") :
    call.boundBy = [] := by
  rw [boundBy, Binders.boundBy, if_neg heach, if_neg hwith]

theorem alike_run_of_plan {env env' : Environment} {plan plan' : CallPlan} (hplanned : alone.plan env' = plan)
    (hplanned' : inner.plan env = plan')
    (halike : Alike Eq (Scope.Rebased data outer) (plan.run alone.body alone.inverse scope)
      (plan'.run inner.body inner.inverse other)) :
    Alike Eq (Scope.Rebased data outer) (alone.run env' scope) (inner.run env other) := by
  rwa [run_plan, run_plan, hplanned, hplanned']

/-- A call of a block helper binds no names, so its sections find their values wherever it renders them. -/
theorem alike_run_of_helperPlan (h : alone.Rebased data inner) {env : Environment}
    (hignores : alone.IgnoresContext env) (hfree : alone.name ∉ Environment.ownNames) {plan : BlockPlan}
    (hplanned : alone.helperPlan? (env.withData data) = some plan) (hnonempty : scope.blocks ≠ [])
    (hrelated : scope.Rebased data outer other)
    (hsections : SectionsAlike data outer alone inner alone.boundBy (alone.plan (env.withData data)) scope) :
    Alike Eq (Scope.Rebased data outer) (alone.run (env.withData data) scope) (inner.run env other) := by
  have hplan : alone.plan (env.withData data) = .ofHelper alone.name plan := by
    rw [plan_of_notMem hfree, hplanned]
  have hplan' : inner.plan env = .ofHelper alone.name plan := by
    rw [plan_of_notMem (h.name ▸ hfree), ← h.helperPlan?_eq hignores, hplanned, h.name]
  obtain ⟨-, -, heach, hwith, -⟩ := Environment.notMem_ownNames.1 hfree
  rw [hplan, boundBy_eq_nil heach hwith] at hsections
  exact alike_run_of_plan hplan hplan' <| CallPlan.alike_ofHelper alone.name plan hnonempty hrelated
    (fun useInverse entered henters hkept other hrelated =>
      hsections.alike useInverse entered other henters hkept (fun _ _ hmem => absurd hmem List.not_mem_nil) hrelated)
    hsections.keeps

/-- A call does the same for the same values, in scopes where the values are found. -/
theorem alike_run (h : alone.Rebased data inner) {env : Environment} (hignores : alone.IgnoresContext env)
    (haddressable : data.IsAddressable) (hnonempty : scope.blocks ≠ []) (hrelated : scope.Rebased data outer other)
    (hsections : SectionsAlike data outer alone inner alone.boundBy (alone.plan (env.withData data)) scope) :
    Alike Eq (Scope.Rebased data outer) (alone.run (env.withData data) scope) (inner.run env other) := by
  have hconstant : ∀ {x y : Render Outcome}, x.IsConstant → x = y →
      Alike Eq (Scope.Rebased data outer) (x scope) (y other) := by
    rintro x y hx rfl
    exact .of_constant hx hx rfl hrelated
  by_cases hown : alone.name ∈ Environment.ownNames
  · rcases Environment.mem_ownNames.1 hown with hown | hown | hown | hown | hown | hown | hown <;>
      have hown' := h.name.symm.trans hown
    · rw [plan_if hown, boundBy_eq_nil (by rw [hown]; decide) (by rw [hown]; decide)] at hsections
      exact alike_run_of_plan (plan_if hown) (plan_if hown') (h.alike_conditionPlan hrelated hsections)
    · rw [plan_unless hown, boundBy_eq_nil (by rw [hown]; decide) (by rw [hown]; decide)] at hsections
      exact alike_run_of_plan (plan_unless hown) (plan_unless hown') (h.alike_conditionPlan hrelated hsections)
    · have hnames : alone.boundBy = alone.binders.names := by simp [boundBy, Binders.boundBy, hown]
      rw [plan_each hown, hnames] at hsections
      exact alike_run_of_plan (plan_each hown) (plan_each hown') (h.alike_eachPlan haddressable hrelated hsections)
    · have hnames : alone.boundBy = alone.binders.single := by simp [boundBy, Binders.boundBy, hown]
      rw [plan_with hown, hnames] at hsections
      exact alike_run_of_plan (plan_with hown) (plan_with hown') (h.alike_withPlan hrelated hsections)
    · rw [run_lookup hown, run_lookup hown', ← h.lookupValue_eq]
      exact hconstant (isConstant_lookupValue.bind fun _ => .pure _) rfl
    · rw [plan_raw hown, boundBy_eq_nil (by rw [hown]; decide) (by rw [hown]; decide)] at hsections
      exact alike_run_of_plan (plan_raw hown) (plan_raw hown') (CallPlan.alike_thenWith false
        (hsections.alike false scope other .here (List.suffix_refl _)
          (fun _ _ hmem => absurd hmem List.not_mem_nil) hrelated)
        fun text _ _ _ hrelated => CallPlan.alike_write hrelated text)
    · rw [run_log hown, run_log hown', ← h.logged_eq]
      exact hconstant (isConstant_logged.bind fun _ => .pure _) rfl
  · cases hplanned : alone.helperPlan? (env.withData data) with
    | none => exact hconstant (isConstant_run hown hplanned) (h.run_eq_of_unplanned hignores hown hplanned)
    | some plan => exact h.alike_run_of_helperPlan hignores hown hplanned hnonempty hrelated hsections

end Rebased

end Invocation

end Template

end EntityScaffold
