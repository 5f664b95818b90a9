import EntityScaffold.Proofs.Template.Moving

/-! # The stack of blocks

A call leaves every block that it enters, unless `each` or `with` fails inside its block: that one stays.
Since nothing ever takes away a block that an evaluation started with, the stack after an evaluation is the
one before it exactly if no block was left behind on the way.
-/

namespace EntityScaffold.Template

/-! ## Balanced plans -/

namespace CallPlan

/-- A plan that has entered so many blocks leaves them all before it gives a result, and leaves all but
`left` of them before it fails. -/
def Balanced (left : Nat) : Nat → CallPlan → Prop
  | height, .finish (.ok _) => height = 0
  | height, .finish (.error _) => height = left
  | height, .enter _ next => next.Balanced left (height + 1)
  | height, .move _ next => 0 < height ∧ next.Balanced left height
  | height, .leave next => 0 < height ∧ next.Balanced left (height - 1)
  | height, .render _ next => ∀ result, (next result).Balanced left height

theorem balanced_write (left : Nat) (text : String) : (write text).Balanced left 0 := rfl

theorem balanced_leave_write (left : Nat) (text : String) : (leave (write text)).Balanced left 1 :=
  ⟨Nat.one_pos, balanced_write left text⟩

theorem balanced_thenWith {height : Nat} {next : String → CallPlan} (inverse : Bool)
    (hbalanced : ∀ text, (next text).Balanced height height) :
    (thenWith inverse next).Balanced height height := by
  intro result
  cases result with
  | error failure => exact rfl
  | ok text => exact hbalanced text

theorem balanced_repeated {next : String → CallPlan} (binders : Binders) (base : Option (List String))
    (isFirst : Bool) (turns : List Invocation.Turn) (hbalanced : ∀ text, (next text).Balanced 1 1) :
    (repeated binders base isFirst turns next).Balanced 1 1 := by
  induction turns generalizing isFirst next with
  | nil => exact hbalanced ""
  | cons turn rest ih =>
    exact ⟨Nat.one_pos, balanced_thenWith false fun text => ih false fun more => hbalanced _⟩

theorem balanced_ofHelper (name : String) (plan : BlockPlan) : (ofHelper name plan).Balanced 0 0 := by
  induction plan with
  | write text => exact rfl
  | fail error => cases error <;> exact rfl
  | render inverse data next ih =>
    cases data with
    | none => exact ih
    | some data => exact fun result => ⟨Nat.one_pos, ih result⟩

end CallPlan

namespace Invocation

variable {env : Environment} {call : Invocation}

/-- The first argument of a repetition has turns to take, or no alternative stands for none. -/
def repeats (call : Invocation) : Bool :=
  match call.arguments[0]? with
  | none => false
  | some found => match call.body, turns? found.value, call.inverse with
    | none, _, _ | some _, some [], some _ | some _, none, _ => false
    | some _, some _, _ => true

/-- The call renders its section in a block that it enters itself: it is a repetition, or a `with` for a
true value. -/
def entersBlock (call : Invocation) : Bool :=
  if call.name = "each" then call.repeats
  else if call.name = "with" then call.arguments[0]?.any (·.value.isTrue false)
  else false

/-- The number of own blocks that a call leaves on the stack when it fails. -/
def blocksLeft (call : Invocation) : Nat := call.entersBlock.toNat

theorem blocksLeft_of_ne (heach : call.name ≠ "each") (hwith : call.name ≠ "with") :
    call.blocksLeft = 0 := by
  rw [blocksLeft, entersBlock, if_neg heach, if_neg hwith]
  rfl

theorem balanced_eachPlan (heach : call.name = "each") :
    call.eachPlan.Balanced call.blocksLeft 0 := by
  have hinBlock (binders : Binders) (base : Option (List String)) (all : List Turn) :
      CallPlan.Balanced 1 1 (.repeated binders base true all fun text => .leave (.write text)) :=
    CallPlan.balanced_repeated binders base true all fun text => CallPlan.balanced_leave_write 1 text
  have halternative : CallPlan.Balanced 0 0 (.thenWith true .write) :=
    CallPlan.balanced_thenWith true fun text => CallPlan.balanced_write 0 text
  rw [blocksLeft, entersBlock, if_pos heach]
  unfold eachPlan withArgument repeats
  rcases call.arguments[0]? with _ | found
  · exact rfl
  dsimp only
  rcases call.body with _ | body
  · exact rfl
  rcases turns? found.value with _ | _ | _ <;> rcases call.inverse with _ | inverse
  · exact rfl
  · exact halternative
  · exact hinBlock ..
  · exact halternative
  · exact hinBlock ..
  · exact hinBlock ..

theorem balanced_withPlan (hwith : call.name = "with") :
    call.withPlan.Balanced call.blocksLeft 0 := by
  have hinBlock : CallPlan.Balanced 1 1 (.thenWith false fun text => .leave (.write text)) :=
    CallPlan.balanced_thenWith false fun text => CallPlan.balanced_leave_write 1 text
  have halternative : CallPlan.Balanced 0 0 (.thenWith true .write) :=
    CallPlan.balanced_thenWith true fun text => CallPlan.balanced_write 0 text
  have hnotEach : call.name ≠ "each" := by rw [hwith]; decide
  rw [blocksLeft, entersBlock, if_neg hnotEach, if_pos hwith]
  unfold withPlan withArgument
  rcases call.arguments[0]? with _ | found
  · exact rfl
  rw [Option.any_some]
  dsimp only
  cases found.value.isTrue false with
  | false => exact halternative
  | true => exact hinBlock

theorem balanced_conditionPlan (wanted : Bool) : (call.conditionPlan wanted).Balanced 0 0 := by
  unfold conditionPlan withArgument
  cases call.arguments[0]? with
  | none => exact rfl
  | some found => exact CallPlan.balanced_thenWith _ fun text => CallPlan.balanced_write 0 text

/-- Every plan leaves the blocks that it enters, but for the block of an `each` or `with` that fails. -/
theorem balanced_plan : (call.plan env).Balanced call.blocksLeft 0 := by
  have hfinish (result : Except Failure Outcome) : CallPlan.Balanced 0 0 (.finish result) := by
    cases result <;> exact rfl
  unfold plan
  split
  next hnamed =>
    rw [blocksLeft_of_ne (by rw [hnamed]; decide) (by rw [hnamed]; decide)]
    exact balanced_conditionPlan true
  next hnamed =>
    rw [blocksLeft_of_ne (by rw [hnamed]; decide) (by rw [hnamed]; decide)]
    exact balanced_conditionPlan false
  next hnamed => exact balanced_eachPlan hnamed
  next hnamed => exact balanced_withPlan hnamed
  next hnamed =>
    rw [blocksLeft_of_ne (by rw [hnamed]; decide) (by rw [hnamed]; decide)]
    exact CallPlan.balanced_thenWith false fun text => CallPlan.balanced_write 0 text
  next hnamed =>
    rw [blocksLeft_of_ne (by rw [hnamed]; decide) (by rw [hnamed]; decide)]
    exact hfinish _
  next hnamed =>
    rw [blocksLeft_of_ne (by rw [hnamed]; decide) (by rw [hnamed]; decide)]
    exact hfinish _
  next heach hwith _ _ _ =>
    rw [blocksLeft_of_ne heach hwith]
    split
    · exact CallPlan.balanced_ofHelper _ _
    · exact hfinish _

end Invocation

/-! ## Running balanced plans -/

namespace Scope

/-- The blocks of the first scope are below those of the second one. -/
def KeepsBlocks (first second : Scope) : Prop := first.blocks <:+ second.blocks

/-- The second scope has the blocks of the first one. -/
def SameBlocks (first second : Scope) : Prop := second.blocks = first.blocks

theorem isFlow_keepsBlocks : IsFlow KeepsBlocks where
  refl scope := List.suffix_refl scope.blocks
  trans hfirst hsecond := hfirst.trans hsecond
  current scope _ := List.suffix_refl scope.blocks

theorem isFlow_sameBlocks : IsFlow SameBlocks where
  refl _ := rfl
  trans hfirst hsecond := hsecond.trans hfirst
  current _ _ := rfl

theorem SameBlocks.keeps {first second : Scope} (hsame : first.SameBlocks second) :
    first.KeepsBlocks second :=
  ⟨[], hsame.symm⟩

theorem KeepsBlocks.same {first second : Scope} (hkeeps : first.KeepsBlocks second)
    (hshort : second.blocks.length ≤ first.blocks.length) : first.SameBlocks second :=
  (hkeeps.eq_of_length_le hshort).symm

theorem length_updateBlock (change : Block → Block) (scope : Scope) :
    (scope.updateBlock change).blocks.length = scope.blocks.length := by
  unfold updateBlock
  split
  next hempty => rw [hempty]
  next hcons => simp only [hcons, List.length_cons]

theorem tail_updateBlock (change : Block → Block) (scope : Scope) :
    (scope.updateBlock change).blocks.tail = scope.blocks.tail := by
  unfold updateBlock
  split
  next hempty => rw [hempty]
  next hcons => simp only [hcons, List.tail_cons]

end Scope

theorem suffix_tail {α : Type} {base all : List α} (hbelow : base <:+ all)
    (hlong : base.length < all.length) : base <:+ all.tail := by
  cases all with
  | nil => exact absurd hlong (Nat.not_lt_zero _)
  | cons first rest =>
    rcases List.suffix_cons_iff.mp hbelow with rfl | hbelow
    · exact absurd hlong (Nat.lt_irrefl _)
    · exact hbelow

/-- The number of own blocks that a plan leaves when it ends so. -/
def leftAfter {α : Type} (left : Nat) : Except Failure α → Nat
  | .ok _ => 0
  | .error _ => left

namespace CallPlan

variable {plan : CallPlan} {left height : Nat} {body inverse : Option (Render String)} {scope inner : Scope}

/-- What is below the blocks that a balanced plan has entered stays there. -/
theorem Balanced.keeps (hbalanced : plan.Balanced left height) {base : List Block}
    (hbelow : base <:+ scope.blocks) (hhigh : base.length + height ≤ scope.blocks.length)
    (hsections : ∀ useInverse inner, plan.Enters body inverse scope useInverse inner →
      (Invocation.textOf (if useInverse then inverse else body)).Moves Scope.KeepsBlocks inner) :
    base <:+ (plan.run body inverse scope).2.blocks := by
  induction plan generalizing scope height with
  | finish result => exact hbelow
  | enter block next ih =>
    refine ih hbalanced (hbelow.trans (List.suffix_cons _ _)) ?_ fun _ _ henters => hsections _ _ (.enter henters)
    simp only [Scope.push, List.length_cons]
    omega
  | move change next ih =>
    obtain ⟨hinBlock, hbalanced⟩ := hbalanced
    refine ih hbalanced ?_ ?_ fun _ _ henters => hsections _ _ (.move henters)
    · have htail := suffix_tail hbelow (by omega)
      rw [← Scope.tail_updateBlock change] at htail
      exact htail.trans (List.tail_suffix _)
    · rw [Scope.length_updateBlock]
      exact hhigh
  | leave next ih =>
    obtain ⟨hinBlock, hbalanced⟩ := hbalanced
    refine ih hbalanced (suffix_tail hbelow (by omega)) ?_ fun _ _ henters => hsections _ _ (.leave henters)
    simp only [Scope.pop, List.length_tail]
    omega
  | render useInverse next ih =>
    have hkept : Scope.KeepsBlocks scope _ := hsections _ _ .here
    refine ih _ (hbalanced _) (hbelow.trans hkept) ?_ fun _ _ henters => hsections _ _ (.later henters)
    exact Nat.le_trans hhigh hkept.length_le

/-- A balanced plan adds no fewer blocks than it leaves, and no more if its sections add none. -/
theorem Balanced.length (hbalanced : plan.Balanced left height) (hhigh : height ≤ scope.blocks.length)
    (hsections : ∀ useInverse inner, plan.Enters body inverse scope useInverse inner →
      (Invocation.textOf (if useInverse then inverse else body)).Moves Scope.KeepsBlocks inner) :
    scope.blocks.length + leftAfter left (plan.run body inverse scope).1 ≤
        (plan.run body inverse scope).2.blocks.length + height ∧
      ((∀ useInverse inner, plan.Enters body inverse scope useInverse inner →
          (Invocation.textOf (if useInverse then inverse else body)).Moves Scope.SameBlocks inner) →
        (plan.run body inverse scope).2.blocks.length + height =
          scope.blocks.length + leftAfter left (plan.run body inverse scope).1) := by
  induction plan generalizing scope height with
  | finish result =>
    cases result with
    | ok outcome =>
      cases hbalanced
      exact ⟨Nat.le_refl _, fun _ => rfl⟩
    | error failure =>
      cases hbalanced
      exact ⟨Nat.le_refl _, fun _ => rfl⟩
  | enter block next ih =>
    have hpushed : (scope.push block).blocks.length = scope.blocks.length + 1 := rfl
    obtain ⟨hleast, hmost⟩ := ih hbalanced (by omega) fun _ _ henters => hsections _ _ (.enter henters)
    rw [run_enter]
    refine ⟨by omega, fun hsame => ?_⟩
    have := hmost fun _ _ henters => hsame _ _ (.enter henters)
    omega
  | move change next ih =>
    have hmoved := scope.length_updateBlock change
    obtain ⟨hinBlock, hbalanced⟩ := hbalanced
    obtain ⟨hleast, hmost⟩ := ih hbalanced (by omega) fun _ _ henters => hsections _ _ (.move henters)
    rw [run_move]
    refine ⟨by omega, fun hsame => ?_⟩
    have := hmost fun _ _ henters => hsame _ _ (.move henters)
    omega
  | leave next ih =>
    have hpopped : scope.pop.blocks.length = scope.blocks.length - 1 := List.length_tail
    obtain ⟨hinBlock, hbalanced⟩ := hbalanced
    obtain ⟨hleast, hmost⟩ := ih hbalanced (by omega) fun _ _ henters => hsections _ _ (.leave henters)
    rw [run_leave]
    refine ⟨by omega, fun hsame => ?_⟩
    have := hmost fun _ _ henters => hsame _ _ (.leave henters)
    omega
  | render useInverse next ih =>
    have hkept : Scope.KeepsBlocks scope _ := hsections _ _ .here
    have hlonger := hkept.length_le
    obtain ⟨hleast, hmost⟩ := ih _ (hbalanced _) (by omega) fun _ _ henters => hsections _ _ (.later henters)
    rw [run_render]
    refine ⟨by dsimp only; omega, fun hsame => ?_⟩
    have hunchanged : Scope.SameBlocks scope _ := hsame _ _ .here
    have := hmost fun _ _ henters => hsame _ _ (.later henters)
    rw [hunchanged] at this
    exact this

/-- A section that adds blocks makes the whole plan add blocks. -/
theorem Balanced.length_lt (hbalanced : plan.Balanced left height) (hhigh : height ≤ scope.blocks.length)
    (hsections : ∀ (useInverse : Bool) inner,
      (Invocation.textOf (if useInverse then inverse else body)).Moves Scope.KeepsBlocks inner)
    {useInverse : Bool} (henters : plan.Enters body inverse scope useInverse inner)
    (hlonger : inner.blocks.length <
      (Invocation.textOf (if useInverse then inverse else body) inner).2.blocks.length) :
    scope.blocks.length < (plan.run body inverse scope).2.blocks.length + height := by
  induction henters generalizing height with
  | @enter block next _ scope _ _ ih =>
    have hpushed : (scope.push block).blocks.length = scope.blocks.length + 1 := rfl
    have := ih hbalanced (by omega) hlonger
    rw [run_enter]
    omega
  | @move change next _ scope _ _ ih =>
    have hmoved := scope.length_updateBlock change
    obtain ⟨hinBlock, hbalanced⟩ := hbalanced
    have := ih hbalanced (by omega) hlonger
    rw [run_move]
    omega
  | @leave next _ scope _ _ ih =>
    have hpopped : scope.pop.blocks.length = scope.blocks.length - 1 := List.length_tail
    obtain ⟨hinBlock, hbalanced⟩ := hbalanced
    have := ih hbalanced (by omega) hlonger
    rw [run_leave]
    omega
  | @here next first scope =>
    rw [run_render]
    revert hlonger
    rcases Invocation.textOf (if first then inverse else body) scope with ⟨result, after⟩
    intro hlonger
    have hhigh : height ≤ after.blocks.length := Nat.le_trans hhigh (Nat.le_of_lt hlonger)
    have hleast := ((hbalanced result).length hhigh fun useInverse inner _ => hsections useInverse inner).1
    exact Nat.lt_of_lt_of_le hlonger (Nat.le_of_add_right_le hleast)
  | @later next first _ scope _ _ ih =>
    have hkept : Scope.KeepsBlocks scope _ := hsections first scope
    have := hkept.length_le
    have := ih (hbalanced _) (by omega) hlonger
    rw [run_render]
    dsimp only
    omega

end CallPlan

namespace Invocation

variable {env : Environment} {call : Invocation} {scope : Scope}

/-- The call fails inside a block that it has entered itself, and leaves the block on the stack. -/
def LeavesBlock (call : Invocation) (env : Environment) (scope : Scope) : Prop :=
  call.entersBlock = true ∧ ∃ failure, (call.run env scope).1 = .error failure

theorem leftAfter_blocksLeft : 0 < leftAfter call.blocksLeft (call.run env scope).1 ↔
    call.LeavesBlock env scope := by
  unfold LeavesBlock blocksLeft
  cases (call.run env scope).1 with
  | ok outcome => simp [leftAfter]
  | error failure => cases call.entersBlock <;> simp [leftAfter]

theorem keepsBlocks_run (hsections : ∀ useInverse inner, call.Enters env scope useInverse inner →
    (call.sectionOf useInverse).Moves Scope.KeepsBlocks inner) :
    (call.run env).Moves Scope.KeepsBlocks scope := by
  rw [run_plan]
  exact balanced_plan.keeps (List.suffix_refl _) (Nat.le_refl _) hsections

/-- The stack after a call whose sections keep it: what was there, and the block left if the call fails
inside it. -/
theorem length_run (hsections : ∀ useInverse inner, call.Enters env scope useInverse inner →
    (call.sectionOf useInverse).Moves Scope.KeepsBlocks inner) :
    scope.blocks.length + leftAfter call.blocksLeft (call.run env scope).1 ≤
        (call.run env scope).2.blocks.length ∧
      ((∀ useInverse inner, call.Enters env scope useInverse inner →
          (call.sectionOf useInverse).Moves Scope.SameBlocks inner) →
        (call.run env scope).2.blocks.length =
          scope.blocks.length + leftAfter call.blocksLeft (call.run env scope).1) := by
  rw [run_plan]
  exact balanced_plan.length (Nat.zero_le _) hsections

theorem sameBlocks_run (hsections : ∀ useInverse inner, call.Enters env scope useInverse inner →
    (call.sectionOf useInverse).Moves Scope.SameBlocks inner) (hsettled : ¬ call.LeavesBlock env scope) :
    (call.run env).Moves Scope.SameBlocks scope := by
  have hkeeping useInverse inner (henters : call.Enters env scope useInverse inner) :
      (call.sectionOf useInverse).Moves Scope.KeepsBlocks inner :=
    Scope.SameBlocks.keeps (hsections useInverse inner henters)
  have hlength := (length_run hkeeping).2 hsections
  rw [← leftAfter_blocksLeft] at hsettled
  exact (keepsBlocks_run hkeeping).same (by omega)

end Invocation

/-! ## Evaluations -/

namespace Render

variable {α β : Type} {x : Render α} {f : α → Render β} {scope after : Scope}

/-- A computation leaves more blocks than it started with. -/
def Grows (x : Render α) (scope : Scope) : Prop := scope.blocks.length < (x scope).2.blocks.length

theorem Grows.bind (hgrows : x.Grows scope)
    (hnext : ∀ a after, x scope = (.ok a, after) → (f a).Moves Scope.KeepsBlocks after) :
    (x >>= f).Grows scope := by
  unfold Grows at hgrows ⊢
  rcases hran : x scope with ⟨failure | a, last⟩ <;> rw [hran] at hgrows
  · rw [bind_error hran]
    exact hgrows
  · rw [bind_ok hran]
    have hkept : Scope.KeepsBlocks last _ := hnext a last hran
    exact Nat.lt_of_lt_of_le hgrows hkept.length_le

theorem Grows.next {a : α} (hran : x scope = (.ok a, after)) (hkeeps : x.Moves Scope.KeepsBlocks scope)
    (hgrows : (f a).Grows after) : (x >>= f).Grows scope := by
  rw [Moves, hran] at hkeeps
  rw [Grows, bind_ok hran]
  exact Nat.lt_of_le_of_lt hkeeps.length_le hgrows

theorem grows_bind_pure {g : α → β} : (x >>= fun a => pure (g a)).Grows scope ↔ x.Grows scope := by
  unfold Grows
  rcases hran : x scope with ⟨failure | a, last⟩
  · rw [bind_error hran]
  · rw [bind_ok hran]
    rfl

theorem grows_within {position : Option Position} {name : Option String} :
    Grows (tryCatch x fun failure => throw (failure.within position name)) scope ↔ x.Grows scope := by
  rw [Grows, run_within, Grows]

end Render

/-- A call that fails inside its own block leaves the block on the stack. -/
def Step.LeavesBlock (env : Environment) : Step → Prop
  | .call invocation scope => invocation.LeavesBlock env scope
  | _ => False

namespace Evaluation

variable {env : Environment}

/-- No evaluation takes away a block that it started with. -/
theorem keepsBlocks (evaluation : Evaluation) : evaluation.Moves env Scope.KeepsBlocks := by
  refine evaluation.moves Scope.isFlow_keepsBlocks fun step _ => ?_
  cases step with
  | call invocation scope => exact Invocation.keepsBlocks_run
  | bare name found => trivial
  | define title body scope => exact List.suffix_refl scope.blocks

/-- An evaluation leaves the stack as it was if no call on the way leaves a block. -/
theorem sameBlocks (evaluation : Evaluation)
    (hsettled : ∀ step, evaluation.Reaches env false step → ¬ step.LeavesBlock env) :
    evaluation.Moves env Scope.SameBlocks := by
  refine evaluation.moves Scope.isFlow_sameBlocks fun step hreaches => ?_
  cases step with
  | call invocation scope =>
    exact fun hsections => Invocation.sameBlocks_run hsections (hsettled _ hreaches)
  | bare name found => trivial
  | define title body scope => exact rfl

/-- An evaluation leaves more blocks than it started with. -/
def Grows (env : Environment) (evaluation : Evaluation) : Prop :=
  (evaluation.task.run env evaluation.limit).Grows evaluation.scope

end Evaluation

/-! ### Parts whose tags have no sections -/

/-- A `with` for a true value cannot fail if there is no section to fail. -/
theorem Invocation.run_with_of_body_none {env : Environment} {call : Invocation} {scope : Scope}
    {found : Found} (hnamed : call.name = "with") (hmissing : call.body = none)
    (hargument : call.arguments[0]? = some found) (htrue : found.value.isTrue false = true) :
    (call.run env scope).1 = .ok (.text "") := by
  have hplanned : call.plan env =
      .enter (call.withBlock found) (.thenWith false fun text => .leave (.write text)) := by
    unfold plan
    rw [hnamed]
    unfold withPlan withArgument
    rw [hargument]
    exact if_pos htrue
  rw [run_plan, hplanned, hmissing]
  rfl

theorem Invocation.not_leavesBlock_of_body_none {env : Environment} {call : Invocation} {scope : Scope}
    (hmissing : call.body = none) : ¬ call.LeavesBlock env scope := by
  rintro ⟨henters, failure, hran⟩
  unfold entersBlock at henters
  split at henters
  next =>
    unfold repeats at henters
    rw [hmissing] at henters
    split at henters
    · cases henters
    · cases henters
  next =>
    split at henters
    next hnamed =>
      obtain ⟨found, hargument, htrue⟩ := (Option.any_eq_true _ _).mp henters
      rw [run_with_of_body_none hnamed hmissing hargument htrue] at hran
      cases hran
    next => cases henters

/-- An element without a section of its own. -/
def Element.IsFlat : Element → Prop
  | .text _ | .expression _ => True
  | .inclusion _ _ own => own = .absent
  | _ => False

/-- A section whose elements have no sections. -/
def Body.IsFlat : Body → Prop
  | .nil => True
  | .cons _ element rest => element.IsFlat ∧ rest.IsFlat

/-- A missing section, or one whose elements have no sections. -/
def Branch.IsFlat : Branch → Prop
  | .absent => True
  | .present body => body.IsFlat

/-- A part in which no tag has a section. -/
def Task.IsFlat : Task → Prop
  | .callee _ | .operands _ | .parts _ => True
  | .tag _ _ _ own inverse => own = .absent ∧ inverse = .absent
  | .section branch => branch.IsFlat
  | .element e => e.IsFlat
  | .body _ b => b.IsFlat
  | .declarations _ => False

namespace Evaluation

variable {env : Environment} {evaluation part : Evaluation} {step : Step}

theorem Starts.isFlat (hstarts : evaluation.Starts env false part) (hflat : evaluation.task.IsFlat) :
    part.task.IsFlat := by
  cases hstarts with
  | operands | callee | arguments | named | parts | bareCallee | bareValue | decorator | inclusion =>
    trivial
  | computed | operand | bareCall | expression => exact ⟨rfl, rfl⟩
  | @«section» _ _ _ _ _ _ _ useInverse =>
    obtain ⟨rfl, rfl⟩ := hflat
    cases useInverse <;> trivial
  | anonymous => exact hflat
  | first => exact hflat.1
  | rest => exact hflat.2
  | included hwithin => cases hwithin
  | declarations => cases hflat
  | block => exact hflat.elim
  | declaration => exact hflat.elim
  | declared => exact hflat.elim

theorem Reaches.settled_of_isFlat (hreaches : evaluation.Reaches env false step)
    (hflat : evaluation.task.IsFlat) : ¬ step.LeavesBlock env := by
  induction hreaches with
  | here hperforms =>
    cases hperforms with
    | call hprepared =>
      obtain ⟨rfl, rfl⟩ := hflat
      exact Invocation.not_leavesBlock_of_body_none rfl
    | bare => exact id
    | define => exact id
  | part hstarts _ ih => exact ih (hstarts.isFlat hflat)

theorem not_grows_of_isFlat (hflat : evaluation.task.IsFlat) : ¬ evaluation.Grows env := by
  intro hgrows
  have hsame : evaluation.scope.SameBlocks (evaluation.after env) :=
    evaluation.sameBlocks fun step hreaches => hreaches.settled_of_isFlat hflat
  exact Nat.ne_of_lt hgrows (congrArg List.length hsame).symm

end Evaluation

/-! ### The stack after an evaluation -/

section

variable {env : Environment} {limit : Nat} {call : Call} {scope inner : Scope}

theorem Invocation.grows_run {call : Invocation} {useInverse : Bool}
    (hsections : ∀ useInverse inner, (call.sectionOf useInverse).Moves Scope.KeepsBlocks inner)
    (henters : call.Enters env scope useInverse inner) (hgrows : (call.sectionOf useInverse).Grows inner) :
    (call.run env).Grows scope := by
  rw [run_plan]
  exact balanced_plan.length_lt (Nat.zero_le _) hsections henters hgrows

theorem Invocation.grows_of_leavesBlock {call : Invocation}
    (hsections : ∀ useInverse inner, (call.sectionOf useInverse).Moves Scope.KeepsBlocks inner)
    (hleaves : call.LeavesBlock env scope) : (call.run env).Grows scope := by
  have hleft := leftAfter_blocksLeft.mpr hleaves
  have hleast : scope.blocks.length + leftAfter call.blocksLeft (call.run env scope).1 ≤
      (call.run env scope).2.blocks.length := (length_run fun _ _ _ => hsections _ _).1
  rw [Render.Grows]
  omega

theorem Invocation.keepsBlocks_ofTag (prepared : Invocation) (binders : Binders) (isBlock : Bool)
    (body inverse : Branch) (useInverse : Bool) (inner : Scope) :
    ((prepared.ofTag env limit binders isBlock body inverse).sectionOf useInverse).Moves
      Scope.KeepsBlocks inner := by
  cases useInverse with
  | true => exact Evaluation.keepsBlocks ⟨limit, .section inverse, inner⟩
  | false => exact Evaluation.keepsBlocks ⟨limit, .section body, inner⟩

theorem Call.grows_invoke {binders : Binders} {isBlock : Bool} {body inverse : Option (Render String)} :
    (call.invoke env binders isBlock body inverse).Grows scope ↔
      (call.outcome env binders isBlock body inverse).Grows scope := by
  rw [Call.invoke_eq, Render.grows_bind_pure]

theorem Element.keepsBlocks_declare (element : Element) :
    (element.declare env).Moves Scope.KeepsBlocks scope := by
  cases element with
  | decorator call own =>
    have hkeeps : Evaluation.Moves env Scope.KeepsBlocks _ :=
      Evaluation.keepsBlocks ⟨0, .element (.decorator call own), scope⟩
    rw [Evaluation.Moves, Task.run_decorator] at hkeeps
    exact Render.moves_bind_pure.mp hkeeps
  | _ => exact List.suffix_refl _

end

namespace Evaluation

variable {env : Environment} {evaluation part : Evaluation} {step : Step}

/-- A part that leaves more blocks makes the evaluation leave more blocks. -/
theorem Starts.grows (hstarts : evaluation.Starts env false part) (hgrows : part.Grows env) :
    evaluation.Grows env := by
  cases hstarts with
  | computed | operand | operands | callee | arguments | named | parts | bareCallee | bareCall
  | bareValue | expression | decorator | inclusion =>
    exact absurd hgrows (not_grows_of_isFlat (by simp [Task.IsFlat]))
  | @«section» limit call _ _ body inverse _ useInverse scope _ inner hprepared henters =>
    refine Call.grows_invoke.mpr (.next hprepared (keepsBlocks ⟨limit, .parts call, scope⟩) ?_)
    refine Invocation.grows_run (Invocation.keepsBlocks_ofTag _ _ _ _ _) henters ?_
    cases useInverse with
    | true => exact hgrows
    | false => exact hgrows
  | anonymous => exact .next rfl (List.suffix_refl _) hgrows
  | block => exact hgrows
  | @declarations limit call _ _ _ scope _ hprepared =>
    rw [Evaluation.Grows, Task.run_inclusion]
    refine .next hprepared (keepsBlocks ⟨limit, .parts call, scope⟩) (.bind hgrows fun _ later _ => ?_)
    exact Invocation.moves_include Scope.isFlow_keepsBlocks _ _ _ _
  | included hwithin => cases hwithin
  | @declaration limit position call own rest scope =>
    rw [Evaluation.Grows, Task.run_decorator] at hgrows
    rw [Evaluation.Grows, Task.run_declarations]
    refine .bind (Render.grows_within.mpr (Render.grows_bind_pure.mp hgrows)) fun _ after _ => ?_
    exact keepsBlocks ⟨limit, .declarations rest, after⟩
  | @declared limit position element rest scope after hdeclared =>
    rw [Evaluation.Grows, Task.run_declarations]
    refine .next (Render.within_eq_ok.mpr hdeclared) (Render.moves_within.mpr ?_) hgrows
    exact element.keepsBlocks_declare
  | @first limit name position element rest scope =>
    refine .bind (Render.grows_within.mpr hgrows) fun text after _ => Render.moves_bind_pure.mpr ?_
    exact keepsBlocks ⟨limit, .body name rest, after⟩
  | @rest limit name position element rest text scope after hrendered =>
    refine .next (Render.within_eq_ok.mpr hrendered) (Render.moves_within.mpr ?_)
      (Render.grows_bind_pure.mpr hgrows)
    exact keepsBlocks ⟨limit, .element element, scope⟩

/-- A call that leaves a block makes the evaluation that makes the call leave more blocks. -/
theorem Performs.grows (hperforms : evaluation.Performs env step) (hleaves : step.LeavesBlock env) :
    evaluation.Grows env := by
  cases hperforms with
  | @call limit call _ _ _ _ _ scope _ hprepared =>
    refine Call.grows_invoke.mpr (.next hprepared (keepsBlocks ⟨limit, .parts call, scope⟩) ?_)
    exact Invocation.grows_of_leavesBlock (Invocation.keepsBlocks_ofTag _ _ _ _ _) hleaves
  | bare => exact hleaves.elim
  | define => exact hleaves.elim

theorem Reaches.grows (hreaches : evaluation.Reaches env false step) (hleaves : step.LeavesBlock env) :
    evaluation.Grows env := by
  induction hreaches with
  | here hperforms => exact hperforms.grows hleaves
  | part hstarts _ ih => exact hstarts.grows (ih hleaves)

/-- An evaluation leaves the stack as it was exactly if no call on the way leaves a block. -/
theorem sameBlocks_iff : evaluation.Moves env Scope.SameBlocks ↔
    ∀ step, evaluation.Reaches env false step → ¬ step.LeavesBlock env := by
  constructor
  · intro hsame step hreaches hleaves
    have hsame : evaluation.scope.SameBlocks (evaluation.after env) := hsame
    exact Nat.ne_of_lt (hreaches.grows hleaves) (congrArg List.length hsame).symm
  · exact evaluation.sameBlocks

end Evaluation

end EntityScaffold.Template
