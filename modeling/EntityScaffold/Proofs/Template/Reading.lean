import EntityScaffold.Proofs.Template.WrittenCalls
import EntityScaffold.Template.Scanner

/-! # Calls that are read

Whatever is read from a source was written there: readers go on within the source, and the names that they make
calls of are parts of it. So calls are allowed wherever they are read if those that are written with parts of
the source are.
-/

namespace EntityScaffold.Template

/-! ## Reading within a source -/

namespace Reader

/-- Reading from a place in a source goes on in the source, and what is read has a property. -/
def Within {α : Type} (source : List Char) (holds : α → Prop) (reader : Reader α) : Prop :=
  ∀ ⦃cursor a after⦄, cursor.rest <:+: source → reader cursor = some (a, after) →
    after.rest <:+: source ∧ holds a

/-- Reading goes on in the source. -/
abbrev Stays {α : Type} (source : List Char) (reader : Reader α) : Prop :=
  reader.Within source fun _ => True

variable {α β : Type} {source : List Char} {holds : α → Prop} {holds' : β → Prop} {reader other : Reader α}

theorem Within.imp {wider : α → Prop} (h : reader.Within source holds) (himp : ∀ a, holds a → wider a) :
    reader.Within source wider := fun _ _ _ hrest hread => (h hrest hread).imp_right (himp _)

theorem Within.stays (h : reader.Within source holds) : reader.Stays source := h.imp fun _ _ => trivial

theorem within_pure {a : α} (h : holds a) : (pure a : Reader α).Within source holds := by
  intro cursor _ _ hrest hread
  cases hread
  exact ⟨hrest, h⟩

theorem Within.bind {next : α → Reader β} (h : reader.Within source holds)
    (hnext : ∀ a, holds a → (next a).Within source holds') : (reader >>= next).Within source holds' := by
  intro cursor b after hrest hread
  obtain ⟨⟨a, middle⟩, hfirst, hsecond⟩ := Option.bind_eq_some_iff.1 hread
  obtain ⟨hmiddle, ha⟩ := h hrest hfirst
  exact hnext a ha hmiddle hsecond

/-- What is read first does not matter. -/
theorem Within.skip {next : α → Reader β} (h : reader.Stays source)
    (hnext : ∀ a, (next a).Within source holds') : (reader >>= next).Within source holds' :=
  h.bind fun a _ => hnext a

theorem within_reject : (reject : Reader α).Within source holds := fun _ _ _ _ hread => by cases hread

theorem within_rest : rest.Within source (· <:+: source) := by
  intro cursor _ _ hrest hread
  cases hread
  exact ⟨hrest, hrest⟩

theorem stays_goto {cs : List Char} (h : cs <:+: source) : (goto cs).Stays source := by
  intro cursor _ _ _ hread
  cases hread
  exact ⟨h, trivial⟩

theorem stays_exact (expected : List Char) : (exact expected).Stays source := by
  refine within_rest.bind fun cs hcs => ?_
  split
  · exact stays_goto ((List.drop_suffix _ _).isInfix.trans hcs)
  · exact within_reject

theorem stays_flag (expected : List Char) : (flag expected).Stays source := by
  refine within_rest.bind fun cs hcs => ?_
  split
  · exact (stays_goto ((List.drop_suffix _ _).isInfix.trans hcs)).skip fun _ => within_pure trivial
  · exact within_pure trivial

theorem stays_blanks : blanks.Stays source :=
  within_rest.bind fun _ hcs => stays_goto ((List.dropWhile_suffix _).isInfix.trans hcs)

/-- A run of characters is a part of the source. -/
theorem within_run (p : Char → Bool) : (run p).Within source (· <:+: source) :=
  within_rest.bind fun _ hcs => (stays_goto ((List.dropWhile_suffix _).isInfix.trans hcs)).skip fun _ =>
    within_pure ((List.takeWhile_prefix _).isInfix.trans hcs)

theorem within_run1 (p : Char → Bool) : (run1 p).Within source (· <:+: source) := by
  refine (within_run p).bind fun cs hcs => ?_
  split
  · exact within_reject
  · exact within_pure hcs

theorem Within.optional (h : reader.Within source holds) :
    (optional reader).Within source fun a? => ∀ a, a? = some a → holds a := by
  intro cursor a? after hrest hread
  unfold Reader.optional at hread
  split at hread
  · next a middle hfound =>
    cases hread
    obtain ⟨hmiddle, ha⟩ := h hrest hfound
    exact ⟨hmiddle, fun _ hsome => Option.some_inj.1 hsome ▸ ha⟩
  · cases hread
    exact ⟨hrest, nofun⟩

theorem Within.either (h : reader.Within source holds) (h' : other.Within source holds) :
    (either reader other).Within source holds := by
  intro cursor a after hrest hread
  unfold Reader.either at hread
  split at hread
  · next result hfound =>
    cases hread
    exact h hrest hfound
  · exact h' hrest hread

theorem Within.many (h : reader.Within source holds) (fuel : Nat) :
    (many reader fuel).Within source fun all => ∀ a ∈ all, holds a := by
  induction fuel with
  | zero => exact within_pure nofun
  | succ fuel ih =>
    refine h.optional.bind fun a? ha? => ?_
    cases a? with
    | none => exact within_pure nofun
    | some a => exact ih.bind fun all hall => within_pure (List.forall_mem_cons.2 ⟨ha? a rfl, hall⟩)

theorem stays_optional (h : reader.Stays source) : (optional reader).Stays source := h.optional.stays

theorem stays_many (h : reader.Stays source) (fuel : Nat) : (many reader fuel).Stays source := (h.many fuel).stays

/-- The written form of what is read is a part of the source. -/
theorem Within.written (h : reader.Stays source) : (written reader).Within source fun a => a.2 <:+: source :=
  within_rest.bind fun _ hbefore => h.skip fun _ => within_rest.bind fun _ _ =>
    within_pure ((List.take_prefix _ _).isInfix.trans hbefore)

/-! ## Names and paths -/

theorem isInfix_ofList {cs : List Char} (h : cs <:+: source) : (String.ofList cs).toList <:+: source := by
  rwa [String.toList_ofList]

theorem within_identifier : identifier.Within source fun name => name.toList <:+: source :=
  (within_run1 _).bind fun _ hcs => within_pure (isInfix_ofList hcs)

/-- What stands in quotes is followed by the closing one. -/
theorem eq_append_of_quotedRest {cs inner rest : List Char} (h : quotedRest cs = some (inner, rest)) :
    cs = inner ++ '\'' :: rest := by
  fun_induction quotedRest cs generalizing inner rest with
  | case1 => cases h
  | case2 cs ih =>
    obtain ⟨⟨inner', rest'⟩, hfound, hpair⟩ := Option.map_eq_some_iff.1 h
    cases hpair
    rw [ih hfound]
    rfl
  | case3 cs =>
    cases h
    rfl
  | case4 c cs _ _ ih =>
    obtain ⟨⟨inner', rest'⟩, hfound, hpair⟩ := Option.map_eq_some_iff.1 h
    cases hpair
    rw [ih hfound]
    rfl

theorem stays_separator : separator.Stays source := (stays_exact _).either (stays_exact _)

theorem stays_step : step.Stays source := by
  refine ((within_run1 _).stays.either ?_).skip fun _ => within_pure trivial
  exact (stays_exact _).skip fun _ => (within_run _).stays.skip fun _ => (stays_exact _).skip fun _ =>
    within_pure trivial

/-- A path is written as it stands in the source. -/
theorem within_path : path.Within source fun p => p.written.toList <:+: source := by
  refine (Within.written ?_).bind ?_
  · refine (stays_optional ?_).skip fun _ => ?_
    · exact ((stays_exact _).skip fun _ => stays_separator).either (stays_exact _)
    refine (stays_optional ((stays_exact _).skip fun _ => stays_separator)).skip fun _ => ?_
    refine (stays_flag _).skip fun _ => within_rest.stays.skip fun _ => ?_
    refine (stays_many ((stays_exact _).skip fun _ => stays_separator) _).skip fun _ => ?_
    refine stays_step.skip fun _ => (stays_many (stays_separator.skip fun _ => stays_step) _).skip fun _ => ?_
    exact within_pure trivial
  · rintro ⟨⟨fromRoot, isLocal, ups, keys⟩, text⟩ htext
    exact within_pure (isInfix_ofList htext)

theorem stays_templateName : templateName.Stays source := by
  refine ((within_run1 _).stays.either ?_).skip fun _ => within_pure trivial
  refine (stays_exact _).skip fun _ => within_rest.bind fun cs hcs => ?_
  split
  · next c inner after hquoted =>
    refine (stays_goto ?_).skip fun _ => within_pure trivial
    rw [eq_append_of_quotedRest hquoted] at hcs
    exact ((List.suffix_cons _ _).trans (List.suffix_append _ _)).isInfix.trans hcs
  · exact within_reject

/-! ## Literals -/

theorem stays_endOfWord : endOfWord.Stays source := by
  refine within_rest.bind fun cs _ => ?_
  split
  · split
    · exact within_reject
    · exact within_pure trivial
  · exact within_pure trivial

theorem stays_numberLiteral : numberLiteral.Stays source := by
  refine (stays_flag _).skip fun _ => (within_run1 _).stays.skip fun _ => (stays_flag _).skip fun _ => ?_
  refine (within_run _).stays.skip fun _ => (stays_optional ?_).skip fun _ => stays_endOfWord
  exact (stays_exact _).skip fun _ => (stays_flag _).skip fun _ => (within_run1 _).stays.skip fun _ =>
    within_pure trivial

/-- A string ends within the text. -/
theorem suffix_of_stringRest {quote : Char} {fuel : Nat} {cs after : List Char}
    (h : stringRest quote fuel cs = some after) : after <:+ cs := by
  fun_induction stringRest quote fuel cs with
  | case1 | case2 | case4 | case6 | case8 => cases h
  | case3 fuel a b c d rest _ ih => exact (ih h).trans (List.suffix_append ['\\', 'u', a, b, c, d] rest)
  | case5 fuel c rest _ _ ih => exact (ih h).trans (List.suffix_append ['\\', c] rest)
  | case7 fuel rest =>
    cases h
    exact List.suffix_cons _ _
  | case9 fuel c rest _ _ _ _ ih => exact (ih h).trans (List.suffix_cons _ _)

theorem stays_stringLiteral : stringLiteral.Stays source := by
  refine within_rest.bind fun cs hcs => ?_
  split
  · split
    · split
      · next after hafter =>
        exact stays_goto (((suffix_of_stringRest hafter).trans (List.suffix_cons _ _)).isInfix.trans hcs)
      · exact within_reject
    · exact within_reject
  · exact within_reject

theorem stays_literalSpan (fuel : Nat) : (literalSpan fuel).Stays source := by
  induction fuel with
  | zero => exact within_reject
  | succ fuel ih =>
    have hfield : Stays source (do stringLiteral; blanks; exact [':']; blanks; literalSpan fuel) :=
      stays_stringLiteral.skip fun _ => stays_blanks.skip fun _ => (stays_exact _).skip fun _ =>
        stays_blanks.skip fun _ => ih
    have hword (letters : List Char) : Stays source (do exact letters; endOfWord) :=
      (stays_exact _).skip fun _ => stays_endOfWord
    have hmore {item : Reader Unit} (h : item.Stays source) :
        Stays source (do blanks; exact [',']; blanks; item) :=
      stays_blanks.skip fun _ => (stays_exact _).skip fun _ => stays_blanks.skip fun _ => h
    have henclosed (opening closing : List Char) {item : Reader Unit} (h : item.Stays source) :
        Stays source (do
          exact opening
          blanks
          let _ ← optional item
          let _ ← many (do blanks; exact [',']; blanks; item) fuel
          blanks
          exact closing) :=
      (stays_exact _).skip fun _ => stays_blanks.skip fun _ => (stays_optional h).skip fun _ =>
        (stays_many (hmore h) _).skip fun _ => stays_blanks.skip fun _ => stays_exact _
    exact stays_stringLiteral.either <| (henclosed _ _ ih).either <| (henclosed _ _ hfield).either <|
      stays_numberLiteral.either <| (hword _).either <| (hword _).either (hword _)

theorem stays_literal : literal.Stays source := by
  refine within_rest.bind fun cs _ => (Within.written (stays_literalSpan _)).bind ?_
  rintro ⟨_, text⟩ -
  dsimp only
  split
  · exact within_pure trivial
  · intro cursor _ _ hrest hread
    cases hread
    exact ⟨hrest, trivial⟩

/-! ## Calls -/

theorem stays_notKeyword : notKeyword.Stays source := by
  intro cursor _ _ hrest hread
  obtain ⟨-, hread⟩ := Option.ite_none_left_eq_some.1 hread
  cases hread
  exact ⟨hrest, trivial⟩

end Reader

/-- Calls are allowed if they are written with a part of the source, and also if their names are computed. -/
def AllowsWritten (source : List Char) (allows : Bool → Call → Bool) : Prop :=
  ∀ isBlock call, (∀ name, call.callee.writtenName? = some name → name.toList <:+: source) →
    allows isBlock call = true

/-- A call is allowed as a tag with or without a section, and so are the calls in it. -/
def Call.IsAllowed (allows : Bool → Call → Bool) (call : Call) : Prop :=
  (∀ isBlock, allows isBlock call = true) ∧ call.callsOnly allows = true

theorem namedCallOnly_iff {allows : Bool → Call → Bool} {named : List (String × Operand)} :
    namedCallOnly allows named = true ↔ ∀ entry ∈ named, entry.2.callsOnly allows = true := by
  induction named with
  | nil => simp [namedCallOnly]
  | cons entry rest ih => rw [namedCallOnly, Bool.and_eq_true, ih, List.forall_mem_cons]

section

variable {source : List Char} {allows : Bool → Call → Bool}

/-- The operands of a call, with and without names, call only what is allowed. -/
def OperandsAllowed (allows : Bool → Call → Bool) (operands : List Operand × List (String × Operand)) : Prop :=
  operandsCallOnly allows operands.1 = true ∧ namedCallOnly allows operands.2 = true

/-- A call by a part of the source, with operands that call only what is allowed, is allowed. -/
theorem AllowsWritten.isAllowed (h : AllowsWritten source allows) {callee : Callee}
    (operands : List Operand × List (String × Operand))
    (hname : ∀ name, callee.writtenName? = some name → name.toList <:+: source)
    (hcallee : callee.callsOnly allows = true) (hoperands : OperandsAllowed allows operands) :
    (Call.mk callee operands.1 operands.2).IsAllowed allows := by
  refine ⟨fun isBlock => h isBlock _ hname, ?_⟩
  rw [Call.callsOnly, hcallee, hoperands.1, hoperands.2]
  rfl

theorem AllowsWritten.isAllowed_word (h : AllowsWritten source allows) {name : String}
    {operands : List Operand × List (String × Operand)} (hname : name.toList <:+: source)
    (hoperands : OperandsAllowed allows operands) :
    (Call.mk (.word name) operands.1 operands.2).IsAllowed allows :=
  h.isAllowed operands (fun _ hsome => Option.some_inj.1 hsome ▸ hname) rfl hoperands

theorem AllowsWritten.isAllowed_path (h : AllowsWritten source allows) {p : Path}
    (hname : p.written.toList <:+: source) : (Call.mk (.path p) [] []).IsAllowed allows :=
  h.isAllowed ([], []) (fun _ hsome => Option.some_inj.1 hsome ▸ hname) rfl ⟨rfl, rfl⟩

namespace Reader

/-- One of the mutual readers of calls reads only what is allowed. -/
structure CallsAllowed (source : List Char) (allows : Bool → Call → Bool) (fuel : Nat) : Prop where
  operand : (operand fuel).Within source fun o => o.callsOnly allows = true
  parenthesized : (parenthesized fuel).Within source (Call.IsAllowed allows)
  callWithArguments : (callWithArguments fuel).Within source (Call.IsAllowed allows)
  arguments : (arguments fuel).Within source (OperandsAllowed allows)
  argument : (argument fuel).Within source fun a => a.2.callsOnly allows = true

namespace CallsAllowed

variable {fuel : Nat}

theorem operand_succ (ih : CallsAllowed source allows fuel) :
    (Reader.operand (fuel + 1)).Within source fun o => o.callsOnly allows = true := by
  refine stays_notKeyword.skip fun _ => ?_
  refine (stays_literal.skip fun _ => within_pure ?_).either <|
    (within_path.stays.skip fun _ => within_pure ?_).either <|
      ih.parenthesized.bind fun call hcall => within_pure ?_
  · rfl
  · rfl
  · rw [Operand.callsOnly, hcall.1, hcall.2]
    rfl

theorem parenthesized_succ (h : AllowsWritten source allows) (ih : CallsAllowed source allows fuel) :
    (Reader.parenthesized (fuel + 1)).Within source (Call.IsAllowed allows) := by
  refine (stays_exact _).skip fun _ => stays_blanks.skip fun _ => ?_
  refine (ih.callWithArguments.either ?_).bind fun call hcall => ?_
  · exact within_path.bind fun p hp => within_pure (h.isAllowed_path hp)
  · exact stays_blanks.skip fun _ => (stays_exact _).skip fun _ => within_pure hcall

theorem callWithArguments_succ (h : AllowsWritten source allows) (ih : CallsAllowed source allows fuel) :
    (Reader.callWithArguments (fuel + 1)).Within source (Call.IsAllowed allows) := by
  refine within_identifier.bind fun name hname => ih.arguments.bind ?_
  rintro ⟨arguments, named⟩ hoperands
  dsimp only
  split
  · exact Within.skip within_reject fun _ => within_pure (h.isAllowed_word hname hoperands)
  · exact within_pure (h.isAllowed_word hname hoperands)

/-- A named argument comes in among the others by its name, unless the name is there already. -/
theorem arguments_succ (ih : CallsAllowed source allows fuel) :
    (Reader.arguments (fuel + 1)).Within source (OperandsAllowed allows) := by
  refine ih.argument.optional.bind fun a? ha? => ?_
  cases a? with
  | none => exact within_pure ⟨rfl, rfl⟩
  | some a =>
    obtain ⟨name?, value⟩ := a
    refine ih.arguments.bind ?_
    rintro ⟨positional, named⟩ ⟨hpositional, hnamed⟩
    have hvalue : value.callsOnly allows = true := ha? _ rfl
    cases name? with
    | none =>
      refine within_pure ⟨?_, hnamed⟩
      rw [operandsCallOnly, hvalue, hpositional]
      rfl
    | some name =>
      refine within_pure ⟨hpositional, ?_⟩
      dsimp only
      split
      · exact hnamed
      · refine namedCallOnly_iff.2 fun entry he => ?_
        rcases mem_insertEntry he with rfl | he
        · exact hvalue
        · exact namedCallOnly_iff.1 hnamed entry he

theorem argument_succ (ih : CallsAllowed source allows fuel) :
    (Reader.argument (fuel + 1)).Within source fun a => a.2.callsOnly allows = true := by
  refine stays_blanks.skip fun _ => Within.either ?_ ?_
  · refine within_identifier.stays.skip fun _ => stays_blanks.skip fun _ => (stays_exact _).skip fun _ => ?_
    exact stays_blanks.skip fun _ => ih.operand.bind fun value hvalue => within_pure hvalue
  · exact ih.operand.bind fun value hvalue => within_pure hvalue

end CallsAllowed

theorem callsAllowed (h : AllowsWritten source allows) (fuel : Nat) : CallsAllowed source allows fuel := by
  induction fuel with
  | zero =>
    exact ⟨within_reject, within_reject, within_reject, within_pure ⟨rfl, rfl⟩, within_reject⟩
  | succ fuel ih =>
    exact ⟨ih.operand_succ, ih.parenthesized_succ h, ih.callWithArguments_succ h, ih.arguments_succ,
      ih.argument_succ⟩

theorem stays_callFuel : callFuel.Stays source := within_rest.stays.skip fun _ => within_pure trivial

theorem within_bareName (h : AllowsWritten source allows) (fuel : Nat) :
    (expressionCall.bareName fuel).Within source (Call.IsAllowed allows) := by
  refine Within.either ?_ ?_
  · refine (callsAllowed h fuel).parenthesized.bind fun call hcall => within_pure ?_
    refine h.isAllowed ([], []) nofun ?_ ⟨rfl, rfl⟩
    rw [Callee.callsOnly, hcall.1, hcall.2]
    rfl
  · exact within_path.bind fun p hp => within_pure (h.isAllowed_path hp)

theorem within_expressionCall (h : AllowsWritten source allows) :
    expressionCall.Within source (Call.IsAllowed allows) :=
  stays_callFuel.skip fun fuel => (callsAllowed h fuel).callWithArguments.either (within_bareName h fuel)

theorem within_nameCall (h : AllowsWritten source allows) : nameCall.Within source (Call.IsAllowed allows) :=
  stays_callFuel.skip fun fuel => within_bareName h fuel

theorem within_blockCall (h : AllowsWritten source allows) : blockCall.Within source (Call.IsAllowed allows) := by
  refine within_identifier.bind fun name hname => stays_callFuel.skip fun fuel => ?_
  refine (callsAllowed h fuel).arguments.bind ?_
  rintro ⟨arguments, named⟩ hoperands
  exact within_pure (h.isAllowed_word hname hoperands)

/-- An inclusion calls nothing but what its operands and its name do. -/
theorem within_inclusionCall (h : AllowsWritten source allows) :
    inclusionCall.Within source fun call => call.callsOnly allows = true := by
  have hcallee : Within source (fun callee => callee.callsOnly allows = true)
      (either (return .word (← templateName)) (return (← nameCall).callee)) := by
    refine (stays_templateName.skip fun _ => within_pure ?_).either <| (within_nameCall h).bind fun call hcall =>
      within_pure (Call.callsOnly_iff.1 hcall.2).1
    rfl
  refine hcallee.bind fun callee hcallee => stays_callFuel.skip fun fuel => ?_
  refine (callsAllowed h fuel).arguments.bind ?_
  rintro ⟨arguments, named⟩ ⟨harguments, hnamed⟩
  refine within_pure ?_
  rw [Call.callsOnly, hcallee, harguments, hnamed]
  rfl

theorem stays_binders : binders.Stays source := by
  refine (stays_optional ?_).skip fun _ => within_pure trivial
  refine (stays_exact _).skip fun _ => stays_blanks.skip fun _ => (stays_exact _).skip fun _ => ?_
  refine stays_blanks.skip fun _ => within_identifier.stays.skip fun _ => stays_blanks.skip fun _ => ?_
  refine (stays_optional within_identifier.stays).skip fun _ => stays_blanks.skip fun _ => ?_
  exact (stays_exact _).skip fun _ => within_pure trivial

end Reader

end

end EntityScaffold.Template
