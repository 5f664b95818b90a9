import EntityScaffold.Proofs.Template.Reading
import EntityScaffold.Template.Source

/-! # Calls of a source

A template calls only what its source says: of the calls in its elements, those that are written with a name are
written with a part of the source. Tags are cut out of the source, and putting elements together adds no calls.
-/

namespace EntityScaffold.Template

variable {source : List Char} {allows : Bool → Call → Bool}

/-! ## Tags -/

/-- The calls in a tag are allowed. -/
def Tag.callsOnly (allows : Bool → Call → Bool) : Tag → Bool
  | .expression call => allows false call && call.callsOnly allows
  | .openBlock call _ | .orElseBlock call _ | .openRaw call _ => allows true call && call.callsOnly allows
  | .decorator call | .openDecorator call | .inclusion call | .openInclusion call => call.callsOnly allows
  | .comment | .orElse | .closeRaw _ | .close .. => true

namespace Reader

/-- Text up to a stop is followed by the rest of the text. -/
theorem suffix_gapUntil (stop : List Char) (fuel : Nat) (cs : List Char) : (gapUntil stop fuel cs).2 <:+ cs := by
  fun_induction gapUntil stop fuel cs with
  | case1 | case6 => exact List.suffix_refl _
  | case2 => exact List.suffix_refl _
  | case3 fuel cs _ size gap rest heq ih =>
    rw [heq] at ih
    exact (ih.trans (List.drop_suffix _ _)).trans (List.suffix_cons _ _)
  | case4 fuel cs _ slashes _ gap rest heq ih =>
    rw [heq] at ih
    exact (ih.trans (List.drop_suffix _ _)).trans (List.suffix_cons _ _)
  | case5 fuel cs _ slashes _ gap rest heq ih =>
    rw [heq] at ih
    exact ih.trans (List.suffix_cons _ _)
  | case7 fuel c cs _ _ gap rest heq ih =>
    rw [heq] at ih
    exact ih.trans (List.suffix_cons _ _)

theorem stays_skipPast (stop : List Char) : (skipPast stop).Stays source := by
  have hgo : ∀ fuel cs, cs <:+: source → (skipPast.go stop cs fuel).Stays source := by
    intro fuel
    induction fuel with
    | zero =>
      intro cs _
      unfold skipPast.go
      exact within_reject
    | succ fuel ih =>
      intro cs hcs
      unfold skipPast.go
      split
      · exact stays_goto ((List.drop_suffix _ _).isInfix.trans hcs)
      · split
        · exact within_reject
        · exact ih _ ((List.suffix_cons _ _).isInfix.trans hcs)
  exact within_rest.bind fun cs hcs => hgo _ cs hcs

/-- A reader of tags with tildes reads only tags whose calls are allowed. -/
abbrev ReadsAllowed (source : List Char) (allows : Bool → Call → Bool) (reader : Reader TrimmedTag) : Prop :=
  reader.Within source fun t => t.tag.callsOnly allows = true

theorem stays_tilde : tilde.Stays source :=
  stays_blanks.skip fun _ => (stays_flag _).skip fun _ => stays_blanks.skip fun _ => within_pure trivial

theorem readsAllowed_between (opening closing : List Char) {inside : Reader Tag}
    (h : inside.Within source fun t => t.callsOnly allows = true) :
    ReadsAllowed source allows (between opening closing inside) :=
  (stays_exact _).skip fun _ => stays_tilde.skip fun _ => h.bind fun _ htag => stays_tilde.skip fun _ =>
    (stays_exact _).skip fun _ => within_pure htag

theorem readsAllowed_marked (mark : List Char) {inside : Reader Tag}
    (h : inside.Within source fun t => t.callsOnly allows = true) :
    ReadsAllowed source allows (marked mark inside) := by
  have hmarks : (marked.marks mark).Stays source := by
    induction mark with
    | nil => exact within_pure trivial
    | cons c mark ih => exact (stays_exact _).skip fun _ => stays_blanks.skip fun _ => ih
  exact readsAllowed_between _ _ (hmarks.skip fun _ => h)

theorem readsAllowed_comment : ReadsAllowed source allows comment := by
  refine (stays_exact _).skip fun _ => Within.skip (Within.either ?_ (stays_skipPast _)) fun _ => within_pure ?_
  · exact stays_blanks.skip fun _ => (stays_exact _).skip fun _ => stays_skipPast _
  · rfl

/-- What stands in a tag that prints. -/
theorem within_expression {call : Reader Call} (hcall : call.Within source (Call.IsAllowed allows)) :
    Within source (fun t => t.callsOnly allows = true) (do return Tag.expression (← call)) := by
  refine hcall.bind fun call hcall => within_pure ?_
  rw [Tag.callsOnly, hcall.1, hcall.2]
  rfl

/-- What stands in a tag that neither prints nor has a section of its own helper. -/
theorem within_plainTag {tag : Call → Tag} (htag : ∀ call, (tag call).callsOnly allows = call.callsOnly allows)
    {call : Reader Call} (hcall : call.Within source fun call => call.callsOnly allows = true) :
    Within source (fun t => t.callsOnly allows = true) (do return tag (← call)) :=
  hcall.bind fun call hcall => within_pure ((htag call).trans hcall)

/-- What stands in a tag with a section: a call, and the names that are bound. -/
theorem within_sectionTag {tag : Call → Binders → Tag}
    (htag : ∀ call binders, (tag call binders).callsOnly allows = (allows true call && call.callsOnly allows))
    (h : AllowsWritten source allows) : Within source (fun t => t.callsOnly allows = true) (do
      let call ← blockCall
      blanks
      return tag call (← binders)) := by
  refine (within_blockCall h).bind fun call hcall => stays_blanks.skip fun _ => stays_binders.skip fun names =>
    within_pure ?_
  rw [htag, hcall.1, hcall.2]
  rfl

section

variable (h : AllowsWritten source allows)
include h

theorem readsAllowed_alternative : ReadsAllowed source allows alternative := by
  have hkeyword : Stays source (either (exact ['e', 'l', 's', 'e']) (exact ['^'])) :=
    (stays_exact _).either (stays_exact _)
  refine (readsAllowed_between _ _ (hkeyword.skip fun _ => within_pure ?_)).either
    (readsAllowed_between _ _ (hkeyword.skip fun _ => stays_blanks.skip fun _ => ?_))
  · rfl
  · refine (within_blockCall h).bind fun call hcall => stays_blanks.skip fun _ => stays_binders.skip fun names =>
      within_pure ?_
    rw [Tag.callsOnly, hcall.1, hcall.2]
    rfl

theorem readsAllowed_printing : ReadsAllowed source allows printing := by
  have hinside := within_expression (within_expressionCall h)
  refine (readsAllowed_between _ _ hinside).either <| (readsAllowed_between _ _ hinside).either <|
    (readsAllowed_between _ _ ?_).either (readsAllowed_between _ _ ?_)
  · exact (stays_exact _).skip fun _ => stays_blanks.skip fun _ => hinside.bind fun tag htag =>
      stays_blanks.skip fun _ => (stays_exact _).skip fun _ => within_pure htag
  · exact (stays_exact _).skip fun _ => stays_blanks.skip fun _ => within_expression (within_nameCall h)

omit h in
theorem readsAllowed_closing : ReadsAllowed source allows closing := by
  refine (readsAllowed_marked _ ?_).either (readsAllowed_marked _ ?_)
  · refine within_identifier.stays.skip fun _ => within_pure ?_
    rfl
  · refine stays_templateName.skip fun _ => within_pure ?_
    rfl

theorem within_decoratorCall : tag.decoratorCall.Within source fun call => call.callsOnly allows = true :=
  (within_blockCall h).bind fun _ hcall => stays_blanks.skip fun _ => stays_binders.skip fun _ =>
    within_pure hcall.2

theorem readsAllowed_tag : ReadsAllowed source allows tag :=
  (readsAllowed_alternative h).either <| (readsAllowed_printing h).either <|
    (readsAllowed_marked _ (within_sectionTag (fun _ _ => rfl) h)).either <|
    readsAllowed_comment.either <|
    (readsAllowed_marked _ (within_plainTag (fun _ => rfl) (within_decoratorCall h))).either <|
    (readsAllowed_marked _ (within_plainTag (fun _ => rfl) (within_decoratorCall h))).either <|
    (readsAllowed_marked _ (within_plainTag (fun _ => rfl) (within_inclusionCall h))).either <|
    (readsAllowed_marked _ (within_plainTag (fun _ => rfl) (within_inclusionCall h))).either
      readsAllowed_closing

theorem readsAllowed_rawOpening : ReadsAllowed source allows rawOpening :=
  readsAllowed_between _ _ (within_sectionTag (fun _ _ => rfl) h)

omit h in
theorem readsAllowed_rawClosing : ReadsAllowed source allows rawClosing := by
  refine readsAllowed_between _ _ ((stays_exact _).skip fun _ => stays_blanks.skip fun _ =>
    within_identifier.stays.skip fun _ => within_pure ?_)
  rfl

end

end Reader

/-! ## Segments -/

/-- A tag is cut out of the source, and the rest of the source follows it. -/
theorem callsOnly_of_segment? {before : Gap} {position : Position} {reader : Reader TrimmedTag}
    {cs rest : List Char} {segment : Segment} (hreader : reader.ReadsAllowed source allows)
    (hcs : cs <:+: source) (h : segment? before position reader cs = some (segment, rest)) :
    segment.tag.callsOnly allows = true ∧ rest <:+: source := by
  unfold segment? at h
  split at h
  · next t cursor hread =>
    cases h
    exact (hreader hcs hread).symm
  · cases h

/-- The tags of a source call what is allowed. -/
theorem callsOnly_of_scanFrom (hallows : AllowsWritten source allows) {fuel : Nat} {p : Position}
    {cs : List Char} {scan : Scan} (hcs : cs <:+: source) (h : scanFrom fuel p cs = some scan) :
    ∀ segment ∈ scan.segments, segment.tag.callsOnly allows = true := by
  induction fuel generalizing p cs scan with
  | zero => cases h
  | succ fuel ih =>
    have htagged : (gapUntil openBraces (cs.length + 1) cs).2 <:+: source :=
      (Reader.suffix_gapUntil _ _ _).isInfix.trans hcs
    rw [scanFrom] at h
    dsimp only at h
    split at h
    · cases h
      nofun
    · split at h
      · next segment rest hsegment =>
        obtain ⟨htag, hrest⟩ := callsOnly_of_segment? (Reader.readsAllowed_tag hallows) htagged hsegment
        obtain ⟨later, hlater, hscan⟩ := Option.bind_eq_some_iff.1 h
        cases hscan
        exact List.forall_mem_cons.2 ⟨htag, ih hrest hlater⟩
      · obtain ⟨⟨opening, body⟩, hopening, h⟩ := Option.bind_eq_some_iff.1 h
        obtain ⟨⟨closing, rest⟩, hclosing, h⟩ := Option.bind_eq_some_iff.1 h
        obtain ⟨later, hlater, hscan⟩ := Option.bind_eq_some_iff.1 h
        cases hscan
        obtain ⟨hopen, hbody⟩ := callsOnly_of_segment? (Reader.readsAllowed_rawOpening hallows) htagged hopening
        obtain ⟨hclose, hrest⟩ := callsOnly_of_segment? Reader.readsAllowed_rawClosing
          ((Reader.suffix_gapUntil _ _ _).isInfix.trans hbody) hclosing
        exact List.forall_mem_cons.2 ⟨hopen, List.forall_mem_cons.2 ⟨hclose, ih hrest hlater⟩⟩

/-- White space around tags changes no tag. -/
theorem segments_layFrom (last : Gap) (atStart : Bool) (carry : Carry) (segments : List Segment) :
    (layFrom last atStart carry segments).1.map (·.segment) = segments := by
  induction segments generalizing atStart carry with
  | nil => rfl
  | cons segment rest ih =>
    unfold layFrom
    exact congrArg (segment :: ·) (ih _ _)

/-! ## Elements -/

/-- The calls in elements that are put together are allowed. -/
def Pending.CallsOnly (allows : Bool → Call → Bool) (pending : Pending) : Prop :=
  ∀ entry ∈ pending, entry.2.callsOnly allows = true

theorem callsOnly_ofList {elements : List (Option Position × Element)} :
    (Body.ofList elements).callsOnly allows = true ↔ ∀ entry ∈ elements, entry.2.callsOnly allows = true := by
  induction elements with
  | nil => exact iff_of_true rfl nofun
  | cons entry rest ih => rw [Body.ofList, Body.callsOnly, Bool.and_eq_true, ih, List.forall_mem_cons]

namespace Pending

variable {pending : Pending}

theorem CallsOnly.body (h : pending.CallsOnly allows) : pending.body.callsOnly allows = true :=
  callsOnly_ofList.2 fun entry he => h entry (List.mem_reverse.1 he)

theorem CallsOnly.text (h : pending.CallsOnly allows) (text : String) : (pending.text text).CallsOnly allows := by
  unfold Pending.text
  split
  · exact h
  · exact List.forall_mem_cons.2 ⟨rfl, h⟩

theorem CallsOnly.element (h : pending.CallsOnly allows) (position : Option Position) {element : Element}
    (helement : element.callsOnly allows = true) : CallsOnly allows ((position, element) :: pending) :=
  List.forall_mem_cons.2 ⟨helement, h⟩

theorem callsOnly_nil : CallsOnly allows [] := List.forall_mem_nil _

end Pending

/-- The call of a section is allowed, and so are the calls in the section. -/
def SectionAllowed (allows : Bool → Call → Bool) (entry : Call × Binders × Body) : Prop :=
  allows true entry.1 = true ∧ entry.1.callsOnly allows = true ∧ entry.2.2.callsOnly allows = true

/-- The calls in what is open are allowed. -/
def Opening.CallsOnly (allows : Bool → Call → Bool) : Opening → Prop
  | .block _ finished current =>
    (∀ entry ∈ finished, SectionAllowed allows entry) ∧
      ∀ entry, current = some entry → allows true entry.1 = true ∧ entry.1.callsOnly allows = true
  | .decorator call | .inclusion call _ => call.callsOnly allows = true

/-- The calls in an open block and before it are allowed. -/
def Frame.CallsOnly (allows : Bool → Call → Bool) (frame : Frame) : Prop :=
  frame.opening.CallsOnly allows ∧ frame.outer.CallsOnly allows

theorem Opening.callsOnly_block {call : Call} (name : String) (binders : Binders)
    (hcall : (allows true call && call.callsOnly allows) = true) :
    (Opening.block name [] (some (call, binders))).CallsOnly allows := by
  refine ⟨List.forall_mem_nil _, ?_⟩
  rintro _ ⟨⟩
  exact (Bool.and_eq_true _ _).mp hcall

/-- An alternative ends the open section, which is completed with the elements so far. -/
theorem Frame.CallsOnly.alternative {name : String} {finished : List (Call × Binders × Body)} {call : Call}
    {binders : Binders} {p : Position} {outer pending : Pending} {current : Option (Call × Binders)}
    (h : Frame.CallsOnly allows ⟨.block name finished (some (call, binders)), p, outer⟩)
    (hpending : pending.CallsOnly allows)
    (hcurrent : ∀ entry, current = some entry → allows true entry.1 = true ∧ entry.1.callsOnly allows = true) :
    Frame.CallsOnly allows ⟨.block name ((call, binders, pending.body) :: finished) current, p, outer⟩ := by
  obtain ⟨⟨hfinished, hopen⟩, houter⟩ := h
  obtain ⟨hallowed, hcall⟩ := hopen _ rfl
  have hclosed : SectionAllowed allows (call, binders, pending.body) := ⟨hallowed, hcall, hpending.body⟩
  exact ⟨⟨List.forall_mem_cons.2 ⟨hclosed, hfinished⟩, hcurrent⟩, houter⟩

theorem callsOnly_chainBlock {sections : List (Call × Binders × Body)} {inverse : Branch} {element : Element}
    (hsections : ∀ entry ∈ sections, SectionAllowed allows entry) (hinverse : inverse.callsOnly allows = true)
    (h : chainBlock inverse sections = some element) : element.callsOnly allows = true := by
  induction sections generalizing inverse with
  | nil => cases h
  | cons entry before ih =>
    obtain ⟨call, binders, body⟩ := entry
    obtain ⟨⟨hallowed, hcall, hbody⟩, hbefore⟩ := List.forall_mem_cons.1 hsections
    have hblock : (Element.block call binders body inverse).callsOnly allows = true := by
      rw [Element.callsOnly, hallowed, hcall, hbody, hinverse]
      rfl
    cases before with
    | nil =>
      cases h
      exact hblock
    | cons other others =>
      refine ih hbefore ?_ h
      rw [Branch.callsOnly, Body.callsOnly, hblock]
      rfl

theorem Opening.CallsOnly.close {opening : Opening} {pending : Pending} {element : Element}
    (hopening : opening.CallsOnly allows) (hpending : pending.CallsOnly allows)
    (h : opening.close pending = some element) : element.callsOnly allows = true := by
  cases opening with
  | block name finished current =>
    obtain ⟨hfinished, hcurrent⟩ := hopening
    cases current with
    | none =>
      have hlast : (Branch.present pending.body).callsOnly allows = true := hpending.body
      exact callsOnly_chainBlock hfinished hlast h
    | some entry =>
      obtain ⟨call, binders⟩ := entry
      obtain ⟨hallowed, hcall⟩ := hcurrent _ rfl
      exact callsOnly_chainBlock (List.forall_mem_cons.2 ⟨⟨hallowed, hcall, hpending.body⟩, hfinished⟩) rfl h
  | decorator call =>
    cases h
    exact Bool.and_eq_true_iff.2 ⟨hopening, hpending.body⟩
  | inclusion call indent =>
    cases h
    exact Bool.and_eq_true_iff.2 ⟨hopening, hpending.body⟩

theorem callsOnly_closeFrame {name : String} {pending after : Pending} {frames rest : List Frame}
    (hpending : pending.CallsOnly allows) (hframes : ∀ frame ∈ frames, frame.CallsOnly allows)
    (h : closeFrame name pending frames = .ok (after, rest)) :
    after.CallsOnly allows ∧ ∀ frame ∈ rest, frame.CallsOnly allows := by
  cases frames with
  | nil => cases h
  | cons frame frames =>
    obtain ⟨⟨hopening, houter⟩, hrest⟩ := List.forall_mem_cons.1 hframes
    unfold closeFrame at h
    dsimp only at h
    split at h
    · split at h
      · next element hclosed =>
        cases h
        exact ⟨houter.element _ (hopening.close hpending hclosed), hrest⟩
      · cases h
    · cases h

/-- What a tag makes of the elements so far and of what is open. -/
def advance (laid : Laid) (pending : Pending) (frames : List Frame) :
    Except SourceError (Pending × List Frame) :=
  let pending := pending.text laid.text
  let position := laid.segment.position
  match laid.segment.invalid with
  | some literal => .error (.invalidLiteral literal)
  | none => match laid.segment.tag, frames with
    | .comment, _ => .ok (pending, frames)
    | .expression call, _ => .ok ((some position, .expression call) :: pending, frames)
    | .decorator call, _ => .ok ((some position, .decorator call .absent) :: pending, frames)
    | .inclusion call, _ => .ok ((some position, .inclusion call laid.indent .absent) :: pending, frames)
    | .openBlock call binders, _ | .openRaw call binders, _ =>
      .ok ([], ⟨.block call.word [] (some (call, binders)), position, pending⟩ :: frames)
    | .openDecorator call, _ => .ok ([], ⟨.decorator call, position, pending⟩ :: frames)
    | .openInclusion call, _ => .ok ([], ⟨.inclusion call none, position, pending⟩ :: frames)
    | .closeRaw name, _ => closeFrame name pending frames
    | .close word template, _ => closeFrame (word.getD (template.getD "")) pending frames
    | .orElse, ⟨.block name finished (some (call, binders)), p, outer⟩ :: others =>
      .ok ([], ⟨.block name ((call, binders, pending.body) :: finished) none, p, outer⟩ :: others)
    | .orElseBlock next names, ⟨.block name finished (some (call, binders)), p, outer⟩ :: others =>
      .ok ([], ⟨.block name ((call, binders, pending.body) :: finished) (some (next, names)), p, outer⟩ :: others)
    | .orElse, _ | .orElseBlock .., _ => .error .malformed

/-- Elements are put together tag by tag. -/
theorem assemble_cons (final : String) (pending : Pending) (frames : List Frame) (laid : Laid)
    (rest : List Laid) : assemble final pending frames (laid :: rest) =
      (advance laid pending frames).bind fun (pending, frames) => assemble final pending frames rest := by
  rw [assemble]
  unfold advance
  cases laid.segment.invalid with
  | some literal => rfl
  | none =>
    cases laid.segment.tag with
    | closeRaw | close =>
      dsimp only
      generalize closeFrame _ (pending.text laid.text) frames = closed
      cases closed <;> rfl
    | orElse | orElseBlock =>
      -- Only an open section of a block has an alternative.
      obtain _ | ⟨⟨opening, p, outer⟩, others⟩ := frames
      · rfl
      · cases opening with
        | block name finished current => cases current <;> rfl
        | decorator => rfl
        | inclusion => rfl
    | _ => rfl

/-- A tag adds no calls to those in it. -/
theorem callsOnly_of_advance {laid : Laid} {pending after : Pending} {frames rest : List Frame}
    (htag : laid.segment.tag.callsOnly allows = true) (hpending : pending.CallsOnly allows)
    (hframes : ∀ frame ∈ frames, frame.CallsOnly allows)
    (h : advance laid pending frames = .ok (after, rest)) :
    after.CallsOnly allows ∧ ∀ frame ∈ rest, frame.CallsOnly allows := by
  have htext : (pending.text laid.text).CallsOnly allows := hpending.text laid.text
  have henter (opening : Opening) (hopening : opening.CallsOnly allows) : Pending.CallsOnly allows [] ∧
      ∀ frame ∈ ⟨opening, laid.segment.position, pending.text laid.text⟩ :: frames,
        Frame.CallsOnly allows frame :=
    ⟨Pending.callsOnly_nil, List.forall_mem_cons.2 ⟨⟨hopening, htext⟩, hframes⟩⟩
  unfold advance at h
  cases hinvalid : laid.segment.invalid with
  | some literal =>
    simp only [hinvalid] at h
    cases h
  | none =>
    simp only [hinvalid] at h
    cases hkind : laid.segment.tag <;> simp only [hkind] at htag h
    case comment =>
      cases h
      exact ⟨htext, hframes⟩
    case expression call =>
      cases h
      exact ⟨htext.element _ htag, hframes⟩
    case decorator call =>
      cases h
      exact ⟨htext.element _ (Bool.and_eq_true_iff.2 ⟨htag, rfl⟩), hframes⟩
    case inclusion call =>
      cases h
      exact ⟨htext.element _ (Bool.and_eq_true_iff.2 ⟨htag, rfl⟩), hframes⟩
    case openBlock call binders | openRaw call binders =>
      cases h
      exact henter (.block call.word [] (some (call, binders))) (Opening.callsOnly_block _ _ htag)
    case openDecorator call =>
      cases h
      exact henter (.decorator call) htag
    case openInclusion call =>
      cases h
      exact henter (.inclusion call none) htag
    case closeRaw name => exact callsOnly_closeFrame htext hframes h
    case close word template => exact callsOnly_closeFrame htext hframes h
    case orElse =>
      obtain _ | ⟨⟨opening, p, outer⟩, others⟩ := frames
      · cases h
      · cases opening with
        | decorator | inclusion => cases h
        | block name finished current =>
          obtain _ | ⟨call, binders⟩ := current
          · cases h
          · cases h
            obtain ⟨hframe, hothers⟩ := List.forall_mem_cons.1 hframes
            exact ⟨Pending.callsOnly_nil, List.forall_mem_cons.2 ⟨hframe.alternative htext nofun, hothers⟩⟩
    case orElseBlock next names =>
      obtain _ | ⟨⟨opening, p, outer⟩, others⟩ := frames
      · cases h
      · cases opening with
        | decorator | inclusion => cases h
        | block name finished current =>
          obtain _ | ⟨call, binders⟩ := current
          · cases h
          · cases h
            obtain ⟨hframe, hothers⟩ := List.forall_mem_cons.1 hframes
            obtain ⟨-, hnext⟩ := Opening.callsOnly_block "" names htag
            exact ⟨Pending.callsOnly_nil, List.forall_mem_cons.2 ⟨hframe.alternative htext hnext, hothers⟩⟩

/-- Putting elements together adds no calls to those in the tags. -/
theorem callsOnly_of_assemble {final : String} {pending : Pending} {frames : List Frame} {all : List Laid}
    {body : Body} (htags : ∀ laid ∈ all, laid.segment.tag.callsOnly allows = true)
    (hpending : pending.CallsOnly allows) (hframes : ∀ frame ∈ frames, frame.CallsOnly allows)
    (h : assemble final pending frames all = .ok body) : body.callsOnly allows = true := by
  induction all generalizing pending frames with
  | nil =>
    unfold assemble at h
    split at h
    · cases h
      exact (hpending.text final).body
    · cases h
  | cons laid rest ih =>
    obtain ⟨htag, hrest⟩ := List.forall_mem_cons.1 htags
    rw [assemble_cons] at h
    cases hadvance : advance laid pending frames with
    | error e =>
      rw [hadvance] at h
      cases h
    | ok next =>
      rw [hadvance] at h
      obtain ⟨hpending, hframes⟩ := callsOnly_of_advance htag hpending hframes hadvance
      exact ih hrest hpending hframes h

/-! ## Templates -/

/-- Of the calls in a template those that are written with a name are written with a part of its source. -/
theorem callsOnly_of_parse {source : String} {body : Body} (hallows : AllowsWritten source.toList allows)
    (h : parse source = .ok body) : body.callsOnly allows = true := by
  unfold parse at h
  split at h
  · cases h
  · next scan hscan =>
    split at h
    · have htags := callsOnly_of_scanFrom hallows (List.infix_refl _) hscan
      have hsame : scan.lay.1.map (·.segment) = scan.segments := segments_layFrom ..
      refine callsOnly_of_assemble (fun laid hlaid => htags _ ?_) Pending.callsOnly_nil (List.forall_mem_nil _) h
      rw [← hsame]
      exact List.mem_map_of_mem hlaid
    · cases h

end EntityScaffold.Template
