import EntityScaffold.Proofs.Template.Fitting

/-! # What templates that fit print

A template that fits a shape is rendered for every value of the shape, and its text depends on the value alone:
it is the texts of its elements one after another, each the printed values and sections that the element asks
for. In what an included template prints, line breaks are followed by the indent of the inclusion.
-/

namespace EntityScaffold.Template

/-! ## Printed elements -/

/-- A text with an indent after its line breaks, if there is one. -/
def withIndent (indent : Option String) (text : String) : String :=
  match indent with
  | some indent => String.ofList (indentLines indent.toList text.toList)
  | none => text

namespace Call

/-- What a tag prints where a value is the current one: another value, or spaces. -/
def printed (indent : Option String) (value : Json) : Call → String
  | .mk (.path path) _ _ => withIndent indent (valueAt value path.keys).printed
  | .mk (.word _) (.literal count :: _) _ => String.ofList (List.replicate ((spacesCount? count).getD 0) ' ')
  | _ => ""

/-- What a block asks for. -/
def subject (value : Json) : Call → Json
  | .mk _ (.path path :: _) _ => valueAt value path.keys
  | _ => .null

end Call

section

variable (included : String → Option String → Json → String)

mutual

/-- What an element prints. `included` says what named templates print. -/
def Element.printed (indent : Option String) (value : Json) : Element → String
  | .text content => withIndent indent content
  | .expression call => call.printed indent value
  | .block call _ body inverse =>
    if call.callee.writtenName? = some "each" then
      String.join (((call.subject value).items?.getD []).map fun item => body.printed indent item)
    else if (call.subject value).isTrue false then body.printed indent value
    else inverse.printed indent value
  | .decorator _ _ => ""
  | .inclusion call inner _ => (call.included?.map fun name => included name inner value).getD ""

/-- What the elements of a section print. -/
def Body.printed (indent : Option String) (value : Json) : Body → String
  | .nil => ""
  | .cons _ element rest => element.printed indent value ++ rest.printed indent value

/-- What a section prints, if there is one. -/
def Branch.printed (indent : Option String) (value : Json) : Branch → String
  | .absent => ""
  | .present body => body.printed indent value

end

/-- What a named template prints, with inclusions nested at most to a depth. -/
def printedNamed (templates : List (String × Body)) : Nat → String → Option String → Json → String
  | 0, _, _, _ => ""
  | depth + 1, name, indent, value => match templates.lookup name with
    | some body => body.printed (printedNamed templates depth) indent value
    | none => ""

end

/-! ## Computations that give a result -/

namespace Render

variable {α β : Type} {x : Render α} {f : α → Render β} {scope : Scope} {a : α} {b : β}

/-- A computation gives a result and leaves the scope as it was, but for the name of the template whose
elements are rendered, which may be gone. -/
def Gives (x : Render α) (scope : Scope) (a : α) : Prop :=
  ∃ current, x scope = (.ok a, scope.titled current) ∧ (current = none ∨ current = scope.current)

theorem Gives.of_ok (h : x scope = (.ok a, scope)) : x.Gives scope a := ⟨scope.current, h, .inr rfl⟩

theorem Gives.bind (hx : x.Gives scope a)
    (hf : ∀ current, current = none ∨ current = scope.current → (f a).Gives (scope.titled current) b) :
    (x >>= f).Gives scope b := by
  obtain ⟨first, hrun, hfirst⟩ := hx
  obtain ⟨second, hnext, hsecond⟩ := hf first hfirst
  refine ⟨second, by rw [bind_ok hrun]; exact hnext, ?_⟩
  rcases hsecond with rfl | rfl
  · exact .inl rfl
  · exact hfirst

/-- What comes after a computation that leaves the scope as it is starts in the same scope. -/
theorem Gives.bind_ok (hx : x scope = (.ok a, scope)) (hf : (f a).Gives scope b) : (x >>= f).Gives scope b := by
  obtain ⟨current, hrun, hcurrent⟩ := hf
  exact ⟨current, by rw [Render.bind_ok hx]; exact hrun, hcurrent⟩

theorem Gives.map {g : α → β} (hx : x.Gives scope a) : (x >>= fun a => pure (g a)).Gives scope (g a) :=
  hx.bind fun _ _ => .of_ok rfl

theorem Gives.within {position : Option Position} {name : Option String} (hx : x.Gives scope a) :
    Gives (tryCatch x fun failure => throw (failure.within position name)) scope a := by
  obtain ⟨current, hrun, hcurrent⟩ := hx
  exact ⟨current, within_eq_ok.2 hrun, hcurrent⟩

end Render

section

variable {env : Environment} {helpers : List String} {templates : List (String × Body)}
  {title : Option String} {shape : Shape} {value : Json} {scope : Scope}

/-! ## Tags -/

theorem gives_indented (text : String) : (indented text).Gives scope (withIndent scope.indent text) := by
  refine .bind_ok (x := get) (a := scope) rfl ?_
  cases scope.indent with
  | none => exact .of_ok rfl
  | some indent => exact .of_ok rfl

/-- Spaces can be written in every scope. -/
theorem gives_spaces (henv : env.Provides helpers templates) {count : Json} {n : Nat}
    (hcount : spacesCount? count = some n) (hn : n ≤ maxSpaces) :
    (Call.print env (.mk (.word spacesName) [.literal count] [])).Gives scope
      (String.ofList (List.replicate n ' ')) := by
  have hspaces : spaces env.data [count] = .ok (String.ofList (List.replicate n ' ')) := by
    rw [spaces, hcount]
    exact if_neg (Nat.not_lt.2 hn)
  have hrun : Invocation.run ⟨spacesName, [.derived count], [], .none, false, none, none⟩ env scope =
      (.ok (.text (String.ofList (List.replicate n ' '))), scope) := by
    have hregistered : env.isRegistered spacesName = true := by
      rw [Environment.isRegistered, henv.spaces]
      rfl
    have hcall : Invocation.registered ⟨spacesName, [.derived count], [], .none, false, none, none⟩ env
        scope = (.ok (String.ofList (List.replicate n ' ')), scope) := by
      have hvalues : [Found.derived count].map Found.value = [count] := rfl
      rw [Invocation.registered, if_neg Bool.false_ne_true, henv.spaces, hvalues]
      dsimp only
      rw [hspaces]
      rfl
    rw [Invocation.run_of_notMem (show spacesName ∉ Environment.ownNames by decide), if_pos hregistered,
      Render.bind_ok hcall]
    rfl
  rw [Call.print_eq_of_not_bare env rfl]
  exact .map (a := Invocation.Outcome.text (String.ofList (List.replicate n ' '))) (.of_ok hrun)

theorem Call.gives_print (henv : env.Provides helpers templates) {call : Call}
    (hprints : call.prints helpers shape = true) (h : scope.Stands env.data title shape value) :
    (call.print env).Gives scope (call.printed scope.indent value) := by
  unfold prints at hprints
  split at hprints
  · next path =>
    rw [Bool.and_eq_true, Bool.not_eq_true', Option.isSome_iff_exists] at hprints
    obtain ⟨hname, inner, hp⟩ := hprints
    obtain ⟨place, heval, -⟩ := h.eval hp
    rw [Call.print_eq_of_bare env rfl]
    refine .bind_ok (a := path.written) rfl ?_
    rw [knows_eq_false henv hname, if_neg Bool.false_ne_true]
    exact .bind_ok heval (gives_indented _)
  · next name count =>
    rw [Bool.and_eq_true, beq_iff_eq, Option.any_eq_true] at hprints
    obtain ⟨rfl, n, hcount, hn⟩ := hprints
    rw [Call.printed, hcount]
    exact gives_spaces henv hcount (of_decide_eq_true hn)
  · cases hprints

/-! ## Conditions -/

/-- A condition renders one of its sections. -/
theorem gives_ifElse {call : Invocation} {found : Found} {text : String} (hfound : call.arguments = [found])
    (hnamed : call.named = [])
    (hsection : (Invocation.textOf (if found.value.isTrue false then call.body else call.inverse)).Gives scope
      text) : (call.ifElse true).Gives scope text := by
  refine .bind_ok (a := found) (by rw [Invocation.argument, hfound]; rfl) ?_
  rw [hnamed]
  dsimp only [List.lookup_nil, Option.bind_none, Option.getD_none]
  rw [beq_true]
  exact hsection

/-! ## Repetitions -/

/-- A block that stands for one item is moved on to another. -/
theorem moveTo_next {base : List String} {last : String} {value? : Option Json}
    {locals : List (String × Json)} {bound : List (String × Bound)} (step : String) (value : Json) :
    Invocation.moveTo (some base) false step value ⟨base ++ [last], value?, locals, bound⟩ =
      ⟨base ++ [step], value?, locals, bound⟩ := by
  simp [Invocation.moveTo]

/-- A turn of a repetition over a place in the data moves the block to the place of the item. -/
theorem enter_turn (turn : Invocation.Turn) {base : List String} (isFirst isLast : Bool) {block : Block}
    (hvalue : block.value = none) (hbound : block.bound = [])
    (hpath : if isFirst then block.path = base else ∃ step, block.path = base ++ [step]) :
    ∃ locals, turn.enter .none (some base) isFirst isLast block =
      ⟨base ++ [turn.step], none, locals, []⟩ := by
  obtain ⟨path, value, locals, bound⟩ := block
  cases hvalue
  cases hbound
  cases isFirst with
  | true =>
    cases hpath
    exact ⟨_, rfl⟩
  | false =>
    obtain ⟨step, rfl⟩ := hpath
    exact ⟨_, moveTo_next turn.step turn.value⟩

/-- A repetition over a place in the data leaves its block behind, moved on to the last item. Every turn
gives the text that the section gives in the block of its item. -/
theorem exists_turns {base : List String} {body : Render String} {outer : Scope}
    {all : List Invocation.Turn} {current : Option String} (isFirst : Bool) (block : Block)
    (text : Json → String)
    (hturns : ∀ turn ∈ all, ∀ locals current, current = none ∨ current = outer.current →
      body.Gives ((outer.titled current).push ⟨base ++ [turn.step], none, locals, []⟩) (text turn.value))
    (hvalue : block.value = none) (hbound : block.bound = [])
    (hpath : if isFirst then block.path = base else ∃ step, block.path = base ++ [step])
    (hcurrent : current = none ∨ current = outer.current) :
    ∃ left last, Invocation.turns .none (some base) body isFirst all
        ((outer.titled current).push block) =
        (.ok (String.join (all.map fun turn => text turn.value)), (outer.titled last).push left) ∧
      (last = none ∨ last = outer.current) := by
  induction all generalizing isFirst block current with
  | nil => exact ⟨block, current, rfl, hcurrent⟩
  | cons turn rest ih =>
    obtain ⟨locals, henter⟩ := enter_turn turn isFirst rest.isEmpty hvalue hbound hpath
    obtain ⟨after, hrun, hafter⟩ := hturns turn List.mem_cons_self locals current hcurrent
    have hbody : body ((outer.titled current).push ⟨base ++ [turn.step], none, locals, []⟩) =
        (.ok (text turn.value), (outer.titled after).push ⟨base ++ [turn.step], none, locals, []⟩) := hrun
    have hlast : after = none ∨ after = outer.current := by
      rcases hafter with rfl | rfl
      · exact .inl rfl
      · exact hcurrent
    obtain ⟨left, last, hrest, hleft⟩ :=
      ih false ⟨base ++ [turn.step], none, locals, []⟩
        (fun other ho => hturns other (List.mem_cons_of_mem _ ho)) rfl rfl ⟨turn.step, rfl⟩ hlast
    refine ⟨left, last, ?_, hleft⟩
    have hmoved : (modify (Scope.updateBlock (turn.enter .none (some base) isFirst rest.isEmpty)) :
        Render PUnit) ((outer.titled current).push block) =
          (.ok ⟨⟩, (outer.titled current).push ⟨base ++ [turn.step], none, locals, []⟩) := by
      rw [← henter]
      rfl
    rw [Invocation.turns, Render.bind_ok hmoved, Render.bind_ok hbody, Render.bind_ok hrest, List.map_cons,
      String.join_cons]
    rfl

/-- A turn of a repetition over an array stands for an item. -/
theorem exists_item_of_mem_arrayTurns {items : List Json} {turn : Invocation.Turn}
    (h : turn ∈ Invocation.arrayTurns items) :
    ∃ i : Nat, turn.step = toString i ∧ items[i]? = some turn.value := by
  obtain ⟨⟨value, i⟩, hi, rfl⟩ := List.mem_map.1 h
  exact ⟨i, rfl, List.mem_zipIdx_iff_getElem?.1 hi⟩

theorem map_arrayTurns {α : Type} (items : List Json) (f : Json → α) :
    (Invocation.arrayTurns items).map (fun turn => f turn.value) = items.map f := by
  calc (Invocation.arrayTurns items).map (fun turn => f turn.value)
      = (items.zipIdx.map Prod.fst).map f := by
        rw [Invocation.arrayTurns, List.map_map, List.map_map]
        rfl
    _ = items.map f := by rw [List.zipIdx_map_fst]

theorem each_of_array {call : Invocation} {items : List Json} {place : List String} {rest : List Found}
    {body : Render String} (hfound : call.arguments = .located (.array items) place :: rest)
    (hsection : call.body = some body) (hinverse : call.inverse = none) :
    call.each = (do
      modify (Scope.push · (.ofPath place))
      let text ← Invocation.turns call.binders (some place) body true (Invocation.arrayTurns items)
      modify Scope.pop
      return text) := by
  have hargument : call.argument "each" 0 = pure (.located (.array items) place) := by
    rw [Invocation.argument, hfound]
    rfl
  have hturns : Invocation.turns? (Found.located (.array items) place).value =
      some (Invocation.arrayTurns items) := rfl
  rw [Invocation.each_eq, hargument, pure_bind, hsection, hinverse, hturns]
  cases Invocation.arrayTurns items <;> rfl

/-- A repetition over an array in the data gives the texts of its section for the items, in order. -/
theorem gives_each {call : Invocation} {items : List Json} {place : List String} {rest : List Found}
    {body : Render String} (text : Json → String)
    (hfound : call.arguments = .located (.array items) place :: rest)
    (hbinders : call.binders = .none) (hsection : call.body = some body) (hinverse : call.inverse = none)
    (hitems : ∀ (i : Nat) (value : Json), items[i]? = some value → ∀ locals current,
      current = none ∨ current = scope.current → body.Gives
        ((scope.titled current).push ⟨place ++ [toString i], none, locals, []⟩) (text value)) :
    call.each.Gives scope (String.join (items.map text)) := by
  have hturns : ∀ turn ∈ Invocation.arrayTurns items, ∀ locals current,
      current = none ∨ current = scope.current → body.Gives
        ((scope.titled current).push ⟨place ++ [turn.step], none, locals, []⟩) (text turn.value) := by
    intro turn hturn locals current hcurrent
    obtain ⟨i, hstep, hi⟩ := exists_item_of_mem_arrayTurns hturn
    rw [hstep]
    exact hitems i turn.value hi locals current hcurrent
  obtain ⟨left, last, hrun, hlast⟩ :=
    exists_turns true (.ofPath place) text hturns rfl rfl rfl (.inr rfl)
  rw [map_arrayTurns] at hrun
  have hpushed : (modify (Scope.push · (.ofPath place)) : Render PUnit) scope =
      (.ok ⟨⟩, (scope.titled scope.current).push (.ofPath place)) := rfl
  refine ⟨last, ?_, hlast⟩
  rw [each_of_array hfound hsection hinverse, hbinders, Render.bind_ok hpushed, Render.bind_ok hrun]
  rfl

/-! ## Inclusions -/

/-- What a template can include: where `included` says that a named template fits, it is there and gives what
`printed` says in every scope of the shape. -/
def Includes (env : Environment) (expand : Option String → Body → Render String)
    (included : String → Shape → Bool) (printed : String → Option String → Json → String) : Prop :=
  ∀ name shape, included name shape = true → ∃ body, env.templates.lookup name = some body ∧
    ∀ (title : Option String) (scope : Scope) (value : Json), scope.Stands env.data title shape value →
      (expand (some name) body scope).1 = .ok (printed name scope.indent value)

variable {expand : Option String → Body → Render String} {included : String → Shape → Bool}
  {printed : String → Option String → Json → String}

/-- A tag with one argument evaluates it and calls the helper. -/
theorem Call.gives_invoke {name text : String} {path : Path} {inner : Shape} {isBlock : Bool}
    {body inverse : Option (Render String)} (h : scope.Stands env.data title shape value)
    (hp : path.shape? shape = some inner)
    (hrun : ∀ place, follow (some env.data) place = .ok (some (valueAt value path.keys)) →
      inner.Holds (valueAt value path.keys) →
        (Invocation.run ⟨name, [.located (valueAt value path.keys) place], [], .none, isBlock, body, inverse⟩
          env).Gives scope (.text text)) :
    (Call.invoke env (.mk (.word name) [.path path] []) .none isBlock body inverse).Gives scope text := by
  obtain ⟨place, heval, hplace, hholds⟩ := h.eval hp
  have harguments : evalArguments env [.path path] scope =
      (.ok [.located (valueAt value path.keys) place], scope) := by
    rw [evalArguments, Operand.eval, Render.bind_ok heval]
    rfl
  refine .bind_ok (a := name) rfl (.bind_ok harguments (.bind_ok (a := []) rfl ?_))
  exact .map (hrun place hplace hholds)

/-- A template that fits is included under the name of another one. -/
theorem Call.gives_expandInclusion {name : String} {indent : Option String}
    (hincludes : Includes env expand included printed) (hincluded : included name shape = true)
    (hself : title ≠ some name) (hsection : name ≠ sectionName)
    (h : scope.Stands env.data title shape value) :
    (Call.expandInclusion env expand (.mk (.word name) [] []) indent .absent).Gives scope
      (printed name indent value) := by
  obtain ⟨body, hbody, hexpand⟩ := hincludes name shape hincluded
  have hcurrent : scope.current ≠ some name := by
    intro hc
    rcases h.current with hnone | htitle
    · rw [hnone] at hc; cases hc
    · exact hself (htitle.symm.trans hc)
  have hfound : findIncluded env scope name .absent = some (some name, body) := by
    simp only [findIncluded, if_neg hsection, h.unnamed, List.lookup_nil, hbody]
  have hinner : includedScope env name [] [] indent .absent scope =
      .ok { scope with depth := scope.depth - 1, indent := indent } := by
    rw [includedScope, if_neg hsection]
    rfl
  have htext := hexpand title { scope with depth := scope.depth - 1, indent := indent } value
    ⟨h.place, h.holds, h.unbound, h.unnamed, h.current⟩
  have hprepare : Call.prepare env (.mk (.word name) [] []) scope =
      (.ok ⟨name, [], [], .none, false, none, none⟩, scope) := rfl
  rw [Call.expandInclusion_eq]
  refine .bind_ok hprepare (.bind_ok (a := ()) rfl (.bind_ok (x := get) (a := scope) rfl ?_))
  rw [if_neg hcurrent, hfound]
  refine .bind_ok (a := { scope with depth := scope.depth - 1, indent := indent }) ?_ (.of_ok ?_)
  · rw [hinner]
    rfl
  · change ((expand (some name) body _).1, scope) = _
    rw [htext]

/-! ## Templates -/

/-- What a section gives without the name of the template around it. -/
theorem gives_anonymous {render : Render String} {text : String} (h : render.Gives (scope.titled none) text) :
    (anonymous render).Gives scope text := by
  obtain ⟨current, hrun, hcurrent⟩ := h
  refine ⟨none, ?_, .inl rfl⟩
  have hnone : current = none := by
    rcases hcurrent with rfl | rfl
    · rfl
    · rfl
  cases hnone
  exact hrun

/-- A condition gives what the section gives that it chooses. -/
theorem Call.gives_condition {path : Path} {inner : Shape} {text other : String}
    {body inverse : Option (Render String)} (h : scope.Stands env.data title shape value)
    (hp : path.shape? shape = some inner) (hbody : (Invocation.textOf body).Gives scope text)
    (hinverse : (Invocation.textOf inverse).Gives scope other) :
    (Call.invoke env (.mk (.word "if") [.path path] []) .none true body inverse).Gives scope
      (if (valueAt value path.keys).isTrue false then text else other) := by
  refine Call.gives_invoke h hp fun place _ _ => .map (gives_ifElse rfl rfl ?_)
  change (Invocation.textOf (if (valueAt value path.keys).isTrue false = true then body else inverse)).Gives scope _
  split
  · exact hbody
  · exact hinverse

/-- A repetition gives what its section gives for the items, one after another. -/
theorem Call.gives_repetition {path : Path} {item : Shape} {body : Render String} (text : Json → String)
    (h : scope.Stands env.data title shape value) (hp : path.shape? shape = some (.list item))
    (hbody : ∀ found block current, ((scope.titled current).push block).Stands env.data title item found →
      body.Gives ((scope.titled current).push block) (text found)) :
    (Call.invoke env (.mk (.word "each") [.path path] []) .none true (some body) none).Gives scope
      (String.join (((valueAt value path.keys).items?.getD []).map text)) := by
  refine Call.gives_invoke h hp fun place hplace hholds => .map ?_
  generalize valueAt value path.keys = found at hplace hholds ⊢
  cases hholds with
  | @list _ items hlength hitems =>
    refine gives_each text rfl rfl rfl rfl fun i found hi locals current hc => ?_
    exact hbody found _ current (h.item hplace (.list hlength hitems) hi hc)

mutual

/-- An element that fits gives what it prints. -/
theorem Element.gives_of_fits (henv : env.Provides helpers templates)
    (hincludes : Includes env expand included printed) {element : Element} {title : Option String}
    {shape : Shape} {value : Json} {scope : Scope} (hfits : element.fits helpers included title shape = true)
    (h : scope.Stands env.data title shape value) :
    (element.render env expand).Gives scope (element.printed printed scope.indent value) := by
  cases element with
  | text content =>
    rw [Element.printed]
    exact gives_indented content
  | expression call =>
    rw [Element.printed]
    exact Call.gives_print henv hfits h
  | block call binders body inverse =>
    cases binders with
    | none =>
      rw [Element.fits] at hfits
      split at hfits
      · next hcall =>
        rw [Bool.and_eq_true] at hfits
        obtain ⟨path, inner, rfl, hp⟩ := Call.sectionUse?_eq_condition hcall
        rw [Element.printed, if_neg (by simp [Call.callee, Callee.writtenName?])]
        exact Call.gives_condition h hp
          (gives_anonymous (body.gives_of_fits henv hincludes hfits.1 (h.retitle none)))
          (inverse.gives_of_fits henv hincludes hfits.2 h)
      · next item hcall =>
        rw [Bool.and_eq_true, Bool.not_eq_true'] at hfits
        obtain ⟨path, rfl, hp⟩ := Call.sectionUse?_eq_repetition hcall
        have heach : (Call.mk (.word "each") [.path path] []).callee.writtenName? = some "each" := rfl
        have hsubject : (Call.mk (.word "each") [.path path] []).subject value = valueAt value path.keys := rfl
        rw [Element.printed, if_pos heach, hsubject]
        have hinverse : inverse.render env expand = none := by
          cases inverse with
          | absent => rfl
          | present _ => cases hfits.2
        rw [Element.render, hinverse]
        exact Call.gives_repetition (fun item => body.printed printed scope.indent item) h hp
          fun found block current hstands =>
            gives_anonymous (body.gives_of_fits henv hincludes hfits.1 (hstands.retitle none))
      · cases hfits
    | one value => cases hfits
    | two value place => cases hfits
  | decorator call body => cases hfits
  | inclusion call indent own =>
    cases own with
    | present body => cases hfits
    | absent =>
      rw [Element.fits] at hfits
      split at hfits
      · next name hname =>
        rw [Bool.and_eq_true, Bool.and_eq_true, bne_iff_ne, bne_iff_ne] at hfits
        rw [Element.printed, hname, Call.included?_eq_some hname]
        exact Call.gives_expandInclusion hincludes hfits.2 hfits.1.1 hfits.1.2 h
      · cases hfits

/-- A body that fits gives what it prints. -/
theorem Body.gives_of_fits (henv : env.Provides helpers templates)
    (hincludes : Includes env expand included printed) {body : Body} {title name : Option String}
    {shape : Shape} {value : Json} {scope : Scope} (hfits : body.fits helpers included title shape = true)
    (h : scope.Stands env.data title shape value) :
    (body.render env expand name).Gives scope (body.printed printed scope.indent value) := by
  cases body with
  | nil =>
    rw [Body.printed]
    exact .of_ok rfl
  | cons position element rest =>
    rw [Body.fits, Bool.and_eq_true] at hfits
    rw [Body.printed]
    refine .bind (.within (element.gives_of_fits henv hincludes hfits.1 h)) fun current hc => ?_
    exact .map (rest.gives_of_fits henv hincludes hfits.2 (h.after hc))

/-- A section that fits gives what it prints. -/
theorem Branch.gives_of_fits (henv : env.Provides helpers templates)
    (hincludes : Includes env expand included printed) {branch : Branch} {title : Option String}
    {shape : Shape} {value : Json} {scope : Scope} (hfits : branch.fits helpers included shape = true)
    (h : scope.Stands env.data title shape value) :
    (Invocation.textOf (branch.render env expand)).Gives scope (branch.printed printed scope.indent value) := by
  cases branch with
  | absent =>
    rw [Branch.printed]
    exact .of_ok rfl
  | present body =>
    rw [Branch.printed]
    exact gives_anonymous (body.gives_of_fits henv hincludes hfits (h.retitle none))

end

/-- Templates that fit can be included where inclusions may be nested as deep as they are. -/
theorem includes_expand (henv : env.Provides helpers templates) {depth limit : Nat} (hdepth : depth ≤ limit) :
    Includes env (Template.expand env limit) (fitsNamed helpers templates depth)
      (printedNamed templates depth) := by
  induction depth generalizing limit with
  | zero => intro name shape hfits; cases hfits
  | succ depth ih =>
    intro name shape hfits
    obtain ⟨body, hlookup, hbody⟩ := (Option.any_eq_true _ _).1 hfits
    refine ⟨body, henv.templates name body hlookup, fun title scope value h => ?_⟩
    cases limit with
    | zero => exact absurd hdepth (Nat.not_succ_le_zero depth)
    | succ limit =>
      have hgives : (body.render env (Template.expand env limit) (some name)).Gives (scope.titled (some name))
          (body.printed (printedNamed templates depth) scope.indent value) :=
        body.gives_of_fits henv (ih (Nat.le_of_succ_le_succ hdepth)) hbody (h.retitle (some name))
      obtain ⟨_, hrun, -⟩ := hgives
      have hexpand : Template.expand env (limit + 1) (some name) body scope =
          body.render env (Template.expand env limit) (some name) (scope.titled (some name)) := rfl
      rw [hexpand, hrun, printedNamed, hlookup]

/-- A named template that fits is rendered for every value of the shape, to what it prints for the value. -/
theorem exists_renderAlone (henv : env.Provides helpers templates) {depth : Nat} {name : String}
    (hdepth : depth ≤ inclusionLimit) (hfits : fitsNamed helpers templates depth name shape = true)
    (hdata : shape.Holds env.data) : ∃ body, env.templates.lookup name = some body ∧
      body.renderAlone env (some name) = .ok (printedNamed templates depth name none env.data) := by
  obtain ⟨body, hlookup, hexpand⟩ := includes_expand henv hdepth name shape hfits
  exact ⟨body, hlookup, hexpand none .start env.data (Scope.stands_start hdata none)⟩

end

end EntityScaffold.Template
