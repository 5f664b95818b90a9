import EntityScaffold.Command.Host

/-! # Places that paths lead to

A name between slashes leads one step on. So the path of a name in a directory leads into that directory as far
as the name has no slash of its own, and writing a file leaves the ways to all directories as they are.
-/

namespace EntityScaffold

/-! ## Splitting -/

namespace Text

variable {separator : Char} {cs : List Char}

theorem splitAt_ne_nil (separator : Char) (cs : List Char) : splitAt separator cs ≠ [] := by
  fun_induction splitAt separator cs <;> simp

theorem splitAt_of_notMem (h : separator ∉ cs) : splitAt separator cs = [cs] := by
  induction cs with
  | nil => rfl
  | cons c cs ih =>
    obtain ⟨hc, hcs⟩ := not_or.1 fun hor => h (List.mem_cons.2 hor)
    rw [splitAt, if_neg (Ne.symm hc), ih hcs]

theorem splitAt_append (separator : Char) (xs ys : List Char) :
    splitAt separator (xs ++ separator :: ys) = splitAt separator xs ++ splitAt separator ys := by
  induction xs with
  | nil => simp [splitAt]
  | cons x xs ih =>
    simp only [List.cons_append, splitAt, ih]
    split
    · rfl
    · cases hpieces : splitAt separator xs with
      | nil => exact absurd hpieces (splitAt_ne_nil separator xs)
      | cons piece pieces => rfl

/-- A character that separates nothing belongs to the last piece. -/
theorem exists_splitAt_append_singleton {c : Char} (h : c ≠ separator) (cs : List Char) :
    ∃ before piece, splitAt separator (cs ++ [c]) = before ++ [piece ++ [c]] := by
  induction cs with
  | nil => exact ⟨[], [], by simp [splitAt, h]⟩
  | cons x cs ih =>
    obtain ⟨before, piece, hpieces⟩ := ih
    rw [List.cons_append, splitAt, hpieces]
    split
    · exact ⟨[] :: before, piece, rfl⟩
    · cases before with
      | nil => exact ⟨[], x :: piece, rfl⟩
      | cons first before => exact ⟨(x :: first) :: before, piece, rfl⟩

theorem notMem_of_mem_splitAt {piece : List Char} (h : piece ∈ splitAt separator cs) :
    separator ∉ piece := by
  induction cs generalizing piece with
  | nil =>
    rw [splitAt, List.mem_singleton] at h
    subst h
    exact List.not_mem_nil
  | cons c cs ih =>
    cases hpieces : splitAt separator cs with
    | nil => exact absurd hpieces (splitAt_ne_nil separator cs)
    | cons first pieces =>
      rw [hpieces] at ih
      simp only [splitAt, hpieces] at h
      split at h
      · rcases List.mem_cons.1 h with rfl | h
        · exact List.not_mem_nil
        · exact ih h
      · next hc =>
        rcases List.mem_cons.1 h with rfl | h
        · exact fun hmem => (List.mem_cons.1 hmem).elim (fun heq => hc heq.symm) (ih List.mem_cons_self)
        · exact ih (List.mem_cons_of_mem _ h)

end Text

namespace Command

/-! ## Names -/

/-- A name that stands for no special place and for no step. -/
def IsOrdinary (name : String) : Prop := name ∉ ["", ".", "..", "/", "dev", "null"]

instance : DecidablePred IsOrdinary := fun name =>
  inferInstanceAs (Decidable (name ∉ ["", ".", "..", "/", "dev", "null"]))

namespace Workspace

variable {workspace : Workspace} {place target : Place} {name directory : String}

theorem isAbsolute_append (hne : directory ≠ "") (path : String) :
    isAbsolute (directory ++ path) = isAbsolute directory := by
  cases hcs : directory.toList with
  | nil => exact absurd (String.toList_eq_nil_iff.1 hcs) hne
  | cons c cs => simp [isAbsolute, hcs]

theorem isAbsolute_of_notMem (h : '/' ∉ name.toList) : isAbsolute name = false := by
  cases hcs : name.toList with
  | nil => simp [isAbsolute, hcs]
  | cons c cs =>
    rw [hcs] at h
    simpa [isAbsolute, hcs] using fun heq : c = '/' => h (heq ▸ List.mem_cons_self)

/-- The names of a path that is given by its characters; a literal is taken apart only once. -/
theorem names_ofList (cs : List Char) : names (String.ofList cs) =
    (if cs.head? == some '/' then ["/"] else []) ++ (Text.splitAt '/' cs).map String.ofList := by
  rw [names, isAbsolute, String.toList_ofList]

/-- A name between slashes has none. -/
theorem notMem_of_mem_names {path : String} (h : name ∈ names path) : name = "/" ∨ '/' ∉ name.toList := by
  rcases List.mem_append.1 h with h | h
  · split at h
    · exact .inl (List.mem_singleton.1 h)
    · cases h
  · obtain ⟨piece, hpiece, rfl⟩ := List.mem_map.1 h
    rw [String.toList_ofList]
    exact .inr (Text.notMem_of_mem_splitAt hpiece)

/-! ## Steps -/

/-- What is at an ordinary place is up to the workspace. -/
theorem fixed?_of_isOrdinary (h : IsOrdinary name) : fixed? (place ++ [name]) = none := by
  simp only [IsOrdinary, List.mem_cons, List.not_mem_nil, or_false, not_or] at h
  have hlast : ∀ (before : Place) (last : String), place ++ [name] = before ++ [last] → name = last :=
    fun before last heq => List.singleton_inj.1 (List.append_inj' heq rfl).2
  have hroot : place ++ [name] ≠ ["/"] := fun heq => h.2.2.2.1 (hlast [] _ heq)
  have hdev : place ++ [name] ≠ ["/", "dev"] := fun heq => h.2.2.2.2.1 (hlast ["/"] _ heq)
  have hnull : place ++ [name] ≠ ["/", "dev", "null"] := fun heq => h.2.2.2.2.2 (hlast ["/", "dev"] _ heq)
  simp [fixed?, isAround, h, hroot, hdev, hnull]

theorem step_of_isOrdinary (h : IsOrdinary name) :
    step place name = if isName name then .ok (place ++ [name]) else .error .invalidName := by
  simp only [IsOrdinary, List.mem_cons, List.not_mem_nil, or_false, not_or] at h
  simp [step, h]

theorem mem_of_step (h : step place name = .ok target) {other : String} (ho : other ∈ target) :
    other ∈ place ∨ other = name := by
  unfold step at h
  split at h
  · cases h; exact .inl ho
  · split at h
    · next heq => cases h; exact .inr (heq ▸ List.mem_singleton.1 ho)
    · split at h
      · cases h
        split at ho
        · exact .inl ho
        · split at ho
          · exact (List.mem_append.1 ho).imp id List.mem_singleton.1
          · exact .inl ((List.dropLast_sublist place).mem ho)
      · split at h
        · cases h; exact (List.mem_append.1 ho).imp id List.mem_singleton.1
        · cases h

/-! ## Following names -/

theorem follow_cons_of_directory (h : workspace.find? place = some .directory) (rest : List String) :
    workspace.follow place (name :: rest) = (step place name).bind (workspace.follow · rest) := by
  rw [follow, h]

theorem exists_step_of_follow {rest : List String} (h : workspace.follow place (name :: rest) = .ok target) :
    workspace.find? place = some .directory ∧ ∃ next, step place name = .ok next ∧
      workspace.follow next rest = .ok target := by
  rw [follow] at h
  cases hfind : workspace.find? place with
  | none => rw [hfind] at h; cases h
  | some entry => cases entry with
    | file text => rw [hfind] at h; cases h
    | directory =>
      rw [hfind] at h
      cases hstep : step place name with
      | error e => rw [hstep] at h; cases h
      | ok next => rw [hstep] at h; exact ⟨rfl, next, rfl, h⟩

theorem follow_append (workspace : Workspace) (place : Place) (before after : List String) :
    workspace.follow place (before ++ after) =
      (workspace.follow place before).bind (workspace.follow · after) := by
  induction before generalizing place with
  | nil => rfl
  | cons name rest ih =>
    rw [List.cons_append, follow, follow]
    split
    · cases step place name with
      | error e => rfl
      | ok next => exact ih next
    · rfl
    · rfl

/-- An empty name is no step, but there must be a directory. -/
theorem follow_blank (place : Place) {names : List String} (h : names ≠ []) :
    workspace.follow place ("" :: names) = workspace.follow place names := by
  obtain ⟨name, rest, rfl⟩ := List.exists_cons_of_ne_nil h
  rw [follow, follow]
  split
  · next hfind =>
    change workspace.follow place (name :: rest) = _
    rw [follow_cons_of_directory hfind]
  · rfl
  · rfl

theorem follow_append_blank (before : List String) (place : Place) {after : List String} (h : after ≠ []) :
    workspace.follow place (before ++ "" :: after) = workspace.follow place (before ++ after) := by
  rw [follow_append, follow_append]
  congr 1
  funext next
  exact follow_blank next h

theorem follow_blanks (h : workspace.find? place = some .directory) {blanks : List String}
    (hb : ∀ name ∈ blanks, name = "") : workspace.follow place blanks = .ok place := by
  induction blanks with
  | nil => rfl
  | cons name rest ih =>
    rw [hb name List.mem_cons_self, follow_cons_of_directory h]
    exact ih fun other ho => hb other (List.mem_cons_of_mem _ ho)

/-- A place has only names that were followed. -/
theorem mem_of_follow {names : List String} (h : workspace.follow place names = .ok target) {other : String}
    (ho : other ∈ target) : other ∈ place ∨ other ∈ names := by
  induction names generalizing place with
  | nil =>
    cases h
    exact .inl ho
  | cons name rest ih =>
    obtain ⟨-, next, hstep, hrest⟩ := exists_step_of_follow h
    rcases ih hrest with hnext | hrest
    · exact (mem_of_step hstep hnext).imp id fun heq => List.mem_cons.2 (.inl heq)
    · exact .inr (List.mem_cons_of_mem _ hrest)

/-- Where no directory stood, anything may be put without changing where names lead. -/
theorem follow_put {entry : Entry} {spot : Place} (hfixed : fixed? spot = none)
    (hspot : workspace.find? spot ≠ some .directory) {names : List String}
    (h : workspace.follow place names = .ok target) :
    (workspace.put spot entry).follow place names = .ok target := by
  induction names generalizing place with
  | nil => exact h
  | cons name rest ih =>
    obtain ⟨hfind, next, hstep, hrest⟩ := exists_step_of_follow h
    have hother : place ≠ spot := fun heq => hspot (heq ▸ hfind)
    have hfind' : (workspace.put spot entry).find? place = some .directory := by
      rw [find?_put hfixed, if_neg hother, hfind]
    rw [follow_cons_of_directory hfind', hstep]
    exact ih hrest

/-! ## Names in a directory -/

theorem names_eq_singleton (h : '/' ∉ name.toList) : names name = [name] := by
  rw [names, isAbsolute_of_notMem h, Text.splitAt_of_notMem h]
  simp

/-- After a slash come the names of the path behind it. -/
theorem names_append {before : List Char} {path : String} (hd : directory.toList = before ++ ['/'])
    (h : isAbsolute path = false) : names (directory ++ path) =
      (if isAbsolute directory then ["/"] else []) ++ (Text.splitAt '/' before).map String.ofList ++
        names path := by
  have hne : directory ≠ "" := fun heq => by simp [heq] at hd
  have hpieces : Text.splitAt '/' (directory ++ path).toList =
      Text.splitAt '/' before ++ Text.splitAt '/' path.toList := by
    rw [String.toList_append, hd, List.append_assoc]
    exact Text.splitAt_append '/' before path.toList
  rw [names, hpieces, isAbsolute_append hne, List.map_append, names, h]
  simp

theorem names_ne_nil (path : String) : names path ≠ [] := by
  rw [names]
  exact List.append_ne_nil_of_right_ne_nil _
    (mt List.map_eq_nil_iff.1 (Text.splitAt_ne_nil '/' path.toList))

/-- The names of the path of something in a directory come after those of the directory, the last of which is left
out if it is empty. -/
theorem names_joinPath (directory : String) {path : String} (h : isAbsolute path = false) :
    names (joinPath directory path) = names directory ++ names path ∨
      ∃ before, names directory = before ++ [""] ∧ names (joinPath directory path) = before ++ names path := by
  rw [joinPath, h, Bool.false_or]
  by_cases hempty : directory = ""
  · subst hempty
    rw [if_pos (by decide)]
    exact .inr ⟨[], rfl, rfl⟩
  · rw [if_neg (by simpa using hempty)]
    split
    · next hslash =>
      obtain ⟨before, hbefore⟩ := List.getLast?_eq_some_iff.1 (by simpa using hslash)
      have hdirectory : names (directory ++ "") = _ := names_append hbefore rfl
      rw [String.append_empty] at hdirectory
      exact .inr ⟨_, hdirectory, names_append hbefore h⟩
    · have hbefore : (directory ++ "/").toList = directory.toList ++ ['/'] := by
        rw [String.toList_append]; rfl
      rw [names_append hbefore h, isAbsolute_append hempty]
      exact .inl rfl

/-- The path of something in a directory leads into the directory and on from there. -/
theorem follow_joinPath_relative (directory : String) {path : String} (h : isAbsolute path = false) :
    workspace.follow [] (names (joinPath directory path)) =
      workspace.follow [] (names directory ++ names path) := by
  rcases names_joinPath directory h with hnames | ⟨before, hdirectory, hnames⟩
  · rw [hnames]
  · -- Such a directory ends with an empty name, which is no step.
    rw [hnames, hdirectory, List.append_assoc]
    exact (follow_append_blank before [] (names_ne_nil path)).symm

/-- The path of a name without slashes leads into the directory. -/
theorem follow_joinPath (directory : String) (h : '/' ∉ name.toList) :
    workspace.follow [] (names (joinPath directory name)) =
      workspace.follow [] (names directory ++ [name]) := by
  rw [follow_joinPath_relative directory (isAbsolute_of_notMem h), names_eq_singleton h]

/-- A path that leads somewhere is not too long. -/
theorem of_resolve {path : String} (h : workspace.resolve path = .ok target) :
    ¬ maxPathSize < path.utf8ByteSize ∧ workspace.follow [] (names path) = .ok target := by
  unfold resolve at h
  split at h
  · cases h
  · next hsize =>
    split at h
    · cases h
    · exact ⟨hsize, h⟩

theorem entry?_of_resolve {path : String} (h : workspace.resolve path = .ok target) :
    workspace.entry? path = workspace.find? target := by
  unfold entry?
  rw [h]

/-- What a path leads to stands at the place that it leads to. -/
theorem exists_of_entry? {path : String} {entry : Entry} (h : workspace.entry? path = some entry) :
    ∃ target, workspace.resolve path = .ok target ∧ workspace.find? target = some entry := by
  unfold entry? at h
  split at h
  · next target hresolve => exact ⟨target, hresolve, h⟩
  · cases h

theorem isEmpty_joinPath (directory : String) (h : name ≠ "") : (joinPath directory name).isEmpty = false := by
  unfold joinPath
  split
  · simpa using h
  · split <;> simp [h]

/-- A file under an ordinary name without slashes stands in the directory itself, if it can be there. -/
theorem resolve_joinPath (hname : IsOrdinary name) (h : '/' ∉ name.toList)
    (hplace : workspace.follow [] (names directory) = .ok place)
    (hdirectory : workspace.find? place = some .directory) :
    workspace.resolve (joinPath directory name) =
      if maxPathSize < (joinPath directory name).utf8ByteSize then .error .invalidName
      else if isName name then .ok (place ++ [name]) else .error .invalidName := by
  have hne : name ≠ "" := fun heq => hname (by rw [heq]; decide)
  have hfollow : workspace.follow [] (names (joinPath directory name)) =
      if isName name then .ok (place ++ [name]) else .error .invalidName := by
    rw [follow_joinPath directory h, follow_append, hplace, Except.bind,
      follow_cons_of_directory hdirectory, step_of_isOrdinary hname]
    split <;> rfl
  rw [resolve, isEmpty_joinPath directory hne, hfollow]
  rfl

/-- A name without slashes can only be led to where it can be. -/
theorem isName_of_resolve (hname : IsOrdinary name) (h : '/' ∉ name.toList)
    (hresolve : workspace.resolve (joinPath directory name) = .ok target) :
    ¬ maxPathSize < (joinPath directory name).utf8ByteSize ∧ isName name = true := by
  obtain ⟨hsize, hfollow⟩ := of_resolve hresolve
  refine ⟨hsize, ?_⟩
  rw [follow_joinPath directory h, follow_append] at hfollow
  cases hplace : workspace.follow [] (names directory) with
  | error e => rw [hplace] at hfollow; cases hfollow
  | ok place =>
    rw [hplace] at hfollow
    obtain ⟨-, next, hstep, -⟩ := exists_step_of_follow hfollow
    rw [step_of_isOrdinary hname] at hstep
    split at hstep
    · next hfits => exact hfits
    · cases hstep

/-- A file under a name with a slash does not stand in the directory itself. -/
theorem resolve_joinPath_ne (hname : IsOrdinary name) (h : '/' ∈ name.toList) (place : Place) :
    workspace.resolve (joinPath directory name) ≠ .ok (place ++ [name]) := by
  intro hresolve
  have hmem : name ∈ place ++ [name] := List.mem_append_right _ (List.mem_singleton.2 rfl)
  rcases mem_of_follow (of_resolve hresolve).2 hmem with hnil | hnames
  · cases hnil
  · rcases notMem_of_mem_names hnames with heq | hnone
    · exact hname (by rw [heq]; decide)
    · exact hnone h

/-! ## Writing -/

theorem exists_of_writeText {path text : String} {after : Workspace}
    (h : workspace.writeText path text = some after) : ∃ place, workspace.resolve path = .ok place ∧
      workspace.find? place ≠ some .directory ∧ after = workspace.put place (.file text) := by
  unfold writeText at h
  split at h
  · next place hplace =>
    refine ⟨place, hplace, ?_⟩
    split at h
    · cases h
    · next hfind => cases h; exact ⟨by rw [hfind]; nofun, rfl⟩
    · next hfind => cases h; exact ⟨by rw [hfind]; nofun, rfl⟩
  · cases h

/-! ## Making directories -/

theorem isDirectory_iff {names : List String} : workspace.isDirectory names = true ↔
    ∃ place, workspace.follow [] names = .ok place ∧ workspace.find? place = some .directory := by
  unfold isDirectory
  cases workspace.follow [] names with
  | error e => simp
  | ok place => simp

theorem exists_of_splitLast {names before : List String} {last : String}
    (h : splitLast names = some (before, last)) :
    ∃ blanks, names = before ++ last :: blanks ∧ ∀ blank ∈ blanks, blank = "" := by
  have hsplit := List.takeWhile_append_dropWhile (p := (· == "")) (l := names.reverse)
  have hblanks := List.all_takeWhile (p := (· == "")) (l := names.reverse)
  unfold splitLast at h
  split at h
  · cases h
  · next last' before' hdrop =>
    cases h
    rw [hdrop] at hsplit
    refine ⟨(names.reverse.takeWhile (· == "")).reverse, ?_, fun blank hblank => ?_⟩
    · have hnames := congrArg List.reverse hsplit
      simpa using hnames.symm
    · simpa using List.all_eq_true.1 hblanks blank (List.mem_reverse.1 hblank)

/-- A directory is made one step from another, where nothing was, and its names lead to it then. -/
theorem exists_of_makeDirectory {names : List String} {made : Workspace}
    (h : workspace.makeDirectory names = .ok made) : ∃ place last target,
      workspace.find? place = some .directory ∧ step place last = .ok target ∧
        workspace.find? target = none ∧ made = workspace.put target .directory ∧
          made.follow [] names = .ok target := by
  unfold makeDirectory at h
  split at h
  · cases h
  · next before last hsplit =>
    obtain ⟨blanks, rfl, hblanks⟩ := exists_of_splitLast hsplit
    split at h
    · cases h
    · cases h
    · next place hplace =>
      split at h
      · cases h
      · cases h
      · next hdirectory =>
        split at h
        · cases h
        · next target hstep =>
          split at h
          · cases h
          · next hfind =>
            cases h
            have hnone : workspace.find? target = none := by simpa using hfind
            have hfixed : fixed? target = none := (Option.or_eq_none_iff.1 hnone).1
            have hput : ∀ {names : List String} {start goal : Place},
                workspace.follow start names = .ok goal →
                  (workspace.put target .directory).follow start names = .ok goal :=
              follow_put hfixed (by rw [hnone]; nofun)
            have hthere : (workspace.put target .directory).find? target = some .directory := by
              rw [find?_put hfixed, if_pos rfl]
            have hlast : workspace.follow place [last] = .ok target := by
              rw [follow_cons_of_directory hdirectory, hstep]
              rfl
            refine ⟨place, last, target, hdirectory, hstep, hnone, rfl, ?_⟩
            rw [follow_append, hput hplace, ← List.singleton_append, Except.bind, follow_append, hput hlast]
            exact follow_blanks hthere hblanks

/-- A directory that was made is there. -/
theorem isDirectory_of_makeDirectory {names : List String} {made : Workspace}
    (h : workspace.makeDirectory names = .ok made) : made.isDirectory names = true := by
  obtain ⟨place, last, target, -, -, hnone, rfl, hfollow⟩ := exists_of_makeDirectory h
  refine isDirectory_iff.2 ⟨target, hfollow, ?_⟩
  rw [find?_put (Option.or_eq_none_iff.1 hnone).1, if_pos rfl]

/-- The first of some directories is made or there, once the others are made if need be. -/
theorem exists_of_makeNested {names : List String} {outer : List (List String)} {made : Workspace}
    (h : workspace.makeNested (names :: outer) = some made) :
    ∃ between, (between = workspace ∨ workspace.makeNested outer = some between) ∧
      (between.makeDirectory names = .ok made ∨ made = between ∧ between.isDirectory names = true) := by
  unfold makeNested at h
  split at h
  · next hmake =>
    cases h
    exact ⟨workspace, .inl rfl, .inl hmake⟩
  · split at h
    · next hthere =>
      cases h
      exact ⟨workspace, .inl rfl, .inr ⟨rfl, hthere⟩⟩
    · cases h
  · obtain ⟨between, hbetween, h⟩ := Option.bind_eq_some_iff.1 h
    refine ⟨between, .inr hbetween, ?_⟩
    split at h
    · next hmake =>
      cases h
      exact .inl hmake
    · split at h
      · next hthere =>
        cases h
        exact .inr ⟨rfl, hthere⟩
      · cases h

theorem isDirectory_of_makeNested {names : List String} {outer : List (List String)} {made : Workspace}
    (h : workspace.makeNested (names :: outer) = some made) : made.isDirectory names = true := by
  obtain ⟨between, -, hmake | ⟨rfl, hthere⟩⟩ := exists_of_makeNested h
  · exact isDirectory_of_makeDirectory hmake
  · exact hthere

/-- Once directories are made, their path leads to one. -/
theorem exists_place_of_makeDirectories {path : String} {made : Workspace}
    (h : workspace.makeDirectories path = some made) :
    ∃ place, made.follow [] (names path) = .ok place ∧ made.find? place = some .directory := by
  unfold makeDirectories at h
  split at h
  · cases h
  · exact isDirectory_iff.1 (isDirectory_of_makeNested h)

end Workspace

end Command

end EntityScaffold
