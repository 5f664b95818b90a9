import EntityScaffold.Proofs.Command.Paths

/-! # Making directories

Making a directory, with those that lead to it, changes nothing that is there. Each new directory is where the
first names of the path lead. A workspace in which everything stands in a directory stays so.
-/

namespace EntityScaffold.Command.Workspace

variable {before between after workspace made : Workspace} {place target : Place}

/-! ## Names that lead onwards -/

/-- The names that are steps, without the empty ones and `.`. -/
def onward (names : List String) : List String := names.filter fun name => name != "" && name != "."

theorem onward_append (first second : List String) : onward (first ++ second) = onward first ++ onward second :=
  List.filter_append ..

theorem onward_onward (names : List String) : onward (onward names) = onward names := by
  simp [onward]

/-- Names that are no steps can be left out. -/
theorem follow_onward {names : List String} (h : workspace.follow place names = .ok target) :
    workspace.follow place (onward names) = .ok target := by
  induction names generalizing place with
  | nil => exact h
  | cons name rest ih =>
    obtain ⟨hdirectory, next, hstep, hrest⟩ := exists_step_of_follow h
    by_cases hname : name = "" ∨ name = "."
    · have hskip : onward (name :: rest) = onward rest :=
        List.filter_cons_of_neg (by rcases hname with rfl | rfl <;> decide)
      rw [step, if_pos hname] at hstep
      cases hstep
      rw [hskip]
      exact ih hrest
    · have hkeep : onward (name :: rest) = name :: onward rest :=
        List.filter_cons_of_pos (by simpa [not_or] using hname)
      rw [hkeep, follow_cons_of_directory hdirectory, hstep]
      exact ih hrest

/-- Ordinary names lead inwards. -/
theorem eq_of_follow {names : List String} (h : ∀ name ∈ names, IsOrdinary name)
    (hfollow : workspace.follow place names = .ok target) : target = place ++ names := by
  induction names generalizing place with
  | nil =>
    cases hfollow
    exact (List.append_nil _).symm
  | cons name rest ih =>
    obtain ⟨-, next, hstep, hrest⟩ := exists_step_of_follow hfollow
    rw [step_of_isOrdinary (h name List.mem_cons_self)] at hstep
    split at hstep
    · cases hstep
      rw [ih (fun other ho => h other (List.mem_cons_of_mem _ ho)) hrest, ← List.append_cons]
    · cases hstep

/-- Without `..` no names lead outwards, but for the one that leads to the root of the system. -/
theorem isPrefix_of_follow {names : List String} (hroot : "/" ∉ names) (hup : ".." ∉ names)
    (hfollow : workspace.follow place names = .ok target) : place <+: target := by
  induction names generalizing place with
  | nil =>
    cases hfollow
    exact List.prefix_rfl
  | cons name rest ih =>
    obtain ⟨-, next, hstep, hrest⟩ := exists_step_of_follow hfollow
    have hnext : place <+: next := by
      unfold step at hstep
      split at hstep
      · cases hstep
        exact List.prefix_rfl
      · have hslash : name ≠ "/" := fun heq => hroot (List.mem_cons.2 (.inl heq.symm))
        have hdots : name ≠ ".." := fun heq => hup (List.mem_cons.2 (.inl heq.symm))
        rw [if_neg hslash, if_neg hdots] at hstep
        split at hstep
        · cases hstep
          exact List.prefix_append ..
        · cases hstep
    exact hnext.trans (ih (fun h => hroot (List.mem_cons_of_mem _ h)) (fun h => hup (List.mem_cons_of_mem _ h)) hrest)

/-- The root of the system can only come first in a path. -/
theorem slash_notMem_tail_names (path : String) : "/" ∉ (names path).tail := by
  have hpieces : "/" ∉ (Text.splitAt '/' path.toList).map String.ofList := by
    intro h
    obtain ⟨piece, hpiece, heq⟩ := List.mem_map.1 h
    refine Text.notMem_of_mem_splitAt hpiece ?_
    rw [← String.toList_ofList (l := piece), heq]
    decide
  rw [names]
  split
  · exact hpieces
  · exact fun h => hpieces (List.mem_of_mem_tail h)

/-- Names that lead to a directory lead to one at every point. -/
theorem exists_of_follow_append {before after : List String}
    (hfollow : workspace.follow place (before ++ after) = .ok target)
    (htarget : workspace.find? target = some .directory) :
    ∃ between, workspace.follow place before = .ok between ∧ workspace.find? between = some .directory ∧
      workspace.follow between after = .ok target := by
  rw [follow_append] at hfollow
  cases hbefore : workspace.follow place before with
  | error fault => rw [hbefore] at hfollow; cases hfollow
  | ok between =>
    rw [hbefore] at hfollow
    refine ⟨between, rfl, ?_, hfollow⟩
    cases after with
    | nil =>
      cases hfollow
      exact htarget
    | cons name rest => exact (exists_step_of_follow hfollow).1

/-- The directories on the way to one are where its first names lead. -/
theorem exists_take_of_mem_around {names way : List String} (h : way ∈ around names) :
    ∃ count, way = (onward names).take count := by
  obtain ⟨count, -, rfl⟩ := List.mem_map.1 h
  exact ⟨count, rfl⟩

/-! ## What stays -/

/-- What is at a place whatever happens cannot be changed. -/
theorem find?_put_of_fixed {entry fixed : Entry} (h : fixed? target = some fixed) (other : Place) :
    (workspace.put target entry).find? other = workspace.find? other := by
  by_cases heq : other = target
  · subst heq
    simp [find?, h]
  · have hb : (other == target) = false := by simpa using heq
    simp [find?, put, List.lookup_cons, hb]

theorem find?_put_of_ne {entry : Entry} {other : Place} (h : other ≠ target) :
    (workspace.put target entry).find? other = workspace.find? other := by
  cases hfixed : fixed? target with
  | some fixed => exact find?_put_of_fixed hfixed other
  | none => rw [find?_put hfixed, if_neg h]

/-- Every directory stays one. -/
def KeepsDirectories (before after : Workspace) : Prop :=
  ∀ place, before.find? place = some .directory → after.find? place = some .directory

theorem KeepsDirectories.trans (h : before.KeepsDirectories between) (h' : between.KeepsDirectories after) :
    before.KeepsDirectories after :=
  fun place hplace => h' place (h place hplace)

/-- Names lead where they did as long as the directories are there. -/
theorem KeepsDirectories.follow (h : before.KeepsDirectories after) {names : List String}
    (hfollow : before.follow place names = .ok target) : after.follow place names = .ok target := by
  induction names generalizing place with
  | nil => exact hfollow
  | cons name rest ih =>
    obtain ⟨hdirectory, next, hstep, hrest⟩ := exists_step_of_follow hfollow
    rw [follow_cons_of_directory (h place hdirectory), hstep]
    exact ih hrest

theorem KeepsDirectories.resolve (h : before.KeepsDirectories after) {path : String}
    (hresolve : before.resolve path = .ok target) : after.resolve path = .ok target := by
  obtain ⟨hsize, hfollow⟩ := of_resolve hresolve
  unfold Workspace.resolve at hresolve ⊢
  rw [if_neg hsize] at hresolve ⊢
  split at hresolve
  · cases hresolve
  · next hempty => rw [if_neg hempty, h.follow hfollow]

theorem keepsDirectories_put {entry : Entry} (hfree : workspace.find? target ≠ some .directory) :
    workspace.KeepsDirectories (workspace.put target entry) := by
  intro place hplace
  cases hfixed : fixed? target with
  | some fixed => rw [find?_put_of_fixed hfixed, hplace]
  | none =>
    have hne : place ≠ target := fun heq => hfree (heq ▸ hplace)
    rw [find?_put hfixed, if_neg hne, hplace]

/-- A file makes no directory. -/
theorem keepsDirectories_of_put_file {text : String} :
    (workspace.put target (.file text)).KeepsDirectories workspace := by
  intro place hplace
  cases hfixed : fixed? target with
  | some fixed => rwa [find?_put_of_fixed hfixed] at hplace
  | none =>
    rw [find?_put hfixed] at hplace
    split at hplace
    · cases hplace
    · exact hplace

/-- All is as it was before, but for new directories, each of which is where some names lead. -/
def MakesDirectories (before after : Workspace) (ways : List String → Prop) : Prop :=
  ∀ place, after.find? place = before.find? place ∨
    before.find? place = none ∧ after.find? place = some .directory ∧
      ∃ names, ways names ∧ after.follow [] names = .ok place

section

variable {ways : List String → Prop}

theorem MakesDirectories.refl (workspace : Workspace) (ways : List String → Prop) :
    workspace.MakesDirectories workspace ways :=
  fun _ => .inl rfl

theorem MakesDirectories.find?_of_some (h : before.MakesDirectories after ways) {entry : Entry}
    (hplace : before.find? place = some entry) : after.find? place = some entry := by
  rcases h place with hsame | ⟨hnone, -⟩
  · rw [hsame, hplace]
  · rw [hplace] at hnone
    cases hnone

theorem MakesDirectories.keeps (h : before.MakesDirectories after ways) : before.KeepsDirectories after :=
  fun _ => h.find?_of_some

theorem MakesDirectories.imp (h : before.MakesDirectories after ways) {others : List String → Prop}
    (hways : ∀ names place, ways names → after.follow [] names = .ok place →
      ∃ other, others other ∧ after.follow [] other = .ok place) : before.MakesDirectories after others := by
  intro place
  rcases h place with hsame | ⟨hnone, hnew, names, hway, hfollow⟩
  · exact .inl hsame
  · exact .inr ⟨hnone, hnew, hways names place hway hfollow⟩

theorem MakesDirectories.trans (h : before.MakesDirectories between ways) (h' : between.MakesDirectories after ways) :
    before.MakesDirectories after ways := by
  intro place
  rcases h' place with hsame | ⟨hnone, hnew, hway⟩
  · rw [hsame]
    rcases h place with hsame | ⟨hnone, hnew, names, hway, hfollow⟩
    · exact .inl hsame
    · exact .inr ⟨hnone, hnew, names, hway, h'.keeps.follow hfollow⟩
  · rcases h place with hsame | ⟨-, hdirectory, -⟩
    · exact .inr ⟨hsame ▸ hnone, hnew, hway⟩
    · rw [hdirectory] at hnone
      cases hnone

end

/-- The directories on the way to one that is there are there. -/
theorem KeepsDirectories.isDirectory_of_take (h : before.KeepsDirectories after) {names : List String} {count : Nat}
    (hthere : before.isDirectory names) (hway : after.follow [] ((onward names).take count) = .ok target) :
    before.find? target = some .directory := by
  obtain ⟨place, hplace, hthere⟩ := isDirectory_iff.1 hthere
  have hsplit := follow_onward hplace
  rw [← List.take_append_drop count (onward names)] at hsplit
  obtain ⟨between, hbetween, hdirectory, -⟩ := exists_of_follow_append hsplit hthere
  rw [h.follow hbetween] at hway
  cases hway
  exact hdirectory

/-- Without `..` the directories on the way to one are around it. -/
theorem isPrefix_of_take {path : String} {count : Nat} (hup : ".." ∉ names path)
    (hplace : workspace.follow [] (names path) = .ok place)
    (hway : workspace.follow [] ((onward (names path)).take count) = .ok target) : target <+: place := by
  cases count with
  | zero =>
    cases hway
    exact List.nil_prefix
  | succ count =>
    have hroot : "/" ∉ (onward (names path)).drop (count + 1) := by
      rw [Nat.add_comm, ← List.drop_drop, List.drop_one]
      exact fun hmem =>
        slash_notMem_tail_names path (List.filter_sublist.tail.subset (List.mem_of_mem_drop hmem))
    have hup : ".." ∉ (onward (names path)).drop (count + 1) := fun hmem =>
      hup (List.mem_filter.1 (List.mem_of_mem_drop hmem)).1
    have hrest := follow_onward hplace
    rw [← List.take_append_drop (count + 1) (onward (names path)), follow_append, hway] at hrest
    exact isPrefix_of_follow hroot hup hrest

/-! ## Making directories -/

/-- Making a directory adds it where its names lead. -/
theorem makesDirectories_of_makeDirectory {names : List String} (h : workspace.makeDirectory names = .ok made) :
    workspace.MakesDirectories made (· = names) := by
  obtain ⟨place, last, target, -, -, hnone, rfl, hfollow⟩ := exists_of_makeDirectory h
  have hput : ∀ other, (workspace.put target .directory).find? other =
      if other = target then some .directory else workspace.find? other :=
    find?_put (Option.or_eq_none_iff.1 hnone).1
  intro other
  rw [hput]
  split
  · next heq => exact .inr ⟨heq ▸ hnone, rfl, names, rfl, heq ▸ hfollow⟩
  · exact .inl rfl

theorem makesDirectories_of_makeNested {ways : List (List String)} (h : workspace.makeNested ways = some made) :
    workspace.MakesDirectories made (· ∈ ways) := by
  induction ways generalizing made with
  | nil =>
    cases h
    exact .refl _ _
  | cons names outer ih =>
    obtain ⟨between, hbetween, hmake⟩ := exists_of_makeNested h
    have houter : workspace.MakesDirectories between (· ∈ names :: outer) := by
      rcases hbetween with rfl | hbetween
      · exact .refl _ _
      · exact (ih hbetween).imp fun way place hway hfollow => ⟨way, List.mem_cons_of_mem _ hway, hfollow⟩
    rcases hmake with hmake | ⟨rfl, -⟩
    · exact houter.trans <| (makesDirectories_of_makeDirectory hmake).imp fun way place hway hfollow =>
        ⟨way, hway ▸ List.mem_cons_self, hfollow⟩
    · exact houter

/-- Each directory that is made on the way to another is where the first names of the path lead. -/
theorem makesDirectories_of_makeDirectories {path : String} (h : workspace.makeDirectories path = some made) :
    workspace.MakesDirectories made fun way => ∃ count, way = (onward (names path)).take count := by
  unfold makeDirectories at h
  split at h
  · cases h
  · refine (makesDirectories_of_makeNested h).imp fun way place hway hfollow => ?_
    rcases List.mem_cons.1 hway with rfl | hway
    · exact ⟨onward (names path), ⟨_, (List.take_length).symm⟩, follow_onward hfollow⟩
    · exact ⟨way, exists_take_of_mem_around hway, hfollow⟩

/-! ## Trees -/

/-- Everything stands in a directory. -/
def IsTree (workspace : Workspace) : Prop :=
  ∀ place name entry, workspace.find? (place ++ [name]) = some entry → workspace.find? place = some .directory

/-- The directories around a workspace make a tree. -/
theorem isTree_empty : IsTree ⟨[]⟩ := by
  intro place name entry hfind
  have hfixed : ∀ place, find? ⟨[]⟩ place = fixed? place := fun _ => Option.or_none
  have hlast : ∀ (before : Place) (last : String), place ++ [name] = before ++ [last] → place = before :=
    fun _ _ heq => (List.append_inj' heq rfl).1
  rw [hfixed, fixed?, isAround] at hfind
  rw [hfixed]
  split at hfind
  · next haround =>
    rw [Bool.or_eq_true, Bool.or_eq_true, beq_iff_eq, beq_iff_eq, List.all_append, Bool.and_eq_true] at haround
    rcases haround with (hall | hroot) | hdev
    · rw [fixed?, isAround, hall.1]
      rfl
    · rw [hlast [] "/" hroot]
      rfl
    · rw [hlast ["/"] "dev" hdev]
      rfl
  · split at hfind
    · next hnull =>
      rw [hlast ["/", "dev"] "null" hnull]
      rfl
    · cases hfind

namespace IsTree

/-- What leads to something is a directory. -/
theorem isDirectory_of_append (h : workspace.IsTree) {rest : List String} (hne : rest ≠ []) {entry : Entry}
    (hfind : workspace.find? (place ++ rest) = some entry) : workspace.find? place = some .directory := by
  induction rest generalizing place with
  | nil => exact absurd rfl hne
  | cons name rest ih =>
    by_cases hrest : rest = []
    · subst hrest
      exact h place name entry hfind
    · rw [List.append_cons] at hfind
      exact h place name .directory (ih hrest hfind)

/-- A step from a directory leads to one or into the directory. -/
theorem isDirectory_of_step (h : workspace.IsTree) {name : String} (hplace : workspace.find? place = some .directory)
    (hstep : step place name = .ok target) :
    workspace.find? target = some .directory ∨ target = place ++ [name] := by
  unfold step at hstep
  split at hstep
  · cases hstep
    exact .inl hplace
  · split at hstep
    · cases hstep
      exact .inl rfl
    · split at hstep
      · cases hstep
        split
        · exact .inl hplace
        · split
          · exact .inr rfl
          · next haround =>
            have hne : place ≠ [] := fun heq => haround (by rw [heq]; rfl)
            rw [← List.dropLast_concat_getLast hne] at hplace
            exact .inl (h _ _ _ hplace)
      · split at hstep
        · cases hstep
          exact .inr rfl
        · cases hstep

/-- Names lead to something that can stand in a directory. -/
theorem isDirectory_of_follow (h : workspace.IsTree) {names : List String}
    (hfollow : workspace.follow [] names = .ok target) {outer : Place} {name : String}
    (htarget : target = outer ++ [name]) : workspace.find? outer = some .directory := by
  have hall : ∀ {start goal : Place} {names : List String},
      (∀ outer name, start = outer ++ [name] → workspace.find? outer = some .directory) →
        workspace.follow start names = .ok goal →
          ∀ outer name, goal = outer ++ [name] → workspace.find? outer = some .directory := by
    intro start goal names hstart hfollow
    induction names generalizing start with
    | nil =>
      cases hfollow
      exact hstart
    | cons first rest ih =>
      obtain ⟨hdirectory, next, hstep, hrest⟩ := exists_step_of_follow hfollow
      refine ih (fun outer name heq => ?_) hrest
      rcases h.isDirectory_of_step hdirectory hstep with hnext | hnext
      · exact h outer name .directory (heq ▸ hnext)
      · rwa [(List.append_inj' (heq.symm.trans hnext) rfl).1]
  exact hall (by simp) hfollow outer name htarget

/-- Names without `..` lead to a directory that is there if they lead there in any workspace. -/
theorem follow_of_follow (h : workspace.IsTree) {names : List String}
    (hroot : "/" ∉ names.tail) (hup : ".." ∉ names) (hfollow : after.follow [] names = .ok target)
    (htarget : workspace.find? target = some .directory) : workspace.follow [] names = .ok target := by
  have hinner : ∀ (rest : List String) (place : Place), "/" ∉ rest → ".." ∉ rest →
      after.follow place rest = .ok target → workspace.follow place rest = .ok target := by
    intro rest
    induction rest with
    | nil => exact fun _ _ _ hfollow => hfollow
    | cons name rest ih =>
      intro place hroot hup hfollow
      obtain ⟨way, hway⟩ := isPrefix_of_follow hroot hup hfollow
      have hplace : workspace.find? place = some .directory := by
        by_cases hne : way = []
        · rw [← hway, hne, List.append_nil] at htarget
          exact htarget
        · exact h.isDirectory_of_append hne (hway ▸ htarget)
      obtain ⟨-, next, hstep, hrest⟩ := exists_step_of_follow hfollow
      rw [follow_cons_of_directory hplace, hstep]
      exact ih next (fun hmem => hroot (List.mem_cons_of_mem _ hmem)) (fun hmem => hup (List.mem_cons_of_mem _ hmem))
        hrest
  cases names with
  | nil => exact hfollow
  | cons name rest =>
    obtain ⟨-, next, hstep, hrest⟩ := exists_step_of_follow hfollow
    have hstart : workspace.find? [] = some .directory := rfl
    rw [follow_cons_of_directory hstart, hstep]
    exact hinner rest next hroot (fun hmem => hup (List.mem_cons_of_mem _ hmem)) hrest

/-- Something new in a directory leaves a tree, if nothing stood in it. -/
theorem put (h : workspace.IsTree) {entry : Entry}
    (hfree : workspace.find? target ≠ some .directory ∨ entry = .directory)
    (houter : ∀ outer name, target = outer ++ [name] → workspace.find? outer = some .directory) :
    (workspace.put target entry).IsTree := by
  intro place name found hfind
  cases hfixed : fixed? target with
  | some fixed =>
    rw [find?_put_of_fixed hfixed] at hfind ⊢
    exact h place name found hfind
  | none =>
    have hplace : workspace.find? place = some .directory := by
      rw [find?_put hfixed] at hfind
      split at hfind
      · next heq => exact houter place name heq.symm
      · exact h place name found hfind
    rw [find?_put hfixed]
    split
    · next heq => exact hfree.elim (fun hne => absurd (heq ▸ hplace) hne) (congrArg some)
    · exact hplace

theorem makeDirectory (h : workspace.IsTree) {names : List String}
    (hmake : workspace.makeDirectory names = .ok made) : made.IsTree := by
  obtain ⟨place, last, target, hplace, hstep, hnone, rfl, -⟩ := exists_of_makeDirectory hmake
  refine h.put (.inr rfl) fun outer name heq => ?_
  rcases h.isDirectory_of_step hplace hstep with hthere | hinside
  · rw [hnone] at hthere
    cases hthere
  · rwa [← (List.append_inj' (hinside.symm.trans heq) rfl).1]

theorem makeNested (h : workspace.IsTree) {ways : List (List String)}
    (hmake : workspace.makeNested ways = some made) : made.IsTree := by
  induction ways generalizing made with
  | nil =>
    cases hmake
    exact h
  | cons names outer ih =>
    obtain ⟨between, hbetween, hmake⟩ := exists_of_makeNested hmake
    have hbefore : between.IsTree := by
      rcases hbetween with rfl | hbetween
      · exact h
      · exact ih hbetween
    rcases hmake with hmake | ⟨rfl, -⟩
    · exact hbefore.makeDirectory hmake
    · exact hbefore

theorem makeDirectories (h : workspace.IsTree) {path : String}
    (hmake : workspace.makeDirectories path = some made) : made.IsTree := by
  unfold Workspace.makeDirectories at hmake
  split at hmake
  · cases hmake
  · exact h.makeNested hmake

theorem writeText (h : workspace.IsTree) {path text : String}
    (hwrite : workspace.writeText path text = some after) : after.IsTree := by
  obtain ⟨spot, hspot, hfree, rfl⟩ := exists_of_writeText hwrite
  exact h.put (.inl hfree) fun outer name heq => h.isDirectory_of_follow ((of_resolve hspot).2) heq

end IsTree

/-! ## Files under their paths -/

theorem find?_foldl_directory (places : List Place) (workspace : Workspace) (other : Place) :
    (places.foldl (fun made place => made.put place .directory) workspace).find? other =
      if other ∈ places then (fixed? other).or (some .directory) else workspace.find? other := by
  induction places generalizing workspace with
  | nil => simp
  | cons first rest ih =>
    rw [List.foldl_cons, ih]
    by_cases hrest : other ∈ rest
    · simp [hrest]
    · by_cases hfirst : other = first
      · subst hfirst
        simp [hrest, find?, put]
      · have hb : (other == first) = false := by simpa using hfirst
        simp [hrest, hfirst, find?, put, List.lookup_cons, hb]

theorem mem_takes {place way : Place} :
    way ∈ ((List.range place.length).drop 1).map place.take ↔ way ≠ [] ∧ way <+: place ∧ way ≠ place := by
  rw [List.mem_map]
  constructor
  · rintro ⟨count, hcount, rfl⟩
    have hpositive : 0 < count ∧ count < place.length := by
      rw [List.range_eq_range', List.drop_range', List.mem_range'_1] at hcount
      omega
    have hlength : (place.take count).length = count := List.length_take_of_le (by omega)
    refine ⟨fun heq => ?_, List.take_prefix .., fun heq => ?_⟩
    · rw [heq, List.length_nil] at hlength
      omega
    · rw [heq] at hlength
      omega
  · rintro ⟨hne, ⟨rest, rfl⟩, hproper⟩
    refine ⟨way.length, ?_, List.take_left' rfl⟩
    have hway := List.length_pos_iff.2 hne
    have hrest : 0 < rest.length := List.length_pos_iff.2 (by simpa using hproper)
    rw [List.range_eq_range', List.drop_range', List.mem_range'_1, List.length_append]
    omega

/-- Files that can be in one workspace: their names stand for themselves, and none is where another needs a
directory. -/
structure AreFiles (files : List (String × String)) : Prop where
  ordinary : ∀ file ∈ files, ∀ name ∈ names file.1, IsOrdinary name
  apart : ∀ file ∈ files, ∀ other ∈ files, names file.1 <+: names other.1 → names file.1 = names other.1

theorem fixed?_of_ordinary {names : List String} (h : ∀ name ∈ names, IsOrdinary name) (hne : names ≠ []) :
    fixed? (place ++ names) = none := by
  rw [← List.dropLast_concat_getLast hne, ← List.append_assoc]
  exact fixed?_of_isOrdinary (h _ (List.getLast_mem hne))

/-- Put a file with the directories that it stands in. -/
def putNested (workspace : Workspace) (place : Place) (text : String) : Workspace :=
  ((((List.range place.length).drop 1).map place.take).foldl (put · · .directory) workspace).put place (.file text)

/-- A file with the directories that it stands in leaves a tree, and no other directory is new. -/
theorem IsTree.putNested (h : workspace.IsTree) (hne : place ≠ []) (hordinary : ∀ name ∈ place, IsOrdinary name)
    (hfree : workspace.find? place ≠ some .directory) (text : String) : (workspace.putNested place text).IsTree ∧
      ∀ other, (workspace.putNested place text).find? other = some .directory →
        workspace.find? other = some .directory ∨ other <+: place ∧ other ≠ place := by
  have hmade := find?_foldl_directory (((List.range place.length).drop 1).map place.take) workspace
  simp only [mem_takes] at hmade
  unfold Workspace.putNested
  generalize (((List.range place.length).drop 1).map place.take).foldl
    (fun made place => made.put place .directory) workspace = made at *
  have hway : ∀ {way : Place}, way ≠ [] → way <+: place → fixed? way = none := by
    intro way hne hstarts
    rw [← List.nil_append way]
    exact fixed?_of_ordinary (fun name hname => hordinary name (hstarts.subset hname)) hne
  have houter : ∀ {outer : Place} {name : String}, outer ++ [name] <+: place →
      made.find? outer = some .directory := by
    intro outer name hstarts
    by_cases hempty : outer = []
    · subst hempty
      rfl
    · have hproper : outer ≠ place := by
        rintro rfl
        exact absurd hstarts.length_le (by simp)
      have hstarts := (List.prefix_append outer [name]).trans hstarts
      rw [hmade, if_pos ⟨hempty, hstarts, hproper⟩, hway hempty hstarts]
      rfl
  have htree : made.IsTree := by
    intro outer name entry hfind
    by_cases hstarts : outer ++ [name] <+: place
    · exact houter hstarts
    · rw [hmade, if_neg fun hall => hstarts hall.2.1] at hfind
      rw [hmade]
      split
      · next hall =>
        rw [hway hall.1 hall.2.1]
        rfl
      · exact h outer name entry hfind
  have hplace : made.find? place ≠ some .directory := by
    rwa [hmade, if_neg fun hall => hall.2.2 rfl]
  have hlast : ∀ outer name, place = outer ++ [name] → made.find? outer = some .directory := by
    intro outer name heq
    have hself : outer ++ [name] <+: place := heq ▸ List.prefix_rfl
    exact houter hself
  refine ⟨htree.put (.inl hplace) hlast, fun other hother => ?_⟩
  rw [find?_put (hway hne (List.prefix_refl _)), hmade] at hother
  split at hother
  · cases hother
  · split at hother
    · next hall => exact .inr hall.2
    · exact .inl hother

/-- With the directories that they stand in, files make a tree. -/
theorem isTree_ofFiles {files : List (String × String)} (h : AreFiles files) : (ofFiles files).IsTree := by
  have hall : ∀ (rest : List (String × String)) (workspace : Workspace), (∀ file ∈ rest, file ∈ files) →
      workspace.IsTree → (∀ file ∈ rest, workspace.find? (names file.1) ≠ some .directory) →
        (rest.foldl (fun workspace file => workspace.putNested ((names file.1).filter (· ≠ "")) file.2)
          workspace).IsTree := by
    intro rest
    induction rest with
    | nil => exact fun _ _ htree _ => htree
    | cons file rest ih =>
      intro workspace hrest htree hfree
      have hfile := hrest file List.mem_cons_self
      have hordinary := h.ordinary file hfile
      have hplace : (names file.1).filter (· ≠ "") = names file.1 :=
        List.filter_eq_self.2 fun name hname => decide_eq_true fun heq =>
          hordinary name hname (heq ▸ List.mem_cons_self)
      rw [List.foldl_cons, hplace]
      obtain ⟨htree, hnew⟩ :=
        htree.putNested (names_ne_nil _) hordinary (hfree file List.mem_cons_self) file.2
      refine ih _ (fun other hother => hrest other (List.mem_cons_of_mem _ hother)) htree
        fun other hother hfind => ?_
      rcases hnew _ hfind with hthere | ⟨hstarts, hne⟩
      · exact hfree other (List.mem_cons_of_mem _ hother) hthere
      · exact hne (h.apart other (hrest other (List.mem_cons_of_mem _ hother)) file hfile hstarts)
  have hfixed : ∀ place, find? ⟨[]⟩ place = fixed? place := fun _ => Option.or_none
  refine hall files ⟨[]⟩ (fun _ hf => hf) (fun place name entry hfind => ?_) fun file hf => ?_
  · exact isTree_empty place name entry hfind
  · rw [hfixed, ← List.nil_append (names file.1), fixed?_of_ordinary (h.ordinary file hf) (names_ne_nil _)]
    simp

end EntityScaffold.Command.Workspace
