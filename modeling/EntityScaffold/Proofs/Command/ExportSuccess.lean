import EntityScaffold.Proofs.Command.Exports
import Mathlib.Data.List.Induction
import Mathlib.Data.List.Infix

/-! # Exports that end well

Below a directory that is there, directories can be made and files written as long as no file is in the way of a
directory and no directory in that of a file. So an export ends well if nothing is in its way at first.
-/

namespace EntityScaffold.Command

namespace Workspace

variable {workspace made next : Workspace} {place : Place}

/-! ## Directories below a directory -/

section

variable {start names : List String} {name : String}

/-- No file is in the way of directories under some names. -/
def IsOpen (workspace : Workspace) (place : Place) (names : List String) : Prop :=
  ∀ way, way <+: names → workspace.find? (place ++ way) = none ∨ workspace.find? (place ++ way) = some .directory

instance (workspace : Workspace) (place : Place) (names : List String) : Decidable (workspace.IsOpen place names) :=
  decidable_of_iff (∀ way ∈ names.inits,
    workspace.find? (place ++ way) = none ∨ workspace.find? (place ++ way) = some .directory)
    (forall_congr' fun way => by rw [List.mem_inits])

theorem IsOpen.of_append {rest : List String} (h : workspace.IsOpen place (names ++ rest)) :
    workspace.IsOpen place names :=
  fun way hway => h way (hway.trans (List.prefix_append ..))

/-- Where nothing is in the way, names lead on, or something is missing. -/
theorem IsTree.follow_of_isOpen (htree : workspace.IsTree) (hopen : workspace.IsOpen place names)
    (hordinary : ∀ name ∈ names, IsOrdinary name ∧ isName name) :
    workspace.follow place names = .ok (place ++ names) ∨
      workspace.follow place names = .error .missing ∧ workspace.find? (place ++ names) = none := by
  induction names generalizing place with
  | nil => exact .inl (by rw [List.append_nil]; rfl)
  | cons name rest ih =>
    obtain ⟨hname, hfits⟩ := hordinary name List.mem_cons_self
    rcases List.append_nil place ▸ hopen [] List.nil_prefix with hmissing | hdirectory
    · refine .inr ⟨by rw [follow, hmissing], ?_⟩
      cases hfind : workspace.find? (place ++ name :: rest) with
      | none => rfl
      | some entry =>
        rw [htree.isDirectory_of_append (List.cons_ne_nil name rest) hfind] at hmissing
        cases hmissing
    · have hrest : workspace.IsOpen (place ++ [name]) rest := fun way hway => by
        rw [← List.append_cons]
        exact hopen (name :: way) (List.cons_prefix_cons.2 ⟨rfl, hway⟩)
      rw [List.append_cons place name rest, follow_cons_of_directory hdirectory, step_of_isOrdinary hname,
        if_pos hfits]
      exact ih hrest fun other ho => hordinary other (List.mem_cons_of_mem _ ho)

/-- A directory is made in one that is there. -/
theorem IsTree.makeDirectory_append (htree : workspace.IsTree) (hstart : workspace.follow [] start = .ok place)
    (hopen : workspace.IsOpen place names) (hordinary : ∀ name ∈ names, IsOrdinary name ∧ isName name)
    (hname : IsOrdinary name ∧ isName name) : workspace.makeDirectory (start ++ names ++ [name]) =
      if workspace.find? (place ++ names) = some .directory then
        if (workspace.find? (place ++ names ++ [name])).isSome then .error .refused
        else .ok (workspace.put (place ++ names ++ [name]) .directory)
      else .error .missing := by
  have hsplit : splitLast (start ++ names ++ [name]) = some (start ++ names, name) := by
    have hne : (name == "") = false := by
      refine beq_eq_false_iff_ne.2 fun heq => hname.1 ?_
      rw [heq]
      decide
    simp [splitLast, hne]
  have hfollow : workspace.follow [] (start ++ names) = workspace.follow place names := by
    rw [follow_append, hstart]
    rfl
  rw [Workspace.makeDirectory, hsplit]
  dsimp only
  rw [hfollow]
  rcases htree.follow_of_isOpen hopen hordinary with hplace | ⟨hmissing, hnone⟩
  · rw [hplace]
    dsimp only
    rcases hopen names List.prefix_rfl with hnone | hdirectory
    · rw [hnone]
      rfl
    · rw [hdirectory, step_of_isOrdinary hname.1, if_pos hname.2]
      rfl
  · rw [hmissing, hnone]
    rfl

/-- Around a directory are the one that it stands in and those around that. -/
theorem around_of_onward {inner : List String} (h : onward names = inner ++ [name]) (hinner : onward inner = inner)
    (hne : inner ≠ []) : around names = inner :: around inner := by
  have hlength : 1 ≤ (List.range inner.length).length := by
    rw [List.length_range]
    exact List.length_pos_iff.2 hne
  have htakes : ∀ count ∈ ((List.range inner.length).drop 1).reverse,
      (inner ++ [name]).take count = inner.take count := by
    intro count hcount
    have hlt := List.mem_range.1 (List.mem_of_mem_drop (List.mem_reverse.1 hcount))
    exact List.take_append_of_le_length (Nat.le_of_lt hlt)
  change ((List.range (onward names).length).drop 1).reverse.map (onward names).take =
    inner :: ((List.range (onward inner).length).drop 1).reverse.map (onward inner).take
  rw [h, hinner, List.length_append, List.length_singleton, List.range_succ, List.drop_append_of_le_length hlength,
    List.reverse_append, List.reverse_singleton, List.singleton_append, List.map_cons, List.map_congr_left htakes,
    List.take_left]

theorem IsOpen.of_makesDirectories (h : workspace.IsOpen place names) {ways : List String → Prop}
    (hmakes : workspace.MakesDirectories made ways) : made.IsOpen place names := by
  intro way hway
  rcases hmakes (place ++ way) with hsame | ⟨-, hnew, -⟩
  · rw [hsame]
    exact h way hway
  · exact .inr hnew

/-- In a directory that is there another is made or there. -/
theorem IsTree.makeDirectory_of_there (htree : workspace.IsTree) (hstart : workspace.follow [] start = .ok place)
    (hopen : workspace.IsOpen place (names ++ [name]))
    (hordinary : ∀ other ∈ names ++ [name], IsOrdinary other ∧ isName other)
    (hthere : workspace.find? (place ++ names) = some .directory) :
    (∃ made, workspace.makeDirectory (start ++ names ++ [name]) = .ok made) ∨
      workspace.makeDirectory (start ++ names ++ [name]) = .error .refused ∧
        workspace.isDirectory (start ++ names ++ [name]) = true := by
  have hmake := htree.makeDirectory_append hstart hopen.of_append
    (fun other ho => hordinary other (List.mem_append_left _ ho))
    (hordinary name (List.mem_append_right _ (List.mem_singleton.2 rfl)))
  rw [if_pos hthere] at hmake
  rcases hopen _ List.prefix_rfl with hnone | hdirectory
  · rw [← List.append_assoc] at hnone
    rw [hnone] at hmake
    exact .inl ⟨_, hmake⟩
  · have hfollow : workspace.follow [] (start ++ names ++ [name]) = .ok (place ++ (names ++ [name])) := by
      rw [List.append_assoc, follow_append, hstart]
      rcases htree.follow_of_isOpen hopen hordinary with hfollow | ⟨-, hnone⟩
      · exact hfollow
      · rw [hdirectory] at hnone
        cases hnone
    refine .inr ⟨?_, isDirectory_iff.2 ⟨_, hfollow, hdirectory⟩⟩
    rw [← List.append_assoc] at hdirectory
    rwa [hdirectory] at hmake

/-- The directories around one among others, whose names do not count, are the one that it stands in and those
around that. -/
theorem around_append_singleton (hnames : ∀ other ∈ names ++ [name], IsOrdinary other ∧ isName other)
    (hne : names ≠ []) :
    around (start ++ names ++ [name]) = (onward start ++ names) :: around (onward start ++ names) := by
  have hself : onward (names ++ [name]) = names ++ [name] := onward_eq_self fun other ho => (hnames other ho).1
  have hinner : onward (onward start ++ names) = onward start ++ names := by
    rw [onward_append, onward_onward,
      onward_eq_self fun other ho => (hnames other (List.mem_append_left _ ho)).1]
  have houter : onward (start ++ names ++ [name]) = onward start ++ names ++ [name] := by
    rw [List.append_assoc, onward_append, hself, List.append_assoc]
  exact around_of_onward houter hinner (by simp [hne])

theorem exists_makeNested_of_there {outer : List (List String)}
    (h : (∃ made, workspace.makeDirectory names = .ok made) ∨
      workspace.makeDirectory names = .error .refused ∧ workspace.isDirectory names = true) :
    ∃ made, workspace.makeNested (names :: outer) = some made := by
  rw [Workspace.makeNested]
  rcases h with ⟨made, hmade⟩ | ⟨hrefused, hdirectory⟩
  · rw [hmade]
    exact ⟨made, rfl⟩
  · rw [hrefused]
    dsimp only
    rw [if_pos hdirectory]
    exact ⟨workspace, rfl⟩

theorem exists_makeNested_of_missing {outer : List (List String)} {between : Workspace}
    (hmissing : workspace.makeDirectory names = .error .missing) (hbetween : workspace.makeNested outer = some between)
    (h : (∃ made, between.makeDirectory names = .ok made) ∨
      between.makeDirectory names = .error .refused ∧ between.isDirectory names = true) :
    ∃ made, workspace.makeNested (names :: outer) = some made := by
  rw [Workspace.makeNested, hmissing]
  dsimp only
  rw [hbetween, Option.bind_some]
  rcases h with ⟨made, hmade⟩ | ⟨hrefused, hdirectory⟩
  · rw [hmade]
    exact ⟨made, rfl⟩
  · rw [hrefused]
    dsimp only
    rw [if_pos hdirectory]
    exact ⟨between, rfl⟩

/-- What is made below a directory is there. -/
theorem find?_of_makeNested {outer : List (List String)}
    (hmade : workspace.makeNested ((start ++ names) :: outer) = some made)
    (hstart : made.follow [] start = .ok place) (hordinary : ∀ name ∈ names, IsOrdinary name) :
    made.find? (place ++ names) = some .directory := by
  obtain ⟨target, hfollow, htarget⟩ := isDirectory_iff.1 (isDirectory_of_makeNested hmade)
  rw [follow_append, hstart] at hfollow
  rw [← eq_of_follow hordinary hfollow]
  exact htarget

/-- Directories are made below one that is there if nothing is in the way. -/
theorem IsTree.exists_makeNested (htree : workspace.IsTree) (hstart : workspace.follow [] start = .ok place)
    (hplace : workspace.find? place = some .directory) (hne : names ≠ [])
    (hopen : workspace.IsOpen place names) (hordinary : ∀ name ∈ names, IsOrdinary name ∧ isName name) :
    ∃ made, workspace.makeNested ((start ++ names) :: around (start ++ names)) = some made := by
  induction names using List.reverseRecOn generalizing start with
  | nil => exact absurd rfl hne
  | append_singleton before name ih =>
    have hbefore : ∀ name ∈ before, IsOrdinary name ∧ isName name := fun other ho =>
      hordinary other (List.mem_append_left _ ho)
    rw [← List.append_assoc]
    rcases hopen.of_append before List.prefix_rfl with hnone | hthere
    · -- The directory that this one stands in is missing, so that it is made first.
      have hne : before ≠ [] := by
        rintro rfl
        rw [List.append_nil, hplace] at hnone
        cases hnone
      have hmissing := htree.makeDirectory_append hstart hopen.of_append hbefore
        (hordinary name (List.mem_append_right _ (List.mem_singleton.2 rfl)))
      rw [hnone, if_neg (by simp)] at hmissing
      obtain ⟨between, hbetween⟩ := ih (follow_onward hstart) hne hopen.of_append hbefore
      have hmakes := makesDirectories_of_makeNested hbetween
      have hstart' := hmakes.keeps.follow hstart
      have hthere := find?_of_makeNested hbetween (follow_onward hstart') fun other ho => (hbefore other ho).1
      rw [around_append_singleton hordinary hne]
      exact exists_makeNested_of_missing hmissing hbetween
        ((htree.makeNested hbetween).makeDirectory_of_there hstart' (hopen.of_makesDirectories hmakes) hordinary
          hthere)
    · exact exists_makeNested_of_there (htree.makeDirectory_of_there hstart hopen hordinary hthere)

end

/-! ## Templates below a directory -/

variable {directory path : String}

/-- Nothing is in the way of a template. -/
structure IsFree (workspace : Workspace) (directory : String) (place : Place) (path : String) : Prop where
  around : workspace.IsOpen place (names path).dropLast
  own : workspace.find? (place ++ names path) ≠ some .directory
  fits : ¬ maxPathSize < (joinPath directory path).utf8ByteSize

/-- The names before those of something inside of a directory lead to the directory. -/
theorem exists_start (hleads : workspace.follow [] (names directory) = .ok place)
    (hplace : workspace.find? place = some .directory) (h : isAbsolute path = false) :
    ∃ start, names (joinPath directory path) = start ++ names path ∧ workspace.follow [] start = .ok place := by
  rcases names_joinPath directory h with hnames | ⟨before, hdirectory, hnames⟩
  · exact ⟨_, hnames, hleads⟩
  · rw [hdirectory] at hleads
    obtain ⟨between, hbefore, hbetween, hblank⟩ := exists_of_follow_append hleads hplace
    rw [follow_cons_of_directory hbetween] at hblank
    cases hblank
    exact ⟨before, hnames, hbefore⟩

/-- The directory that a template stands in can be made. -/
theorem IsFree.exists_makeDirectories (h : workspace.IsFree directory place path) (hpath : IsInner path)
    (htree : workspace.IsTree) (hleads : workspace.follow [] (names directory) = .ok place)
    (hplace : workspace.find? place = some .directory) :
    ∃ made, workspace.makeDirectories (parentPath (joinPath directory path)) = some made := by
  obtain ⟨parent, file, hrelative, hnames, hparent⟩ := hpath.exists_parent
  obtain ⟨hparent, hsize⟩ := hparent directory
  have hdirectories : (names path).dropLast = names parent := by rw [hnames, List.dropLast_concat]
  have hinner : ∀ name ∈ names parent, IsOrdinary name ∧ isName name := fun name hname =>
    have hmem : name ∈ names path := hnames ▸ List.mem_append_left _ hname
    ⟨hpath.ordinary name hmem, hpath.fits name hmem⟩
  have hshort : ¬ maxPathSize < (joinPath directory parent).utf8ByteSize := fun hlong =>
    h.fits (Nat.lt_of_lt_of_le hlong hsize)
  obtain ⟨start, hstart, hfollow⟩ := exists_start hleads hplace hrelative
  rw [hparent, makeDirectories, if_neg hshort, hstart]
  exact htree.exists_makeNested hfollow hplace (names_ne_nil parent) (hdirectories ▸ h.around) hinner

/-- Once the directory that a template stands in is made, the path of the template leads below the directory of
the export. -/
theorem resolve_of_makeDirectories (hpath : IsInner path)
    (hfits : ¬ maxPathSize < (joinPath directory path).utf8ByteSize)
    (hmade : workspace.makeDirectories (parentPath (joinPath directory path)) = some made)
    (hleads : made.follow [] (names directory) = .ok place) :
    made.resolve (joinPath directory path) = .ok (place ++ names path) := by
  obtain ⟨parent, file, hrelative, hnames, hparent⟩ := hpath.exists_parent
  obtain ⟨hparent, -⟩ := hparent directory
  rw [hparent] at hmade
  have hinner : ∀ name ∈ names parent, IsOrdinary name := fun name hname =>
    hpath.ordinary name (hnames ▸ List.mem_append_left _ hname)
  have hlast : file ∈ names path := hnames ▸ List.mem_append_right _ (List.mem_singleton.2 rfl)
  obtain ⟨target, hfollow, htarget⟩ := exists_place_of_makeDirectories hmade
  rw [follow_joinPath_relative directory hrelative, follow_append, hleads] at hfollow
  obtain rfl := eq_of_follow hinner hfollow
  have hfollow : made.follow place (names parent) = .ok (place ++ names parent) := hfollow
  have hall : made.follow place (names path) = .ok (place ++ names path) := by
    rw [hnames, follow_append, hfollow, Except.bind, follow_cons_of_directory htarget,
      step_of_isOrdinary (hpath.ordinary file hlast), if_pos (hpath.fits file hlast), ← List.append_assoc]
    rfl
  rw [resolve, if_neg hfits, hpath.isEmpty_joinPath, follow_joinPath_relative directory hpath.relative,
    follow_append, hleads]
  exact hall

/-- Making the directory that a template stands in puts no directory in its own place. -/
theorem IsFree.find?_ne_directory (h : workspace.IsFree directory place path) (hpath : IsInner path)
    (hleads : workspace.follow [] (names directory) = .ok place)
    (hplace : workspace.find? place = some .directory)
    (hmade : workspace.makeDirectories (parentPath (joinPath directory path)) = some made) :
    made.find? (place ++ names path) ≠ some .directory := by
  have hmakes := hpath.makesDirectories hmade
  have hproper : ¬ names path <+: (names path).dropLast := fun hstarts => by
    have hlength := hstarts.length_le
    have hpositive := List.length_pos_iff.2 (names_ne_nil path)
    rw [List.length_dropLast] at hlength
    omega
  rcases hmakes (place ++ names path) with hsame | ⟨hnone, -, way, ⟨count, rfl⟩, hway⟩
  · rw [hsame]
    exact h.own
  · have hthere := isDirectory_iff.2 ⟨place, hleads, hplace⟩
    exact absurd rfl (ne_of_new (hmakes.keeps.follow hleads) hmakes.keeps hpath hproper (.inr hthere) hnone hway)

/-- A template can be written below a directory that is there if nothing is in its way. -/
theorem IsFree.exists_writeText (h : workspace.IsFree directory place path) (hpath : IsInner path)
    (htree : workspace.IsTree) (hleads : workspace.follow [] (names directory) = .ok place)
    (hplace : workspace.find? place = some .directory) (source : String) :
    ∃ made next, workspace.makeDirectories (parentPath (joinPath directory path)) = some made ∧
      made.writeText (joinPath directory path) source = some next := by
  obtain ⟨made, hmade⟩ := h.exists_makeDirectories hpath htree hleads hplace
  have hleads' := (hpath.makesDirectories hmade).keeps.follow hleads
  have hfree := h.find?_ne_directory hpath hleads hplace hmade
  have hwrite : made.writeText (joinPath directory path) source =
      some (made.put (place ++ names path) (.file source)) := by
    rw [writeText, resolve_of_makeDirectories hpath h.fits hmade hleads']
    dsimp only
    split
    · next hfind => exact absurd hfind hfree
    · rfl
    · rfl
  exact ⟨made, _, hmade, hwrite⟩

/-- What is free stays free when another template is written. -/
theorem IsFree.of_writesTemplate {other source : String} (h : workspace.IsFree directory place other)
    (hwrites : WritesTemplate workspace next directory place path source) (hpath : IsInner path)
    (hapart : ¬ names other <+: names path ∧ ¬ names path <+: names other)
    (hthere : workspace.isDirectory (names directory)) : next.IsFree directory place other := by
  refine ⟨fun way hway => ?_, ?_, h.fits⟩
  · have hne : place ++ way ≠ place ++ names path := by
      intro heq
      refine hapart.2 ?_
      rw [← List.append_cancel_left heq]
      exact hway.trans (List.dropLast_prefix _)
    rcases hwrites.others _ hne with hsame | ⟨-, hnew, -⟩
    · rw [hsame]
      exact h.around way hway
    · exact .inr hnew
  · have hne : place ++ names other ≠ place ++ names path := fun heq =>
      hapart.1 (List.append_cancel_left heq ▸ List.prefix_rfl)
    rcases hwrites.others _ hne with hsame | ⟨hnone, -, count, hway⟩
    · rw [hsame]
      exact h.own
    · have hparent : ¬ names other <+: (names path).dropLast := fun hstarts =>
        hapart.1 (hstarts.trans (List.dropLast_prefix _))
      exact absurd rfl (ne_of_new hwrites.leads hwrites.keeps hpath hparent (.inr hthere) hnone hway)

end Workspace

/-! ## Runs -/

open Workspace

variable {directory : String} {force : Bool} {templates : List (String × String)} {place : Place}

/-- An export below a directory that is there ends well if nothing is in the way of any template. -/
theorem exists_run_exportEach (htemplates : AreTemplates templates) {session : Session}
    (htree : session.workspace.IsTree) (hleads : session.workspace.follow [] (names directory) = .ok place)
    (hplace : session.workspace.find? place = some .directory)
    (hfree : ∀ template ∈ templates, session.workspace.IsFree directory place template.1) :
    ∃ count after, (exportEach directory force templates : CommandM (StateM Session) Nat).run session =
      (.ok count, after) := by
  induction templates generalizing session with
  | nil => exact ⟨0, session, rfl⟩
  | cons template rest ih =>
    obtain ⟨path, source⟩ := template
    have hrest : ∀ template ∈ rest, session.workspace.IsFree directory place template.1 := fun template ht =>
      hfree template (List.mem_cons_of_mem _ ht)
    cases hkept : session.workspace.isKept directory force (path, source) with
    | true =>
      rw [run_exportEach_keep hkept]
      exact ih htemplates.tail htree hleads hplace hrest
    | false =>
      have hpath := htemplates.inner _ List.mem_cons_self
      obtain ⟨made, next, hmade, hnext⟩ :=
        (hfree _ List.mem_cons_self).exists_writeText hpath htree hleads hplace source
      obtain ⟨start, hwrites⟩ := exists_writesTemplate hpath hmade hnext
      obtain rfl : start = place := Except.ok.inj (hwrites.leads.symm.trans (hwrites.keeps.follow hleads))
      have hthere := isDirectory_iff.2 ⟨_, hleads, hplace⟩
      have hstay : ∀ template ∈ rest, next.IsFree directory start template.1 := fun template ht =>
        (hrest template ht).of_writesTemplate hwrites hpath
          ((List.pairwise_cons.1 htemplates.apart).1 template ht).symm hthere
      have hnextTree : ({ session with workspace := next } : Session).workspace.IsTree :=
        (htree.makeDirectories hmade).writeText hnext
      obtain ⟨count, after, hrun⟩ := ih htemplates.tail hnextTree hwrites.leads (hwrites.keeps _ hplace) hstay
      exact ⟨count + 1, after, run_exportEach_of_written hkept hmade hnext hrun⟩

theorem exists_run_exportAll (htemplates : AreTemplates templates) (session : Session) (force : Bool)
    (htree : session.workspace.IsTree) (hleads : session.workspace.follow [] (names directory) = .ok place)
    (hplace : session.workspace.find? place = some .directory)
    (hfree : ∀ template ∈ templates, session.workspace.IsFree directory place template.1) :
    ∃ after, (exportAll directory force templates : CommandM (StateM Session) Unit).run session =
      (.ok (), after) := by
  obtain ⟨count, after, hrun⟩ := exists_run_exportEach htemplates htree hleads hplace hfree
  refine ⟨{ after with diagnostics := after.diagnostics ++ exportedText directory count }, ?_⟩
  rw [run_exportAll, hrun]

end EntityScaffold.Command
