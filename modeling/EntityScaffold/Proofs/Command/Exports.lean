import EntityScaffold.Command.Export
import EntityScaffold.Proofs.Command.Directories
import EntityScaffold.Proofs.Command.Outputs

/-! # Exporting templates

Templates are written into a directory one after the other, each with the directories that it stands in. What
stands there already is kept, as far as its path leads there at that time.
-/

namespace EntityScaffold

namespace Command

namespace Workspace

variable {workspace made next after : Workspace} {place target : Place} {directory path source : String}
  {force : Bool} {templates written kept : List (String × String)}

/-! ## Paths below a directory -/

/-- Something goes before the paths of all that is inside of a directory. -/
theorem exists_joinPath_eq (directory : String) :
    ∃ start, ∀ path, isAbsolute path = false → joinPath directory path = start ++ path := by
  by_cases hempty : directory.isEmpty
  · exact ⟨"", fun path h => by rw [joinPath, h, hempty]; exact (String.empty_append).symm⟩
  · by_cases hslash : directory.toList.getLast? == some '/'
    · exact ⟨directory, fun path h => by simp [joinPath, h, hempty, hslash]⟩
    · exact ⟨directory ++ "/", fun path h => by simp [joinPath, h, hempty, hslash]⟩

/-- What stands before the last slash is the path of the directory. -/
theorem parentPath_of_split {before file : List Char} (h : path.toList = before ++ '/' :: file)
    (hfile : '/' ∉ file) : parentPath path = String.ofList before := by
  have hdrop : Text.dropEndWhile (· != '/') path.toList = before ++ ['/'] := by
    have hall : ∀ c ∈ file.reverse, (c != '/') = true := fun c hc =>
      bne_iff_ne.2 (ne_of_mem_of_not_mem (List.mem_reverse.1 hc) hfile)
    rw [Text.dropEndWhile, h, List.reverse_append, List.reverse_cons, List.append_assoc,
      List.dropWhile_append_of_pos hall]
    simp
  rw [parentPath, hdrop, List.dropLast_concat]

/-- A path that goes from a directory into another one inside of it, and on. -/
structure IsInner (path : String) : Prop where
  ordinary : ∀ name ∈ names path, IsOrdinary name
  fits : ∀ name ∈ names path, isName name
  nested : 1 < (names path).length

namespace IsInner

theorem relative (h : IsInner path) : isAbsolute path = false := by
  refine Bool.eq_false_iff.2 fun habsolute => h.ordinary "/" ?_ (by decide)
  rw [names, if_pos habsolute]
  exact List.mem_append_left _ (List.mem_singleton.2 rfl)

theorem slash_mem (h : IsInner path) : '/' ∈ path.toList := by
  by_contra hslash
  have hnested := h.nested
  rw [names_eq_singleton hslash] at hnested
  exact Nat.lt_irrefl _ hnested

theorem fixed?_eq_none (h : IsInner path) (place : Place) : fixed? (place ++ names path) = none :=
  fixed?_of_ordinary h.ordinary (names_ne_nil path)

theorem isEmpty_joinPath (h : IsInner path) (directory : String) : (joinPath directory path).isEmpty = false := by
  refine Workspace.isEmpty_joinPath directory fun heq => ?_
  have hslash := h.slash_mem
  rw [heq] at hslash
  cases hslash

/-- All names but the last are those of the directory that the last one stands in. -/
theorem exists_parent (h : IsInner path) : ∃ parent file, isAbsolute parent = false ∧
    names path = names parent ++ [file] ∧
      ∀ directory, parentPath (joinPath directory path) = joinPath directory parent ∧
        (joinPath directory parent).utf8ByteSize ≤ (joinPath directory path).utf8ByteSize := by
  obtain ⟨before, file, hsplit, hfile⟩ : ∃ before file, path.toList = before ++ '/' :: file ∧ '/' ∉ file := by
    obtain ⟨file, before, hreverse, hfile⟩ := List.eq_append_cons_of_mem (List.mem_reverse.2 h.slash_mem)
    refine ⟨before.reverse, file.reverse, ?_, by simpa using hfile⟩
    rw [← List.reverse_reverse path.toList, hreverse]
    simp
  have hpath : path = String.ofList before ++ "/" ++ String.ofList file := by
    rw [← String.toList_inj, hsplit]
    simp
  have hrelative := h.relative
  have hparent : isAbsolute (String.ofList before) = false := by
    rw [isAbsolute, hsplit] at hrelative
    rw [isAbsolute, String.toList_ofList]
    cases before with
    | nil => cases hrelative
    | cons c cs => exact hrelative
  refine ⟨String.ofList before, String.ofList file, hparent, ?_, fun directory => ?_⟩
  · have hfile : '/' ∉ (String.ofList file).toList := by rwa [String.toList_ofList]
    have hstart : (String.ofList before ++ "/").toList = before ++ ['/'] := by simp
    have hne : String.ofList before ++ "/" ≠ "" := fun heq => by simp [heq] at hstart
    rw [hpath, isAbsolute_append hne] at hrelative
    rw [hpath, names_append hstart (isAbsolute_of_notMem hfile), hrelative, names_eq_singleton hfile, names, hparent,
      String.toList_ofList]
  · obtain ⟨start, hstart⟩ := exists_joinPath_eq directory
    rw [hstart path h.relative, hstart _ hparent]
    have hjoined : (start ++ path).toList = (start.toList ++ before) ++ '/' :: file := by
      rw [String.toList_append, hsplit, List.append_assoc]
    refine ⟨by rw [parentPath_of_split hjoined hfile, String.ofList_append, String.ofList_toList], ?_⟩
    rw [hpath]
    simp only [String.utf8ByteSize_append]
    omega

/-- Such a path leads from where the directory is along its own names. -/
theorem exists_of_resolve (h : IsInner path) (hresolve : workspace.resolve (joinPath directory path) = .ok target) :
    ∃ place, workspace.follow [] (names directory) = .ok place ∧ target = place ++ names path := by
  have hfollow := (of_resolve hresolve).2
  rw [follow_joinPath_relative directory h.relative, follow_append] at hfollow
  cases hplace : workspace.follow [] (names directory) with
  | error fault => rw [hplace] at hfollow; cases hfollow
  | ok place =>
    rw [hplace] at hfollow
    exact ⟨place, rfl, eq_of_follow h.ordinary hfollow⟩

theorem resolve_of_exists (h : IsInner path) (hresolve : workspace.resolve (joinPath directory path) = .ok target)
    (hplace : workspace.follow [] (names directory) = .ok place) : target = place ++ names path := by
  obtain ⟨other, hother, htarget⟩ := h.exists_of_resolve hresolve
  rw [hplace] at hother
  cases hother
  exact htarget

end IsInner

/-! ## One template -/

/-- A template is written below a directory, and apart from new directories on the way all is as it was before. -/
structure WritesTemplate (before after : Workspace) (directory : String) (place : Place)
    (path source : String) : Prop where
  leads : after.follow [] (names directory) = .ok place
  resolves : after.resolve (joinPath directory path) = .ok (place ++ names path)
  own : after.find? (place ++ names path) = some (.file source)
  keeps : before.KeepsDirectories after
  others : ∀ other, other ≠ place ++ names path → after.find? other = before.find? other ∨
    before.find? other = none ∧ after.find? other = some .directory ∧
      ∃ count, after.follow [] ((onward (names directory) ++ (names path).dropLast).take count) = .ok other

theorem onward_joinPath (directory : String) (h : isAbsolute path = false) :
    onward (names (joinPath directory path)) = onward (names directory) ++ onward (names path) := by
  rcases names_joinPath directory h with hnames | ⟨before, hdirectory, hnames⟩
  · rw [hnames, onward_append]
  · rw [hnames, hdirectory, onward_append, onward_append]
    exact congrArg (· ++ _) (List.append_nil _).symm

theorem onward_eq_self {names : List String} (h : ∀ name ∈ names, IsOrdinary name) : onward names = names := by
  refine List.filter_eq_self.2 fun name hname => ?_
  have hne : name ≠ "" ∧ name ≠ "." :=
    ⟨fun heq => h name hname (by rw [heq]; decide), fun heq => h name hname (by rw [heq]; decide)⟩
  simpa using hne

/-- New directories are on the way to the directory or on that of the template in it. -/
theorem IsInner.makesDirectories (h : IsInner path)
    (hmade : workspace.makeDirectories (parentPath (joinPath directory path)) = some made) :
    workspace.MakesDirectories made fun way =>
      ∃ count, way = (onward (names directory) ++ (names path).dropLast).take count := by
  obtain ⟨parent, file, hrelative, hnames, hparent⟩ := h.exists_parent
  have hdirectories : onward (names parent) = (names path).dropLast := by
    rw [hnames, List.dropLast_concat]
    exact onward_eq_self fun name hname => h.ordinary name (hnames ▸ List.mem_append_left _ hname)
  rw [(hparent directory).1] at hmade
  rw [← hdirectories, ← onward_joinPath directory hrelative]
  exact makesDirectories_of_makeDirectories hmade

theorem exists_writesTemplate (h : IsInner path)
    (hmade : workspace.makeDirectories (parentPath (joinPath directory path)) = some made)
    (hwrite : made.writeText (joinPath directory path) source = some next) :
    ∃ place, WritesTemplate workspace next directory place path source := by
  obtain ⟨spot, hspot, hfree, rfl⟩ := exists_of_writeText hwrite
  obtain ⟨place, hplace, rfl⟩ := h.exists_of_resolve hspot
  have hkeeps : made.KeepsDirectories (made.put (place ++ names path) (.file source)) := keepsDirectories_put hfree
  have hfind : ∀ other, (made.put (place ++ names path) (.file source)).find? other =
      if other = place ++ names path then some (.file source) else made.find? other :=
    find?_put (h.fixed?_eq_none place)
  have hmakes := h.makesDirectories hmade
  refine ⟨place, hkeeps.follow hplace, hkeeps.resolve hspot, by rw [hfind, if_pos rfl],
    hmakes.keeps.trans hkeeps, fun other hother => ?_⟩
  rw [hfind, if_neg hother]
  rcases hmakes other with hsame | ⟨hnone, hnew, way, ⟨count, rfl⟩, hway⟩
  · exact .inl hsame
  · exact .inr ⟨hnone, hnew, count, hkeeps.follow hway⟩

/-! ## What is there already -/

namespace IsTree

variable (htree : workspace.IsTree)
include htree

/-- Ordinary names lead to what stands under them. -/
theorem follow_eq_append {names : List String} (h : ∀ name ∈ names, IsOrdinary name)
    (hfits : ∀ name ∈ names, isName name) {entry : Entry} (hfind : workspace.find? (place ++ names) = some entry) :
    workspace.follow place names = .ok (place ++ names) := by
  induction names generalizing place with
  | nil => rw [List.append_nil]; rfl
  | cons name rest ih =>
    have hdirectory := htree.isDirectory_of_append (List.cons_ne_nil name rest) hfind
    rw [List.append_cons] at hfind ⊢
    rw [follow_cons_of_directory hdirectory, step_of_isOrdinary (h name List.mem_cons_self),
      if_pos (hfits name List.mem_cons_self)]
    exact ih (fun other ho => h other (List.mem_cons_of_mem _ ho))
      (fun other ho => hfits other (List.mem_cons_of_mem _ ho)) hfind

/-- What a path below a directory leads to is what stands under its names there. -/
theorem entry?_joinPath (h : IsInner path) (hplace : workspace.follow [] (names directory) = .ok place)
    (hsize : ¬ maxPathSize < (joinPath directory path).utf8ByteSize) :
    workspace.entry? (joinPath directory path) = workspace.find? (place ++ names path) := by
  have hresolve : workspace.resolve (joinPath directory path) = workspace.follow place (names path) := by
    rw [resolve, if_neg hsize, h.isEmpty_joinPath, follow_joinPath_relative directory h.relative, follow_append,
      hplace]
    rfl
  unfold entry?
  cases hfollow : workspace.follow place (names path) with
  | ok target => rw [hresolve, hfollow, eq_of_follow h.ordinary hfollow]
  | error fault =>
    rw [hresolve, hfollow]
    cases hfind : workspace.find? (place ++ names path) with
    | none => rfl
    | some entry =>
      rw [htree.follow_eq_append h.ordinary h.fits hfind] at hfollow
      cases hfollow

end IsTree

/-- No directory that is made for one template stands in the place of another, if the directory of both was there
or its path does not go outwards. -/
theorem ne_of_new {other : String} (hleads : made.follow [] (names directory) = .ok place)
    (hkeeps : workspace.KeepsDirectories made) (hpath : IsInner path)
    (hapart : ¬ names other <+: (names path).dropLast)
    (hopen : ".." ∉ names directory ∨ workspace.isDirectory (names directory))
    {count : Nat} (hnone : workspace.find? target = none)
    (hway : made.follow [] ((onward (names directory) ++ (names path).dropLast).take count) = .ok target) :
    target ≠ place ++ names other := by
  by_cases hcount : count ≤ (onward (names directory)).length
  · rw [List.take_append_of_le_length hcount] at hway
    rcases hopen with hup | hthere
    · rintro rfl
      have hlength := (isPrefix_of_take hup hleads hway).length_le
      rw [List.length_append] at hlength
      exact names_ne_nil other (List.length_eq_zero_iff.1 (by omega))
    · rw [hkeeps.isDirectory_of_take hthere hway] at hnone
      cases hnone
  · rw [List.take_append, List.take_of_length_le (by omega), follow_append, follow_onward hleads] at hway
    have hinner := eq_of_follow (fun name hname =>
      hpath.ordinary name (List.dropLast_subset _ (List.mem_of_mem_take hname))) hway
    rintro rfl
    refine hapart ?_
    rw [List.append_cancel_left hinner]
    exact List.take_prefix ..

/-- Writing one template leaves alone what is there under the path of another. -/
theorem WritesTemplate.entry?_eq {other : String} (h : WritesTemplate workspace next directory place path source)
    (hpath : IsInner path) (hother : IsInner other) (hapart : ¬ names other <+: names path)
    (hopen : ".." ∉ names directory ∨ workspace.isDirectory (names directory))
    (htree : workspace.IsTree) (hnext : next.IsTree) :
    next.entry? (joinPath directory other) = workspace.entry? (joinPath directory other) := by
  by_cases hsize : maxPathSize < (joinPath directory other).utf8ByteSize
  · have hlong : ∀ workspace : Workspace, workspace.entry? (joinPath directory other) = none := fun workspace => by
      unfold entry?
      rw [resolve, if_pos hsize]
    rw [hlong, hlong]
  · have hne : place ++ names other ≠ place ++ names path := fun heq =>
      hapart (List.append_cancel_left heq ▸ List.prefix_rfl)
    have hsame : next.find? (place ++ names other) = workspace.find? (place ++ names other) := by
      rcases h.others _ hne with hsame | ⟨hnone, -, count, hway⟩
      · exact hsame
      · have hparent : ¬ names other <+: (names path).dropLast := fun hstarts =>
          hapart (hstarts.trans (List.dropLast_prefix _))
        exact absurd rfl (ne_of_new h.leads h.keeps hpath hparent hopen hnone hway)
    rw [hnext.entry?_joinPath hother h.leads hsize, hsame]
    cases hplace : workspace.follow [] (names directory) with
    | ok start =>
      have hstart := h.keeps.follow hplace
      rw [h.leads] at hstart
      cases hstart
      exact (htree.entry?_joinPath hother hplace hsize).symm
    | error fault =>
      -- The directory was made only now, and nothing can have been in it.
      have hentry : workspace.entry? (joinPath directory other) = none := by
        refine Option.eq_none_iff_forall_ne_some.2 fun entry hentry => ?_
        obtain ⟨target, hresolve, -⟩ := exists_of_entry? hentry
        obtain ⟨start, hstart, -⟩ := hother.exists_of_resolve hresolve
        rw [hplace] at hstart
        cases hstart
      have hmissing : workspace.find? place ≠ some .directory := by
        intro hthere
        rcases hopen with hup | hopen
        · rw [htree.follow_of_follow (slash_notMem_tail_names directory) hup h.leads hthere] at hplace
          cases hplace
        · obtain ⟨start, hstart, -⟩ := isDirectory_iff.1 hopen
          rw [hstart] at hplace
          cases hplace
      rw [hentry]
      cases hfind : workspace.find? (place ++ names other) with
      | none => rfl
      | some entry => exact absurd (htree.isDirectory_of_append (names_ne_nil other) hfind) hmissing

/-! ## All templates -/

/-- Templates that can be below one directory: none is where another needs a directory, and all are apart. -/
structure AreTemplates (templates : List (String × String)) : Prop where
  inner : ∀ template ∈ templates, IsInner template.1
  apart : templates.Pairwise fun template other =>
    ¬ names template.1 <+: names other.1 ∧ ¬ names other.1 <+: names template.1

theorem AreTemplates.tail {template : String × String} (h : AreTemplates (template :: templates)) :
    AreTemplates templates :=
  ⟨fun other ho => h.inner other (List.mem_cons_of_mem _ ho), (List.pairwise_cons.1 h.apart).2⟩

/-- Whether a template is kept as it is there. -/
def isKept (workspace : Workspace) (directory : String) (force : Bool) (template : String × String) : Bool :=
  !force && (workspace.entry? (joinPath directory template.1)).isSome

/-- Templates are written below a directory or kept as they are there, one after the other. -/
inductive Exports (directory : String) (force : Bool) :
    Workspace → List (String × String) → List (String × String) → List (String × String) → Workspace → Prop
  | nil {workspace : Workspace} : Exports directory force workspace [] [] [] workspace
  | keep {workspace after : Workspace} {path source : String} {templates written kept : List (String × String)} :
      force = false → (workspace.entry? (joinPath directory path)).isSome →
      Exports directory force workspace templates written kept after →
      Exports directory force workspace ((path, source) :: templates) written ((path, source) :: kept) after
  | write {workspace made next after : Workspace} {path source : String}
      {templates written kept : List (String × String)} :
      (force = false → workspace.entry? (joinPath directory path) = none) →
      workspace.makeDirectories (parentPath (joinPath directory path)) = some made →
      made.writeText (joinPath directory path) source = some next →
      Exports directory force next templates written kept after →
      Exports directory force workspace ((path, source) :: templates) ((path, source) :: written) kept after

/-- What is there after templates were written below a directory: those that were written and those that were
kept, and all else as it was before, but for new directories. -/
structure HoldsTemplates (after before : Workspace) (directory : String) (place : Place)
    (written kept : List (String × String)) : Prop where
  resolves : ∀ template ∈ written ++ kept,
    after.resolve (joinPath directory template.1) = .ok (place ++ names template.1)
  own : ∀ template ∈ written, after.find? (place ++ names template.1) = some (.file template.2)
  there : ∀ template ∈ kept, (after.find? (place ++ names template.1)).isSome
  others : ∀ other, (∀ template ∈ written, other ≠ place ++ names template.1) →
    after.find? other = before.find? other ∨ before.find? other = none ∧ after.find? other = some .directory

namespace Exports

theorem perm (h : Exports directory force workspace templates written kept after) :
    (written ++ kept).Perm templates := by
  induction h with
  | nil => exact .nil
  | keep _ _ _ ih => exact List.perm_middle.trans (ih.cons _)
  | write _ _ _ _ ih => exact ih.cons _

theorem kept_eq_nil (h : Exports directory force workspace templates written kept after) (hforce : force = true) :
    kept = [] := by
  induction h with
  | nil => rfl
  | keep hkeep => rw [hforce] at hkeep; cases hkeep
  | write _ _ _ _ ih => exact ih

theorem keeps (h : Exports directory force workspace templates written kept after)
    (hinner : ∀ template ∈ templates, IsInner template.1) : workspace.KeepsDirectories after := by
  induction h with
  | nil => exact fun _ hplace => hplace
  | keep _ _ _ ih => exact ih fun template ht => hinner template (List.mem_cons_of_mem _ ht)
  | write _ hmade hwrite _ ih =>
    obtain ⟨place, hwrites⟩ := exists_writesTemplate (hinner _ List.mem_cons_self) hmade hwrite
    exact hwrites.keeps.trans (ih fun template ht => hinner template (List.mem_cons_of_mem _ ht))

/-- The path of the directory leads somewhere once there is a template below. -/
theorem exists_place (h : Exports directory force workspace templates written kept after)
    (hinner : ∀ template ∈ templates, IsInner template.1) (hne : templates ≠ []) :
    ∃ place, after.follow [] (names directory) = .ok place := by
  cases h with
  | nil => exact absurd rfl hne
  | @keep _ _ path source rest _ _ hforce hthere hrest =>
    have hkeeps := hrest.keeps fun template ht => hinner template (List.mem_cons_of_mem _ ht)
    obtain ⟨entry, hentry⟩ := Option.isSome_iff_exists.1 hthere
    obtain ⟨target, hresolve, -⟩ := exists_of_entry? hentry
    obtain ⟨place, hplace, -⟩ := (hinner _ List.mem_cons_self).exists_of_resolve hresolve
    exact ⟨place, hkeeps.follow hplace⟩
  | write _ hmade hwrite hrest =>
    have hkeeps := hrest.keeps fun template ht => hinner template (List.mem_cons_of_mem _ ht)
    obtain ⟨place, hwrites⟩ := exists_writesTemplate (hinner _ List.mem_cons_self) hmade hwrite
    exact ⟨place, hkeeps.follow hwrites.leads⟩

/-- No template that is written later stands in the place of the first one. -/
theorem ne_of_mem_written {template : String × String}
    (h : Exports directory force workspace templates written kept after)
    (htemplates : AreTemplates (template :: templates)) (place : Place) :
    ∀ other ∈ written, place ++ names template.1 ≠ place ++ names other.1 := by
  intro other hother heq
  have hmem : other ∈ templates := h.perm.subset (List.mem_append_left _ hother)
  refine ((List.pairwise_cons.1 htemplates.apart).1 other hmem).1 ?_
  exact List.append_cancel_left heq ▸ List.prefix_rfl

theorem holdsTemplates (h : Exports directory force workspace templates written kept after)
    (htemplates : AreTemplates templates) (hplace : after.follow [] (names directory) = .ok place) :
    after.HoldsTemplates workspace directory place written kept := by
  induction h with
  | nil => exact ⟨by simp, by simp, by simp, fun _ _ => .inl rfl⟩
  | @keep workspace after path source templates written kept _ hthere hrest ih =>
    have hinner := htemplates.inner _ List.mem_cons_self
    have hkeeps := hrest.keeps htemplates.tail.inner
    have hholds := ih htemplates.tail hplace
    obtain ⟨entry, hentry⟩ := Option.isSome_iff_exists.1 hthere
    obtain ⟨target, hresolve, hfind⟩ := exists_of_entry? hentry
    have hresolves := hkeeps.resolve hresolve
    obtain rfl := hinner.resolve_of_exists hresolves hplace
    refine ⟨fun template ht => ?_, hholds.own, fun template ht => ?_, hholds.others⟩
    · rcases List.mem_cons.1 (List.perm_middle.subset ht) with rfl | ht
      · exact hresolves
      · exact hholds.resolves template ht
    · rcases List.mem_cons.1 ht with rfl | ht
      · rcases hholds.others _ (hrest.ne_of_mem_written htemplates place) with hsame | ⟨hnone, -⟩
        · rw [hsame, hfind]
          rfl
        · rw [hfind] at hnone
          cases hnone
      · exact hholds.there template ht
  | @write workspace made next after path source templates written kept _ hmade hwrite hrest ih =>
    have hkeeps := hrest.keeps htemplates.tail.inner
    have hholds := ih htemplates.tail hplace
    obtain ⟨start, hwrites⟩ := exists_writesTemplate (htemplates.inner _ List.mem_cons_self) hmade hwrite
    obtain rfl : start = place := Except.ok.inj ((hkeeps.follow hwrites.leads).symm.trans hplace)
    refine ⟨fun template ht => ?_, fun template ht => ?_, hholds.there, fun other hother => ?_⟩
    · rcases List.mem_cons.1 ht with rfl | ht
      · exact hkeeps.resolve hwrites.resolves
      · exact hholds.resolves template ht
    · rcases List.mem_cons.1 ht with rfl | ht
      · rcases hholds.others _ (hrest.ne_of_mem_written htemplates start) with hsame | ⟨hnone, -⟩
        · rw [hsame, hwrites.own]
        · rw [hwrites.own] at hnone
          cases hnone
      · exact hholds.own template ht
    · have hfirst := hwrites.others other (hother _ List.mem_cons_self)
      have hlater := hholds.others other fun template ht => hother template (List.mem_cons_of_mem _ ht)
      rcases hlater with hlater | ⟨hnone, hnew⟩
      · rw [hlater]
        exact hfirst.imp id fun hnew => ⟨hnew.1, hnew.2.1⟩
      · rcases hfirst with hsame | ⟨-, hdirectory, -⟩
        · exact .inr ⟨hsame ▸ hnone, hnew⟩
        · rw [hdirectory] at hnone
          cases hnone

/-- What stood under the path of a template that is kept stays there. -/
theorem entry?_of_mem_kept (h : Exports directory force workspace templates written kept after)
    (htemplates : AreTemplates templates) {template : String × String} (ht : template ∈ kept) {entry : Entry}
    (hentry : workspace.entry? (joinPath directory template.1) = some entry) :
    after.entry? (joinPath directory template.1) = some entry := by
  obtain ⟨target, hresolve, hfind⟩ := exists_of_entry? hentry
  have hresolve := (h.keeps htemplates.inner).resolve hresolve
  obtain ⟨place, hplace, rfl⟩ :=
    (htemplates.inner template (h.perm.subset (List.mem_append_right _ ht))).exists_of_resolve hresolve
  -- Those that were written are apart from those that were kept.
  have hapart := (h.perm.pairwise_iff And.symm).2 htemplates.apart
  have hother : ∀ other ∈ written, place ++ names template.1 ≠ place ++ names other.1 := fun other ho heq =>
    ((List.pairwise_append.1 hapart).2.2 other ho template ht).2 (List.append_cancel_left heq ▸ List.prefix_rfl)
  rw [entry?_of_resolve hresolve]
  rcases (h.holdsTemplates htemplates hplace).others _ hother with hsame | ⟨hnone, -⟩
  · rw [hsame, hfind]
  · rw [hfind] at hnone
    cases hnone

/-- In a tree it is what stood there before that decides what is kept, if the directory was there or its path does
not go outwards. -/
theorem eq_filter (h : Exports directory force workspace templates written kept after)
    (htemplates : AreTemplates templates) (htree : workspace.IsTree)
    (hopen : ".." ∉ names directory ∨ workspace.isDirectory (names directory)) :
    kept = templates.filter (workspace.isKept directory force) ∧
      written = templates.filter (!workspace.isKept directory force ·) := by
  induction h with
  | nil => exact ⟨rfl, rfl⟩
  | @keep workspace after path source templates written kept hforce hthere _ ih =>
    obtain ⟨hkept, hwritten⟩ := ih htemplates.tail htree hopen
    have hfirst : workspace.isKept directory force (path, source) = true := by
      simp [isKept, hforce, hthere]
    simp [hfirst, ← hkept, ← hwritten]
  | @write workspace made next after path source templates written kept hfree hmade hwrite hrest ih =>
    have hpath := htemplates.inner _ List.mem_cons_self
    obtain ⟨place, hwrites⟩ := exists_writesTemplate hpath hmade hwrite
    have hnext : next.IsTree := (htree.makeDirectories hmade).writeText hwrite
    have hthere : next.isDirectory (names directory) :=
      isDirectory_iff.2 ⟨place, hwrites.leads, hnext.isDirectory_of_append (names_ne_nil path) hwrites.own⟩
    obtain ⟨hkept, hwritten⟩ := ih htemplates.tail hnext (.inr hthere)
    -- What is there under the paths of the others is as before, so that they are kept or written as before.
    have hsame : ∀ template ∈ templates,
        next.isKept directory force template = workspace.isKept directory force template := fun template ht => by
      rw [isKept, isKept, hwrites.entry?_eq hpath (htemplates.tail.inner template ht)
        ((List.pairwise_cons.1 htemplates.apart).1 template ht).2 hopen htree hnext]
    have hfirst : workspace.isKept directory force (path, source) = false := by
      cases force with
      | true => rfl
      | false => rw [isKept, hfree rfl]; rfl
    have hothers : ∀ template ∈ templates,
        (!next.isKept directory force template) = !workspace.isKept directory force template :=
      fun template ht => congrArg _ (hsame template ht)
    rw [List.filter_congr hsame] at hkept
    rw [List.filter_congr hothers] at hwritten
    simp [hfirst, ← hkept, ← hwritten]

end Exports

end Workspace

/-! ## Runs -/

open Workspace

variable {directory path source : String} {force : Bool} {templates : List (String × String)}
  {session after : Session}

/-- What is told about templates that are kept. -/
def keptText (directory : String) (kept : List (String × String)) : String :=
  String.join (kept.map fun template =>
    "Skipping existing " ++ joinPath directory template.1 ++ " (use --force to overwrite)\n")

theorem run_writeTemplate (path source : String) (session : Session) :
    (writeTemplate path source : CommandM (StateM Session) Unit).run session =
      match session.workspace.makeDirectories (parentPath path) with
      | none => (.error (.directory .template (parentPath path)), session)
      | some made => match made.writeText path source with
        | none => (.error (.file .template path), { session with workspace := made })
        | some next => (.ok (), { session with workspace := next }) := by
  have hmake : (Host.makeDirectories (parentPath path) : CommandM (StateM Session) Bool) =
      ExceptT.lift (Session.attempt (·.makeDirectories (parentPath path))) := rfl
  have hwrite : (Host.writeText path source : CommandM (StateM Session) Bool) =
      ExceptT.lift (Session.attempt (·.writeText path source)) := rfl
  rw [writeTemplate, run_bind, hmake, run_attempt]
  cases session.workspace.makeDirectories (parentPath path) with
  | none => rfl
  | some made =>
    dsimp only
    rw [if_pos rfl, run_bind, hwrite, run_attempt]
    dsimp only
    cases made.writeText path source <;> rfl

theorem keptText_cons (directory : String) (template : String × String) (kept : List (String × String)) :
    keptText directory (template :: kept) = keptText directory [template] ++ keptText directory kept := by
  simp [keptText]

theorem run_pathExists (path : String) (session : Session) :
    (Host.pathExists path : CommandM (StateM Session) Bool).run session =
      (.ok (session.workspace.entry? path).isSome, session) := rfl

/-- A template that is kept is told of. -/
theorem run_exportEach_keep (h : session.workspace.isKept directory force (path, source) = true) :
    (exportEach directory force ((path, source) :: templates) : CommandM (StateM Session) Nat).run session =
      (exportEach directory force templates : CommandM (StateM Session) Nat).run
        { session with diagnostics := session.diagnostics ++ keptText directory [(path, source)] } := by
  rw [isKept] at h
  rw [exportEach, run_bind, run_pathExists]
  dsimp only
  rw [if_pos h, run_bind]
  have htext : keptText directory [(path, source)] =
      "Skipping existing " ++ joinPath directory path ++ " (use --force to overwrite)\n" := by
    simp [keptText]
  rw [htext]
  rfl

/-- A template that is not kept is written. -/
theorem run_exportEach_write (h : session.workspace.isKept directory force (path, source) = false) :
    (exportEach directory force ((path, source) :: templates) : CommandM (StateM Session) Nat).run session =
      (writeTemplate (joinPath directory path) source >>= fun _ =>
        exportEach directory force templates >>= fun count => pure (count + 1) :
          CommandM (StateM Session) Nat).run session := by
  rw [isKept] at h
  rw [exportEach, run_bind, run_pathExists]
  dsimp only
  rw [if_neg (by rw [h]; decide)]

theorem run_exportEach_of_written {made next : Workspace} {count : Nat}
    (h : session.workspace.isKept directory force (path, source) = false)
    (hmade : session.workspace.makeDirectories (parentPath (joinPath directory path)) = some made)
    (hnext : made.writeText (joinPath directory path) source = some next)
    (hrun : (exportEach directory force templates : CommandM (StateM Session) Nat).run
      { session with workspace := next } = (.ok count, after)) :
    (exportEach directory force ((path, source) :: templates) : CommandM (StateM Session) Nat).run session =
      (.ok (count + 1), after) := by
  rw [run_exportEach_write h, run_bind, run_writeTemplate, hmade]
  dsimp only
  rw [hnext]
  dsimp only
  rw [run_bind, hrun]
  rfl

/-- An export that ends well writes or keeps each template, and tells which it kept. -/
theorem exists_exports {count : Nat}
    (h : (exportEach directory force templates : CommandM (StateM Session) Nat).run session = (.ok count, after)) :
    ∃ written kept, Exports directory force session.workspace templates written kept after.workspace ∧
      count = written.length ∧ after.output = session.output ∧
      after.diagnostics = session.diagnostics ++ keptText directory kept := by
  induction templates generalizing session count with
  | nil =>
    cases h
    exact ⟨[], [], .nil, rfl, rfl, (String.append_empty).symm⟩
  | cons template rest ih =>
    obtain ⟨path, source⟩ := template
    cases hkept : session.workspace.isKept directory force (path, source) with
    | true =>
      rw [run_exportEach_keep hkept] at h
      obtain ⟨written, kept, hexports, hcount, houtput, htext⟩ := ih h
      obtain ⟨hforce, hthere⟩ : force = false ∧ (session.workspace.entry? (joinPath directory path)).isSome := by
        simpa [isKept] using hkept
      refine ⟨written, (path, source) :: kept, .keep hforce hthere hexports, hcount, houtput, ?_⟩
      rw [htext, String.append_assoc, ← keptText_cons]
    | false =>
      rw [run_exportEach_write hkept, run_bind, run_writeTemplate] at h
      cases hmade : session.workspace.makeDirectories (parentPath (joinPath directory path)) with
      | none => rw [hmade] at h; cases h
      | some made =>
        rw [hmade] at h
        dsimp only at h
        cases hnext : made.writeText (joinPath directory path) source with
        | none => rw [hnext] at h; cases h
        | some next =>
          rw [hnext] at h
          dsimp only at h
          rw [run_bind] at h
          split at h
          · next hrest =>
            cases h
            obtain ⟨written, kept, hexports, hcount, houtput, htext⟩ := ih hrest
            have hfree : force = false → session.workspace.entry? (joinPath directory path) = none := by
              simpa [isKept] using hkept
            exact ⟨(path, source) :: written, kept, .write hfree hmade hnext hexports, congrArg (· + 1) hcount,
              houtput, htext⟩
          · cases h

/-- Where each template is there already, all are kept. -/
theorem run_exportEach_of_there (hthere : ∀ template ∈ templates,
    (session.workspace.entry? (joinPath directory template.1)).isSome) :
    (exportEach directory false templates : CommandM (StateM Session) Nat).run session =
      (.ok 0, { session with diagnostics := session.diagnostics ++ keptText directory templates }) := by
  induction templates generalizing session with
  | nil =>
    have hnone : session.diagnostics ++ keptText directory [] = session.diagnostics := String.append_empty
    rw [hnone]
    rfl
  | cons template rest ih =>
    have hkept : session.workspace.isKept directory false (template.1, template.2) = true :=
      hthere template List.mem_cons_self
    have hrest := @ih { session with diagnostics := session.diagnostics ++ keptText directory [template] }
      fun other ho => hthere other (List.mem_cons_of_mem _ ho)
    rw [run_exportEach_keep hkept, hrest, keptText_cons directory template rest, String.append_assoc]

/-! ## Exports as a whole -/

/-- What is told after an export. -/
def exportedText (directory : String) (count : Nat) : String :=
  "Exported " ++ toString count ++ " template(s) to " ++ directory ++ "\n"

/-- Write templates into a directory and tell how many were written. -/
def exportAll {m : Type → Type} [Monad m] [Host m] (directory : String) (force : Bool)
    (templates : List (String × String)) : CommandM m Unit := do
  let count ← exportEach directory force templates
  Host.warn ("Exported " ++ toString count ++ " template(s) to " ++ directory ++ "\n")

theorem exportTemplates_eq {m : Type → Type} [Monad m] [Host m] (directory : String) (force : Bool) :
    (exportTemplates directory force : CommandM m Unit) = exportAll directory force Bundled.store.toList := rfl

theorem run_exportAll (directory : String) (force : Bool) (templates : List (String × String)) (session : Session) :
    (exportAll directory force templates : CommandM (StateM Session) Unit).run session =
      match (exportEach directory force templates : CommandM (StateM Session) Nat).run session with
      | (.ok count, next) =>
        (.ok (), { next with diagnostics := next.diagnostics ++ exportedText directory count })
      | (.error fault, next) => (.error fault, next) := by
  rw [exportAll, run_bind]
  rcases (exportEach directory force templates : CommandM (StateM Session) Nat).run session with ⟨result, next⟩
  cases result <;> rfl

theorem exists_exports_of_exportAll
    (h : (exportAll directory force templates : CommandM (StateM Session) Unit).run session = (.ok (), after)) :
    ∃ written kept, Exports directory force session.workspace templates written kept after.workspace ∧
      after.output = session.output ∧ after.diagnostics =
        session.diagnostics ++ keptText directory kept ++ exportedText directory written.length := by
  rw [run_exportAll] at h
  split at h
  · next hrun =>
    obtain ⟨written, kept, hexports, rfl, houtput, htext⟩ := exists_exports hrun
    cases h
    exact ⟨written, kept, hexports, houtput, congrArg (· ++ _) htext⟩
  · cases h

/-- Exporting again keeps everything. -/
theorem run_exportAll_of_there (h : ∀ template ∈ templates,
    (session.workspace.entry? (joinPath directory template.1)).isSome) :
    (exportAll directory false templates : CommandM (StateM Session) Unit).run session =
      (.ok (), { session with diagnostics :=
        session.diagnostics ++ keptText directory templates ++ exportedText directory 0 }) := by
  rw [run_exportAll, run_exportEach_of_there h]

end Command

end EntityScaffold
