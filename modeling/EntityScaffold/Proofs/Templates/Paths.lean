import EntityScaffold.Proofs.Configuration.Steps
import EntityScaffold.Proofs.Generation.Files
import EntityScaffold.Templates.Store
import Mathlib.Data.Finset.Max

/-! # Normal forms of template paths

A store keeps templates under paths without backslashes and without a slash at the start. Where a path starts
with `./` it is dropped, but one that comes up only behind a slash stays. A template at such a path is listed
under a path that leads elsewhere, and goes there when the listed templates are put into another store.
-/

namespace EntityScaffold

/-! ## Paths -/

/-- A path with slashes only, and with neither `./` nor a slash at the start. -/
structure IsNormalPath (path : String) : Prop where
  noBackslash : '\\' ∉ path.toList
  noDotSlash : ¬ ['.', '/'] <+: path.toList
  noSlash : ¬ ['/'] <+: path.toList

/-- The characters of a path with slashes in place of backslashes. -/
def slashed (path : String) : List Char := path.toList.map fun c => if c = '\\' then '/' else c

/-- A `./` written some times. -/
def dotSlashes (count : Nat) : List Char := (List.replicate count ['.', '/']).flatten

/-- After any `./` at its start, a path has slashes in front of one more. -/
def CoversDotSlash (path : String) : Prop :=
  ∃ dots slashes rest,
    slashed path = dotSlashes dots ++ (List.replicate (slashes + 1) '/' ++ '.' :: '/' :: rest)

section

variable {path : String} {cs : List Char}

theorem notMem_slashed (path : String) : '\\' ∉ slashed path := by
  intro hmem
  obtain ⟨c, -, hc⟩ := List.mem_map.1 hmem
  split at hc
  · cases hc
  · next hne => exact hne hc

theorem slashed_of_notMem (h : '\\' ∉ path.toList) : slashed path = path.toList := by
  have hid : ∀ c ∈ path.toList, (if c = '\\' then '/' else c) = id c := by
    intro c hc
    refine if_neg ?_
    rintro rfl
    exact h hc
  rw [slashed, List.map_congr_left hid, List.map_id]

theorem dropDotSlashes_of_not_isPrefix (h : ¬ ['.', '/'] <+: cs) : dropDotSlashes cs = cs := by
  unfold dropDotSlashes
  split
  · next rest => exact absurd ⟨rest, rfl⟩ h
  · rfl

theorem dropDotSlashes_append (dots : Nat) (cs : List Char) :
    dropDotSlashes (dotSlashes dots ++ cs) = dropDotSlashes cs := by
  induction dots with
  | zero => rfl
  | succ dots ih => exact ih

/-- What is dropped is as many `./` as there are at the start. -/
theorem exists_dotSlashes (cs : List Char) :
    ∃ dots, cs = dotSlashes dots ++ dropDotSlashes cs ∧ ¬ ['.', '/'] <+: dropDotSlashes cs := by
  fun_induction dropDotSlashes cs with
  | case1 rest ih =>
    obtain ⟨dots, hsplit, hstart⟩ := ih
    exact ⟨dots + 1, congrArg ('.' :: '/' :: ·) hsplit, hstart⟩
  | case2 cs hstart =>
    refine ⟨0, rfl, ?_⟩
    rintro ⟨rest, rfl⟩
    exact hstart rest rfl

theorem exists_slashes (cs : List Char) :
    ∃ slashes, cs = List.replicate slashes '/' ++ cs.dropWhile (· == '/') := by
  refine ⟨(cs.takeWhile (· == '/')).length, ?_⟩
  have hall : cs.takeWhile (· == '/') = List.replicate (cs.takeWhile (· == '/')).length '/' :=
    List.eq_replicate_of_mem fun c hc => by simpa using List.all_eq_true.1 List.all_takeWhile c hc
  rw [← hall, List.takeWhile_append_dropWhile]

theorem dropWhile_replicate_append (slashes : Nat) (cs : List Char) :
    (List.replicate slashes '/' ++ cs).dropWhile (· == '/') = cs.dropWhile (· == '/') := by
  induction slashes with
  | zero => rfl
  | succ slashes ih => exact ih

theorem toList_normalizePath (path : String) :
    (normalizePath path).toList = (dropDotSlashes (slashed path)).dropWhile (· == '/') :=
  String.toList_ofList

/-- The normal form of a path is an end of it. -/
theorem normalizePath_isSuffix (path : String) : (normalizePath path).toList <:+ slashed path := by
  rw [toList_normalizePath]
  obtain ⟨dots, hsplit, -⟩ := exists_dotSlashes (slashed path)
  exact (List.dropWhile_suffix _).trans ⟨dotSlashes dots, hsplit.symm⟩

theorem notMem_normalizePath (path : String) : '\\' ∉ (normalizePath path).toList :=
  fun hmem => notMem_slashed path ((normalizePath_isSuffix path).subset hmem)

theorem not_slash_isPrefix_normalizePath (path : String) : ¬ ['/'] <+: (normalizePath path).toList := by
  rintro ⟨rest, hrest⟩
  rw [toList_normalizePath] at hrest
  have hhead := List.head?_dropWhile_not (· == '/') (dropDotSlashes (slashed path))
  rw [← hrest] at hhead
  cases hhead

/-- A normal form starts with `./` exactly if slashes hide it in the path. -/
theorem dotSlash_isPrefix_normalizePath :
    ['.', '/'] <+: (normalizePath path).toList ↔ CoversDotSlash path := by
  rw [toList_normalizePath]
  constructor
  · rintro ⟨rest, hrest⟩
    obtain ⟨dots, hsplit, hstart⟩ := exists_dotSlashes (slashed path)
    obtain ⟨slashes, hslashes⟩ := exists_slashes (dropDotSlashes (slashed path))
    rw [← hrest] at hslashes
    cases slashes with
    | zero => exact absurd ⟨rest, hslashes.symm⟩ hstart
    | succ slashes => exact ⟨dots, slashes, rest, hslashes ▸ hsplit⟩
  · rintro ⟨dots, slashes, rest, hpath⟩
    refine ⟨rest, ?_⟩
    have hstart : ¬ ['.', '/'] <+: List.replicate (slashes + 1) '/' ++ '.' :: '/' :: rest := by
      rintro ⟨_, h⟩
      cases h
    rw [hpath, dropDotSlashes_append, dropDotSlashes_of_not_isPrefix hstart, dropWhile_replicate_append]
    rfl

theorem length_normalizePath_lt (h : ['.', '/'] <+: path.toList) :
    (normalizePath path).toList.length < path.toList.length := by
  obtain ⟨rest, hrest⟩ := h
  have hslashed : ∃ others, slashed path = '.' :: '/' :: others ∧ others.length = rest.length := by
    rw [slashed, ← hrest]
    exact ⟨rest.map _, rfl, List.length_map ..⟩
  obtain ⟨others, hothers, hlength⟩ := hslashed
  obtain ⟨dots, hsplit, -⟩ := exists_dotSlashes others
  have hsuffix : (normalizePath path).toList <:+ others := by
    rw [toList_normalizePath, hothers]
    exact (List.dropWhile_suffix _).trans ⟨dotSlashes dots, hsplit.symm⟩
  have hle := hsuffix.length_le
  have htotal : path.toList.length = rest.length + 2 := by rw [← hrest]; rfl
  omega

/-- The paths that are their own normal form. -/
theorem normalizePath_eq_self_iff : normalizePath path = path ↔ IsNormalPath path := by
  constructor
  · intro h
    refine ⟨h ▸ notMem_normalizePath path, fun hstart => ?_, h ▸ not_slash_isPrefix_normalizePath path⟩
    have hlt := length_normalizePath_lt hstart
    rw [h] at hlt
    exact Nat.lt_irrefl _ hlt
  · rintro ⟨hbackslash, hdot, hslash⟩
    refine String.toList_injective ?_
    rw [toList_normalizePath, slashed_of_notMem hbackslash, dropDotSlashes_of_not_isPrefix hdot]
    cases hpath : path.toList with
    | nil => rfl
    | cons c rest =>
      refine List.dropWhile_cons_of_neg fun hc => hslash ?_
      rw [hpath, beq_iff_eq.1 hc]
      exact ⟨rest, rfl⟩

/-- A normal form is its own normal form, or the normal form of it is shorter. -/
theorem length_normalizePath_normalizePath_lt
    (h : normalizePath (normalizePath path) ≠ normalizePath path) :
    (normalizePath (normalizePath path)).toList.length < (normalizePath path).toList.length := by
  refine length_normalizePath_lt (Classical.not_not.1 fun hstart => h ?_)
  exact normalizePath_eq_self_iff.2
    ⟨notMem_normalizePath path, hstart, not_slash_isPrefix_normalizePath path⟩

/-- A normal form is normal exactly if no `./` was hidden. -/
theorem isNormalPath_normalizePath : IsNormalPath (normalizePath path) ↔ ¬ CoversDotSlash path := by
  rw [← dotSlash_isPrefix_normalizePath]
  exact ⟨fun h => h.noDotSlash,
    fun h => ⟨notMem_normalizePath path, h, not_slash_isPrefix_normalizePath path⟩⟩

end

/-! ## Stores -/

namespace TemplateStore

/-- All paths of a store are normal forms, under which its templates are found, and putting what it lists into
a store again gives the store. -/
structure IsCanonical (store : TemplateStore) : Prop where
  normal : ∀ entry ∈ store.toList, IsNormalPath entry.1
  fixed : ∀ entry ∈ store.toList, normalizePath entry.1 = entry.1
  found : ∀ entry ∈ store.toList, store.get? entry.1 = some entry.2
  collected : ofList store.toList = store

variable {store : TemplateStore} {templates : List (String × String)}

/-- A store lists the normal forms of the paths that were put in. -/
theorem mem_paths_ofList {path : String} :
    path ∈ (ofList templates).toList.map Prod.fst ↔ ∃ entry ∈ templates, normalizePath entry.1 = path := by
  change path ∈ (ofList templates).files.entries.map Prod.fst ↔ _
  rw [← isSome_lookup_iff, files_ofList]
  change ((Keyed.empty.insertAll _).get? path).isSome = true ↔ _
  rw [Keyed.get?_insertAll, Keyed.get?_empty, Option.or_none, isSome_lookup_iff, List.map_reverse,
    List.mem_reverse, List.map_map]
  exact List.mem_map

theorem exists_of_mem_ofList {entry : String × String} (h : entry ∈ (ofList templates).toList) :
    ∃ given ∈ templates, normalizePath given.1 = entry.1 :=
  mem_paths_ofList.1 (List.mem_map_of_mem h)

/-- A listed template is found under the normal form of its path. -/
theorem get?_of_fixed {entry : String × String} (h : entry ∈ store.toList)
    (hfixed : normalizePath entry.1 = entry.1) : store.get? entry.1 = some entry.2 := by
  rw [get?, hfixed]
  exact store.files.get?_of_mem h

/-- Putting templates in again changes nothing if their paths are normal forms. -/
theorem ofList_toList (h : ∀ entry ∈ store.toList, normalizePath entry.1 = entry.1) :
    ofList store.toList = store := by
  have hmap : (store.toList.map fun entry => (normalizePath entry.1, entry.2)) = store.toList := by
    have hid : ∀ entry ∈ store.toList, (normalizePath entry.1, entry.2) = id entry := by
      intro entry hentry
      rw [h entry hentry]
      rfl
    exact (List.map_congr_left hid).trans (List.map_id _)
  have hfiles : (ofList store.toList).files = store.files := by
    rw [files_ofList]
    exact (congrArg Keyed.empty.insertAll hmap).trans
      (Keyed.eq_of_perm (Keyed.empty.perm_insertAll store.files.nodup_keys))
  exact congrArg mk hfiles

/-- If a store lists the normal forms of its own paths, then these are normal. The longest one that is not would
be the normal form of a path that is longer, and not normal either. -/
theorem fixed_of_ofList_toList (h : ofList store.toList = store) :
    ∀ entry ∈ store.toList, normalizePath entry.1 = entry.1 := by
  have hback : ∀ path ∈ store.toList.map Prod.fst,
      ∃ other ∈ store.toList.map Prod.fst, normalizePath other = path := by
    intro path hpath
    rw [← h] at hpath
    obtain ⟨given, hgiven, hnormal⟩ := mem_paths_ofList.1 hpath
    exact ⟨given.1, List.mem_map_of_mem hgiven, hnormal⟩
  by_contra hsome
  obtain ⟨entry, hentry, hne⟩ : ∃ entry ∈ store.toList, normalizePath entry.1 ≠ entry.1 := by
    simpa only [not_forall, exists_prop] using hsome
  obtain ⟨longest, hlongest, hmax⟩ := Finset.exists_max_image
    ((store.toList.map Prod.fst).toFinset.filter fun path => normalizePath path ≠ path)
    (fun path => path.toList.length)
    ⟨entry.1, Finset.mem_filter.2 ⟨List.mem_toFinset.2 (List.mem_map_of_mem hentry), hne⟩⟩
  obtain ⟨hlisted, hnot⟩ := Finset.mem_filter.1 hlongest
  obtain ⟨other, hother, rfl⟩ := hback longest (List.mem_toFinset.1 hlisted)
  have hother' : normalizePath other ≠ other := fun heq => hnot (by rw [heq, heq])
  have hle := hmax other (Finset.mem_filter.2 ⟨List.mem_toFinset.2 hother, hother'⟩)
  obtain ⟨before, -, hbefore⟩ := hback other hother
  have hlt : (normalizePath other).toList.length < other.toList.length := by
    subst hbefore
    exact length_normalizePath_normalizePath_lt hother'
  omega

/-- Listed paths have neither backslashes nor a slash at the start. The store is canonical exactly if no path that
was put in hides a `./` behind slashes, and exactly then putting the listed templates in again gives the store. -/
theorem ofList_isCanonical_iff (templates : List (String × String)) :
    (∀ entry ∈ (ofList templates).toList, '\\' ∉ entry.1.toList ∧ ¬ ['/'] <+: entry.1.toList) ∧
    ((ofList templates).IsCanonical ↔ ∀ entry ∈ templates, ¬ CoversDotSlash entry.1) ∧
    (ofList (ofList templates).toList = ofList templates ↔ ∀ entry ∈ templates, ¬ CoversDotSlash entry.1) := by
  have hnormal : (∀ entry ∈ (ofList templates).toList, IsNormalPath entry.1) ↔
      ∀ entry ∈ templates, ¬ CoversDotSlash entry.1 := by
    constructor
    · intro h given hgiven
      have hlisted := mem_paths_ofList.2 ⟨given, hgiven, rfl⟩
      obtain ⟨entry, hentry, heq⟩ := List.mem_map.1 hlisted
      exact isNormalPath_normalizePath.1 (heq ▸ h entry hentry)
    · intro h entry hentry
      obtain ⟨given, hgiven, heq⟩ := exists_of_mem_ofList hentry
      exact heq ▸ isNormalPath_normalizePath.2 (h given hgiven)
  have hfixed : (∀ entry ∈ (ofList templates).toList, IsNormalPath entry.1) ↔
      ∀ entry ∈ (ofList templates).toList, normalizePath entry.1 = entry.1 :=
    forall₂_congr fun _ _ => normalizePath_eq_self_iff.symm
  refine ⟨fun entry hentry => ?_, ⟨fun h => hnormal.1 h.normal, fun h => ?_⟩, fun h => ?_, fun h => ?_⟩
  · obtain ⟨given, -, heq⟩ := exists_of_mem_ofList hentry
    exact heq ▸ ⟨notMem_normalizePath given.1, not_slash_isPrefix_normalizePath given.1⟩
  · have hall := hfixed.1 (hnormal.2 h)
    exact ⟨hnormal.2 h, hall, fun entry hentry => get?_of_fixed hentry (hall entry hentry), ofList_toList hall⟩
  · exact hnormal.1 (hfixed.2 (fixed_of_ofList_toList h))
  · exact ofList_toList (hfixed.1 (hnormal.2 h))

/-- A slash hides a `./`. The template is listed under a path that leads to no template, and goes elsewhere when it
is put in again. -/
theorem not_isCanonical_of_coveredPath :
    let store := ofList [("/./a.hbs", "A")]
    store.toList = [("./a.hbs", "A")] ∧ store.get? "./a.hbs" = none ∧
    (ofList store.toList).toList = [("a.hbs", "A")] ∧ CoversDotSlash "/./a.hbs" ∧ ¬ store.IsCanonical := by
  refine ⟨rfl, rfl, rfl, ⟨0, 0, ['a', '.', 'h', 'b', 's'], rfl⟩, fun h => ?_⟩
  exact (h.normal ("./a.hbs", "A") List.mem_cons_self).noDotSlash ⟨['a', '.', 'h', 'b', 's'], rfl⟩

end TemplateStore

end EntityScaffold
