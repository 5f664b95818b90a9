import EntityScaffold.Text.Blank
import Mathlib.Data.List.DropRight

/-! # Trimmed texts

Trimming takes away blanks at both ends and keeps what stands between them. Dropping at the end is the library's
`List.rdropWhile`, so that its facts hold here.
-/

namespace EntityScaffold.Text

variable {p : Char → Bool} {before cs after : List Char}

theorem of_mem_takeEndWhile {c : Char} (h : c ∈ takeEndWhile p cs) : p c = true :=
  List.mem_rtakeWhile_imp h

/-- What is left does not end with what was dropped. -/
theorem getLast?_dropEndWhile {c : Char} (h : (dropEndWhile p cs).getLast? = some c) : p c = false := by
  have hne : dropEndWhile p cs ≠ [] := fun heq => by
    rw [heq] at h
    cases h
  rw [List.getLast?_eq_some_getLast hne] at h
  cases h
  exact Bool.eq_false_iff.2 (List.rdropWhile_last_not p cs hne)

theorem dropEndWhile_of_getLast? (h : ∀ c, cs.getLast? = some c → p c = false) : dropEndWhile p cs = cs := by
  refine List.rdropWhile_eq_self_iff.2 fun hne => ?_
  rw [h _ (List.getLast?_eq_some_getLast hne)]
  exact Bool.false_ne_true

/-- All that is to be dropped at the end is dropped. -/
theorem dropEndWhile_append (h : ∀ c ∈ after, p c = true) : dropEndWhile p (cs ++ after) = dropEndWhile p cs := by
  rw [dropEndWhile, List.reverse_append, List.dropWhile_append_of_pos fun c hc => h c (List.mem_reverse.1 hc)]
  rfl

/-- Blanks around a text that neither starts nor ends with one are taken away. -/
theorem trim_append (hbefore : ∀ c ∈ before, isBlank c = true) (hafter : ∀ c ∈ after, isBlank c = true)
    (hhead : ∀ c, cs.head? = some c → isBlank c = false) (hlast : ∀ c, cs.getLast? = some c → isBlank c = false) :
    trim (before ++ cs ++ after) = cs := by
  rw [trim, trimStart, trimEnd, List.append_assoc, List.dropWhile_append_of_pos hbefore]
  cases cs with
  | nil =>
    rw [List.nil_append, List.dropWhile_eq_nil_iff.2 hafter]
    rfl
  | cons c rest =>
    rw [List.cons_append, List.dropWhile_cons_of_neg (by rw [hhead c rfl]; exact Bool.false_ne_true),
      ← List.cons_append, dropEndWhile_append hafter, dropEndWhile_of_getLast? hlast]

/-- A text is what trimming leaves of it, between blanks. -/
theorem exists_blanks_trim (cs : List Char) : ∃ before after, cs = before ++ trim cs ++ after ∧
    (∀ c ∈ before, isBlank c = true) ∧ ∀ c ∈ after, isBlank c = true := by
  refine ⟨cs.takeWhile isBlank, takeEndWhile isBlank (trimStart cs), ?_, fun c => List.mem_takeWhile_imp,
    fun c => of_mem_takeEndWhile⟩
  rw [List.append_assoc, trim, trimEnd, dropEndWhile_append_takeEndWhile, trimStart,
    List.takeWhile_append_dropWhile]

end EntityScaffold.Text
