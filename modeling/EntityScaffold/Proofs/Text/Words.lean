import EntityScaffold.Text.Words

/-! # Characters of words

An identifier falls into words at every mark, and changing the case of a letter never makes one. So a name in
capitalised words has none of the ASCII characters that are neither letters nor digits, whatever the name was.
-/

namespace EntityScaffold.Text

/-- A character that a word can have: of the ASCII characters only letters and digits. -/
def IsWordChar (c : Char) : Prop := c.toNat < 128 → c.isAlphanum = true

theorem isWordChar_of_isAlphanumeric {c : Char} (h : isAlphanumeric c = true) : IsWordChar c := by
  intro hc
  rwa [isAlphanumeric, if_pos hc] at h

/-! ## Letter case -/

theorem toNat_ofNat {n : Nat} (h : n.isValidChar) : (Char.ofNat n).toNat = n := by
  rw [Char.ofNat, dif_pos h]
  rfl

/-- A shift moves code points beyond ASCII to characters of words: beyond ASCII again, or the only one to a
letter. -/
def CodeShift.staysInWords (shift : CodeShift) : Bool :=
  let first := shift.run.first + shift.distance
  let last := shift.run.last + shift.distance
  shift.run.last < 128 ||
    (128 ≤ first && (last < 0xD800 || (0xDFFF < first && last < 0x110000))) ||
    (shift.run.first = shift.run.last && (Char.ofNat first.toNat).isAlphanum)

-- The tables are taken apart into their characters first, which is slow for a literal.
theorem staysInWords_smallShifts : ∀ shift ∈ smallShifts, shift.staysInWords = true := by
  unfold smallShifts codeShifts tableEntries
  rw [String.toList_ofList]
  decide +kernel

theorem staysInWords_capitalShifts : ∀ shift ∈ capitalShifts, shift.staysInWords = true := by
  unfold capitalShifts codeShifts tableEntries
  rw [String.toList_ofList]
  decide +kernel

theorem isWordChar_capitalExpansions :
    ∀ entry ∈ capitalExpansions, ∀ c ∈ entry.2, c.toNat < 128 → c.isAlphanum = true := by
  have hall : capitalExpansions.all (fun entry => entry.2.all fun c =>
      !decide (c.toNat < 128) || c.isAlphanum) = true := by
    unfold capitalExpansions codeExpansions tableEntries
    rw [String.toList_ofList]
    decide +kernel
  intro entry he c hc hsmall
  have hone := List.all_eq_true.1 (List.all_eq_true.1 hall entry he) c hc
  rwa [decide_eq_true hsmall, Bool.not_true, Bool.false_or] at hone

theorem isWordChar_shiftCode {shifts : List CodeShift} {c : Char}
    (hs : ∀ shift ∈ shifts, shift.staysInWords = true) (hc : 128 ≤ c.toNat) :
    IsWordChar (Char.ofNat (shiftCode shifts c.toNat)) := by
  unfold shiftCode
  split
  · next shift hfind =>
    have hstays := hs shift (List.mem_of_find?_eq_some hfind)
    have hcontains := List.find?_some hfind
    simp only [CodeRun.contains, Bool.and_eq_true, decide_eq_true_eq] at hcontains
    simp only [CodeShift.staysInWords, Bool.or_eq_true, Bool.and_eq_true, decide_eq_true_eq] at hstays
    obtain ⟨⟨hfirst, hlast⟩, -⟩ := hcontains
    intro hsmall
    rcases hstays with (hascii | ⟨hlow, hvalid⟩) | ⟨hsingle, hletter⟩
    · omega
    · have hv : Nat.isValidChar (c.toNat + shift.distance).toNat := by
        rcases hvalid with h | ⟨h, h'⟩
        · exact .inl (by omega)
        · exact .inr (by omega)
      rw [toNat_ofNat hv] at hsmall
      omega
    · have hn : c.toNat = shift.run.first := by omega
      rw [hn]
      exact hletter
  · intro hsmall
    rw [Char.ofNat_toNat] at hsmall
    omega

theorem isAlphanum_of_ascii {f : Char → Char} {c : Char}
    (hf : ∀ n : Fin 128, (Char.ofNat n).isAlphanum = true → (f (Char.ofNat n)).isAlphanum = true)
    (hc : c.toNat < 128) (h : c.isAlphanum = true) : (f c).isAlphanum = true := by
  have hn := hf ⟨c.toNat, hc⟩
  simp only [Char.ofNat_toNat] at hn
  exact hn h

/-- A letter is written in capitals with letters. -/
theorem isWordChar_of_mem_toUppercase {c d : Char} (h : isAlphanumeric c = true)
    (hd : d ∈ toUppercase c) : IsWordChar d := by
  unfold toUppercase at hd
  split at hd
  · next hsmall =>
    rw [List.mem_singleton.1 hd]
    intro _
    exact isAlphanum_of_ascii (by decide) hsmall (isWordChar_of_isAlphanumeric h hsmall)
  · next hlarge =>
    split at hd
    · next image hlookup =>
      obtain ⟨before, after, hsplit, -⟩ := List.lookup_eq_some_iff.1 hlookup
      exact isWordChar_capitalExpansions (c.toNat, image) (hsplit ▸ by simp) d hd
    · rw [List.mem_singleton.1 hd]
      exact isWordChar_shiftCode staysInWords_capitalShifts (Nat.le_of_not_lt hlarge)

/-- A letter is written in small with letters, or with characters beyond ASCII. -/
theorem isWordChar_of_mem_toLowercase {c d : Char} (h : isAlphanumeric c = true)
    (hd : d ∈ toLowercase c) : IsWordChar d := by
  unfold toLowercase at hd
  split at hd
  · next hsmall =>
    rw [List.mem_singleton.1 hd]
    intro _
    exact isAlphanum_of_ascii (by decide) hsmall (isWordChar_of_isAlphanumeric h hsmall)
  · next hlarge =>
    split at hd
    · rw [List.mem_cons, List.mem_singleton] at hd
      rcases hd with rfl | rfl
      · exact fun _ => rfl
      · exact fun hsmall => absurd hsmall (by decide)
    · rw [List.mem_singleton.1 hd]
      exact isWordChar_shiftCode staysInWords_smallShifts (Nat.le_of_not_lt hlarge)

theorem isWordChar_of_mem_lowerWord {word : List Char} (h : ∀ c ∈ word, isAlphanumeric c = true)
    {d : Char} (hd : d ∈ lowerWord word) : IsWordChar d := by
  fun_induction lowerWord word with
  | case1 => cases hd
  | case2 =>
    rw [List.mem_singleton] at hd
    subst hd
    unfold IsWordChar
    decide
  | case3 c _ => exact isWordChar_of_mem_toLowercase (h c List.mem_cons_self) hd
  | case4 c d rest ih =>
    rcases List.mem_append.1 hd with hd | hd
    · exact isWordChar_of_mem_toLowercase (h c List.mem_cons_self) hd
    · exact ih (fun c hc => h c (List.mem_cons_of_mem _ hc)) hd

theorem isWordChar_of_mem_capitalWord {word : List Char} (h : ∀ c ∈ word, isAlphanumeric c = true)
    {d : Char} (hd : d ∈ capitalWord word) : IsWordChar d := by
  cases word with
  | nil => cases hd
  | cons c rest =>
    rcases List.mem_append.1 hd with hd | hd
    · exact isWordChar_of_mem_toUppercase (h c List.mem_cons_self) hd
    · exact isWordChar_of_mem_lowerWord (fun c hc => h c (List.mem_cons_of_mem _ hc)) hd

/-! ## Splitting -/

theorem alphanumericRows_ne_nil (cs : List Char) : alphanumericRows cs ≠ [] := by
  fun_induction alphanumericRows cs <;> simp

theorem isAlphanumeric_of_mem_alphanumericRows {cs row : List Char} (h : row ∈ alphanumericRows cs)
    {c : Char} (hc : c ∈ row) : isAlphanumeric c = true := by
  induction cs generalizing row with
  | nil =>
    rw [alphanumericRows, List.mem_singleton] at h
    subst h
    cases hc
  | cons d cs ih =>
    cases hrows : alphanumericRows cs with
    | nil => exact absurd hrows (alphanumericRows_ne_nil cs)
    | cons first rows =>
      rw [hrows] at ih
      simp only [alphanumericRows, hrows] at h
      split at h
      · next hd =>
        rcases List.mem_cons.1 h with rfl | h
        · rcases List.mem_cons.1 hc with rfl | hc
          · exact hd
          · exact ih List.mem_cons_self hc
        · exact ih (List.mem_cons_of_mem _ h) hc
      · rcases List.mem_cons.1 h with rfl | h
        · cases hc
        · exact ih h hc

/-- A word is made of what is read and what was read before. -/
theorem mem_of_mem_splitCase {word cs piece : List Char} {state : CaseState}
    (h : piece ∈ splitCase word state cs) {c : Char} (hc : c ∈ piece) : c ∈ word ∨ c ∈ cs := by
  fun_induction splitCase word state cs generalizing piece <;> grind

theorem isAlphanumeric_of_mem_words {s : String} {word : List Char} (h : word ∈ words s) {c : Char}
    (hc : c ∈ word) : isAlphanumeric c = true := by
  obtain ⟨row, hrow, hword⟩ := List.mem_flatMap.1 h
  rcases mem_of_mem_splitCase hword hc with hnil | hc
  · cases hnil
  · exact isAlphanumeric_of_mem_alphanumericRows hrow hc

/-- A name in capitalised words has no marks. -/
theorem isWordChar_of_mem_pascalCase {s : String} {c : Char} (h : c ∈ (pascalCase s).toList) :
    IsWordChar c := by
  rw [pascalCase, String.toList_ofList] at h
  obtain ⟨word, hword, hc⟩ := List.mem_flatMap.1 h
  exact isWordChar_of_mem_capitalWord (fun d hd => isAlphanumeric_of_mem_words hword hd) hc

end EntityScaffold.Text
