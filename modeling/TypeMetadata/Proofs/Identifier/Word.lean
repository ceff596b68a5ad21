import TypeMetadata.Identifier.Word

/-!
Words, class of characters by class of characters. What can go on with a word can be put behind one.
-/

namespace TypeMetadata.Identifier

/-! ### Characters -/

theorem covers_of_first {first last n : Nat} (hfirst : first ≤ n) (hlast : n ≤ last)
    (rest : Text.CodeRanges) : Text.CodeRanges.covers ((first, last) :: rest) n = true := by
  rw [Text.CodeRanges.covers, decide_eq_true hfirst, decide_eq_true hlast]
  rfl

theorem isWordContinue_of_isDigit {c : Char} (hdigit : c.isDigit = true) :
    isWordContinue c = true := by
  simp only [Char.isDigit, Bool.and_eq_true, decide_eq_true_eq, ge_iff_le,
    UInt32.le_iff_toNat_le] at hdigit
  have hnumeric : Text.isNumeric c = true := covers_of_first hdigit.1 hdigit.2 _
  rw [isWordContinue, hnumeric, Bool.or_true, Bool.true_or]

theorem isWordContinue_underscore : isWordContinue '_' = true := by
  rw [isWordContinue, beq_self_eq_true, Bool.or_true]

theorem isWordContinue_of_mem_number (n : Nat) :
    ∀ c ∈ '_' :: Nat.toDigits 10 n, isWordContinue c = true := by
  intro c hc
  rcases List.mem_cons.mp hc with rfl | hdigit
  · exact isWordContinue_underscore
  · exact isWordContinue_of_isDigit (Nat.isDigit_of_mem_toDigits (by decide) (by decide) hdigit)

theorem isWordContinue_dot : isWordContinue '.' = false := by
  decide +kernel

theorem isWordContinue_of_isWordStart {c : Char} (hstart : isWordStart c = true) :
    isWordContinue c = true := by
  simp only [isWordStart, isWordContinue, Bool.or_eq_true] at hstart ⊢
  rcases hstart with hletter | hunderscore
  · exact .inl (.inl hletter)
  · exact .inr hunderscore

/-! ### Words -/

theorem isWordContinue_of_mem {chars : List Char} (hword : isWord chars = true) :
    ∀ c ∈ chars, isWordContinue c = true := by
  cases chars with
  | nil => cases hword
  | cons c rest =>
      rw [isWord, Bool.and_eq_true, List.all_eq_true] at hword
      rw [List.forall_mem_cons]
      exact ⟨isWordContinue_of_isWordStart hword.1, hword.2⟩

theorem isWord_append {chars suffix : List Char} (hword : isWord chars = true)
    (hsuffix : ∀ c ∈ suffix, isWordContinue c = true) : isWord (chars ++ suffix) = true := by
  cases chars with
  | nil => cases hword
  | cons c rest =>
      rw [isWord, Bool.and_eq_true, List.all_eq_true] at hword
      rw [List.cons_append, isWord, hword.1, List.all_append, List.all_eq_true.mpr hword.2,
        List.all_eq_true.mpr hsuffix]
      rfl

theorem dot_not_mem_of_isWord {chars : List Char} (hword : isWord chars = true) :
    '.' ∉ chars := by
  intro hdot
  have hcontinue := isWordContinue_of_mem hword '.' hdot
  rw [isWordContinue_dot] at hcontinue
  cases hcontinue

end TypeMetadata.Identifier
