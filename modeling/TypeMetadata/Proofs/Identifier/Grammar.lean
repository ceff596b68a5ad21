import TypeMetadata.Proofs.Identifier.Dotted

/-!
The grammar of dotted identifiers. To cut a text at every dot and look at each segment on its own is
to ask whether the grammar has it.
-/

namespace TypeMetadata.Identifier

/-- A letter or an underscore, and behind it any letters, numbers and underscores. -/
inductive IsIdent : List Char → Prop
  | mk {c : Char} {rest : List Char} (hstart : Text.isAlphabetic c = true ∨ c = '_')
      (hrest : ∀ d ∈ rest, Text.isAlphabetic d = true ∨ Text.isNumeric d = true ∨ d = '_') :
      IsIdent (c :: rest)

/-- One identifier, or several with a dot between each two neighbours. -/
inductive IsPath : List Char → Prop
  | ident {chars : List Char} (hident : IsIdent chars) : IsPath chars
  | dot {first rest : List Char} (hfirst : IsIdent first) (hrest : IsPath rest) :
      IsPath (first ++ '.' :: rest)

variable {chars : List Char}

theorem isWord_iff : isWord chars = true ↔ IsIdent chars := by
  constructor
  · intro hword
    cases chars with
    | nil => cases hword
    | cons c rest =>
        simp only [isWord, isWordStart, isWordContinue, Bool.and_eq_true, Bool.or_eq_true,
          beq_iff_eq, List.all_eq_true, or_assoc] at hword
        exact .mk hword.1 hword.2
  · rintro ⟨hstart, hrest⟩
    simp only [isWord, isWordStart, isWordContinue, Bool.and_eq_true, Bool.or_eq_true, beq_iff_eq,
      List.all_eq_true, or_assoc]
    exact ⟨hstart, hrest⟩

theorem IsIdent.segments (hident : IsIdent chars) : segments chars = [chars] :=
  segments_of_dot_not_mem (dot_not_mem_of_isWord (isWord_iff.mpr hident))

theorem IsPath.segments (hpath : IsPath chars) : ∀ segment ∈ segments chars, IsIdent segment := by
  induction hpath with
  | ident hident =>
      rw [hident.segments, List.forall_mem_singleton]
      exact hident
  | dot hfirst _ ih =>
      rw [segments_append_dot, hfirst.segments, List.singleton_append, List.forall_mem_cons]
      exact ⟨hfirst, ih⟩

/-- By induction on the length: what follows the first dot is shorter. -/
theorem isPath_of_segments (hsegments : ∀ segment ∈ segments chars, IsIdent segment) :
    IsPath chars := by
  induction hlength : chars.length using Nat.strongRecOn generalizing chars with
  | ind length ih =>
      by_cases hdot : '.' ∈ chars
      · obtain ⟨first, rest, rfl, hfirst⟩ := List.eq_append_cons_of_mem hdot
        rw [segments_append_dot, segments_of_dot_not_mem hfirst, List.singleton_append,
          List.forall_mem_cons] at hsegments
        have hshorter : rest.length < length := by
          rw [← hlength, List.length_append, List.length_cons]
          omega
        exact .dot hsegments.1 (ih rest.length hshorter hsegments.2 rfl)
      · rw [segments_of_dot_not_mem hdot, List.forall_mem_singleton] at hsegments
        exact .ident hsegments

theorem isDotted_iff {text : String} : isDotted text = true ↔ IsPath text.toList := by
  simp only [isDotted, List.all_eq_true, isWord_iff]
  exact ⟨isPath_of_segments, IsPath.segments⟩

theorem not_isPath_nil : ¬IsPath [] := by
  intro hpath
  have hident : IsIdent [] := hpath.segments [] List.mem_cons_self
  cases hident

theorem IsPath.ne_empty {text : String} (hpath : IsPath text.toList) : text ≠ "" := by
  rintro rfl
  exact not_isPath_nil hpath

/-- A path without a dot is a single identifier. -/
theorem IsPath.isIdent_iff (hpath : IsPath chars) : IsIdent chars ↔ '.' ∉ chars := by
  constructor
  · intro hident
    exact dot_not_mem_of_isWord (isWord_iff.mpr hident)
  · intro hdot
    have hsegments := hpath.segments
    rw [segments_of_dot_not_mem hdot] at hsegments
    exact hsegments chars List.mem_cons_self

end TypeMetadata.Identifier
