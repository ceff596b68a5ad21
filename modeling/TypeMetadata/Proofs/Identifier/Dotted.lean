import TypeMetadata.Identifier.Dotted
import TypeMetadata.Proofs.Identifier.Word
import TypeMetadata.Proofs.Text.Joined
import TypeMetadata.Proofs.Text.Parted

/-!
How dotted identifiers are put together. A dot parts a text into its segments, so dotted identifiers
can be joined by dots, and words are those of one segment.
-/

namespace TypeMetadata.Identifier

/-! ### Segments -/

theorem segments_ne_nil (chars : List Char) : segments chars ≠ [] := by
  cases chars with
  | nil => exact List.cons_ne_nil _ _
  | cons c rest =>
      rw [segments]
      split
      · exact List.cons_ne_nil _ _
      · split <;> exact List.cons_ne_nil _ _

theorem segments_dot (chars : List Char) : segments ('.' :: chars) = [] :: segments chars := by
  obtain ⟨first, others, hsegments⟩ := List.exists_cons_of_ne_nil (segments_ne_nil chars)
  rw [segments, hsegments]
  rfl

theorem segments_cons {c : Char} (hc : c ≠ '.') {chars first : List Char}
    {others : List (List Char)} (hsegments : segments chars = first :: others) :
    segments (c :: chars) = (c :: first) :: others := by
  rw [segments, hsegments]
  exact if_neg hc

theorem segments_append_dot (first second : List Char) :
    segments (first ++ '.' :: second) = segments first ++ segments second := by
  induction first with
  | nil => exact segments_dot second
  | cons c first ih =>
      by_cases hc : c = '.'
      · rw [hc, List.cons_append, segments_dot, segments_dot, ih, List.cons_append]
      · obtain ⟨head, others, hsegments⟩ := List.exists_cons_of_ne_nil (segments_ne_nil first)
        rw [hsegments, List.cons_append] at ih
        rw [List.cons_append, segments_cons hc ih, segments_cons hc hsegments, List.cons_append]

theorem segments_of_dot_not_mem {chars : List Char} (hdot : '.' ∉ chars) :
    segments chars = [chars] := by
  induction chars with
  | nil => rfl
  | cons c rest ih =>
      rw [List.mem_cons, not_or] at hdot
      exact segments_cons (Ne.symm hdot.1) (ih hdot.2)

/-! ### Dotted identifiers -/

theorem isDotted_of_isWord {text : String} (hword : isWord text.toList = true) :
    isDotted text = true := by
  rw [isDotted, segments_of_dot_not_mem (dot_not_mem_of_isWord hword), List.all_cons, hword]
  rfl

theorem isDotted_append_dot (first second : String) :
    isDotted (first ++ "." ++ second) = (isDotted first && isDotted second) := by
  rw [isDotted, Text.toList_dotted, segments_append_dot, List.all_append]
  rfl

theorem ne_empty_of_isDotted {text : String} (hdotted : isDotted text = true) : text ≠ "" := by
  rintro rfl
  cases hdotted

theorem isDotted_joined {parts : List String} (hparts : ∀ part ∈ parts, isDotted part = true)
    (hnonempty : parts ≠ []) : isDotted (Text.joined "." parts) = true := by
  induction parts with
  | nil => exact absurd rfl hnonempty
  | cons part rest ih =>
      rw [List.forall_mem_cons] at hparts
      cases rest with
      | nil => exact hparts.1
      | cons next rest =>
          rw [Text.joined, isDotted_append_dot, hparts.1, ih hparts.2 (List.cons_ne_nil _ _)]
          rfl

end TypeMetadata.Identifier
