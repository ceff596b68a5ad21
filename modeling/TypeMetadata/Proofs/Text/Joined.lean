import TypeMetadata.Text.Joined

/-!
Joined texts as the library has them, so that its lemmas apply.
-/

namespace TypeMetadata.Text

theorem joined_eq_intercalate (separator : String) (parts : List String) :
    joined separator parts = separator.intercalate parts := by
  induction parts with
  | nil => simp [joined]
  | cons part rest ih =>
      cases rest with
      | nil => simp [joined]
      | cons next rest => rw [joined, ih, String.intercalate_cons_cons]

theorem joined_concat (separator : String) {parts : List String} (hparts : parts ≠ [])
    (last : String) :
    joined separator (parts ++ [last]) = joined separator parts ++ separator ++ last := by
  rw [joined_eq_intercalate, joined_eq_intercalate,
    String.intercalate_append_of_ne_nil hparts (List.cons_ne_nil last []),
    String.intercalate_singleton]

/-- A separator that shows keeps texts of several parts from being empty. -/
theorem joined_eq_empty_iff {separator : String} (hseparator : separator ≠ "")
    {parts : List String} : joined separator parts = "" ↔ parts = [] ∨ parts = [""] := by
  cases parts with
  | nil => simp [joined]
  | cons part rest =>
      cases rest with
      | nil => simp [joined]
      | cons next rest => simp [joined, hseparator]

end TypeMetadata.Text
