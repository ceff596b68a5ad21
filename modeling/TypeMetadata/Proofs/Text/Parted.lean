/-!
Texts of two parts with a separator between them. The parts are found again if one side is known to
hold no separator. Otherwise the separator may be cut at in more than one place, and what lies
between two such places belongs to either part.
-/

namespace TypeMetadata.Text

variable {separator : Char} {first second rest others : List Char}

/-- The last separator is found again. -/
theorem append_cons_inj (hrest : separator ∉ rest) (hothers : separator ∉ others)
    (heq : first ++ separator :: rest = second ++ separator :: others) :
    first = second ∧ rest = others := by
  induction first generalizing second with
  | nil =>
      cases second with
      | nil => simpa using heq
      | cons c second =>
          simp only [List.nil_append, List.cons_append, List.cons.injEq] at heq
          exact absurd (heq.2 ▸ List.mem_append_right second List.mem_cons_self) hrest
  | cons c first ih =>
      cases second with
      | nil =>
          simp only [List.nil_append, List.cons_append, List.cons.injEq] at heq
          exact absurd (heq.2 ▸ List.mem_append_right first List.mem_cons_self) hothers
      | cons d second =>
          simp only [List.cons_append, List.cons.injEq] at heq
          obtain ⟨rfl, rfl⟩ := ih heq.2
          exact ⟨by rw [heq.1], rfl⟩

/-- What one text has before the separator and what the other has there are the same, or one of
them goes on with a separator and with what its second part falls short of. -/
theorem append_cons_eq_iff :
    first ++ separator :: rest = second ++ separator :: others ↔
      (first = second ∧ rest = others) ∨
        (∃ between, second = first ++ separator :: between ∧
          rest = between ++ separator :: others) ∨
        ∃ between, first = second ++ separator :: between ∧
          others = between ++ separator :: rest := by
  constructor
  · intro heq
    rcases List.append_eq_append_iff.mp heq with
      ⟨middle, hsecond, hrest⟩ | ⟨middle, hfirst, hothers⟩
    · cases middle with
      | nil =>
          rw [List.append_nil] at hsecond
          exact .inl ⟨hsecond.symm, (List.cons.inj hrest).2⟩
      | cons c between =>
          rw [List.cons_append, List.cons.injEq] at hrest
          obtain ⟨rfl, hrest⟩ := hrest
          exact .inr (.inl ⟨between, hsecond, hrest⟩)
    · cases middle with
      | nil =>
          rw [List.append_nil] at hfirst
          exact .inl ⟨hfirst, (List.cons.inj hothers).2.symm⟩
      | cons c between =>
          rw [List.cons_append, List.cons.injEq] at hothers
          obtain ⟨rfl, hothers⟩ := hothers
          exact .inr (.inr ⟨between, hfirst, hothers⟩)
  · rintro (⟨rfl, rfl⟩ | ⟨between, rfl, rfl⟩ | ⟨between, rfl, rfl⟩) <;> simp

/-- The first separator is found again. -/
theorem append_cons_inj_of_first (hfirst : separator ∉ first) (hsecond : separator ∉ second)
    (heq : first ++ separator :: rest = second ++ separator :: others) :
    first = second ∧ rest = others := by
  rcases append_cons_eq_iff.mp heq with hsame | ⟨between, rfl, -⟩ | ⟨between, rfl, -⟩
  · exact hsame
  · exact absurd (List.mem_append_right first List.mem_cons_self) hsecond
  · exact absurd (List.mem_append_right second List.mem_cons_self) hfirst

/-! ### Dots and underscores -/

theorem toList_dotted (s t : String) : (s ++ "." ++ t).toList = s.toList ++ '.' :: t.toList := by
  simp [String.toList_append]

theorem toList_underscored (s t : String) :
    (s ++ "_" ++ t).toList = s.toList ++ '_' :: t.toList := by
  simp [String.toList_append]

theorem dotted_inj {s t name other : String} (hname : '.' ∉ name.toList)
    (hother : '.' ∉ other.toList) (heq : s ++ "." ++ name = t ++ "." ++ other) :
    s = t ∧ name = other := by
  rw [← String.toList_inj, toList_dotted, toList_dotted] at heq
  obtain ⟨hspace, hlast⟩ := append_cons_inj hname hother heq
  exact ⟨String.toList_inj.mp hspace, String.toList_inj.mp hlast⟩

theorem underscored_eq_iff {s t name other : String} :
    s ++ "_" ++ name = t ++ "_" ++ other ↔
      (s = t ∧ name = other) ∨
        (∃ between, t = s ++ "_" ++ between ∧ name = between ++ "_" ++ other) ∨
        ∃ between, s = t ++ "_" ++ between ∧ other = between ++ "_" ++ name := by
  have hchars : ∀ p : List Char → Prop, (∃ chars, p chars) ↔ ∃ text : String, p text.toList :=
    fun p => ⟨fun ⟨chars, hp⟩ => ⟨.ofList chars, by rwa [String.toList_ofList]⟩,
      fun ⟨text, hp⟩ => ⟨text.toList, hp⟩⟩
  simp only [← String.toList_inj, toList_underscored, append_cons_eq_iff, hchars]

end TypeMetadata.Text
