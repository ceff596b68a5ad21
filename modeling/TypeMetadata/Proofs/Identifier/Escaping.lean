import TypeMetadata.Identifier.Reserved

/-!
Reserved words and their escaped forms. Escaping leaves a name alone or moves a reserved word away,
so the only name that an escaped word can meet is the one that was spelled like it from the start.
-/

namespace TypeMetadata.Identifier

variable {name other : String}

/-! ### Reserved words -/

theorem mem_reservedWords (hreserved : isReserved name = true) :
    name ∈ reservedWords :=
  List.contains_iff_mem.mp hreserved

/-- Reserved words have letters only. -/
theorem not_mem_of_isReserved {sign : Char} (hsign : sign.isAlpha = false)
    (hreserved : isReserved name = true) : sign ∉ name.toList := by
  have hwords : ∀ word ∈ reservedWords, word.toList.all Char.isAlpha = true := by decide +kernel
  have hletters := List.all_eq_true.mp (hwords name (mem_reservedWords hreserved))
  intro hmem
  rw [hletters sign hmem] at hsign
  cases hsign

theorem isReserved_of_mem {sign : Char} (hsign : sign.isAlpha = false)
    (hmem : sign ∈ name.toList) : isReserved name = false := by
  rw [← Bool.not_eq_true]
  intro hreserved
  exact not_mem_of_isReserved hsign hreserved hmem

theorem isReserved_of_isPathKeyword (hkeyword : isPathKeyword name = true) :
    isReserved name = true := by
  have hwords : ∀ word ∈ pathKeywords, isReserved word = true := by decide +kernel
  exact hwords name (List.contains_iff_mem.mp hkeyword)

/-! ### Escaped forms -/

theorem escape_cases (name : String) :
    (isReserved name = false ∧ escape name = name) ∨
      (isReserved name = true ∧ isPathKeyword name = true ∧ escape name = name ++ "_") ∨
      (isReserved name = true ∧ isPathKeyword name = false ∧ escape name = "r#" ++ name) := by
  rw [escape]
  cases isReserved name with
  | false => exact .inl ⟨rfl, rfl⟩
  | true =>
      cases isPathKeyword name with
      | false => exact .inr (.inr ⟨rfl, rfl, rfl⟩)
      | true => exact .inr (.inl ⟨rfl, rfl, rfl⟩)

theorem escape_of_not_isReserved (hplain : isReserved name = false) :
    escape name = name := by
  rw [escape, hplain]
  rfl

theorem toList_raw (name : String) : ("r#" ++ name).toList = 'r' :: '#' :: name.toList := by
  rw [String.toList_append]
  rfl

theorem isReserved_escape (name : String) : isReserved (escape name) = false := by
  rcases escape_cases name with ⟨hplain, hescape⟩ | ⟨-, -, hescape⟩ | ⟨-, -, hescape⟩
  · rw [hescape, hplain]
  · have hmem : '_' ∈ (escape name).toList := by
      rw [hescape, String.toList_append]
      exact List.mem_append_right _ List.mem_cons_self
    exact isReserved_of_mem rfl hmem
  · have hmem : '#' ∈ (escape name).toList := by
      rw [hescape, toList_raw]
      exact List.mem_cons_of_mem _ List.mem_cons_self
    exact isReserved_of_mem rfl hmem

theorem hash_mem_escape_iff (hreserved : isReserved name = true) :
    '#' ∈ (escape name).toList ↔ isPathKeyword name = false := by
  have hname : '#' ∉ name.toList := not_mem_of_isReserved rfl hreserved
  rcases escape_cases name with ⟨hplain, -⟩ | ⟨-, hkeyword, hescape⟩ | ⟨-, hkeyword, hescape⟩
  · rw [hreserved] at hplain
    cases hplain
  · rw [hescape, hkeyword, String.toList_append]
    simp [hname]
  · rw [hescape, hkeyword, toList_raw]
    simp

/-- The marker tells which of the two ways of escaping was taken. -/
theorem escape_inj (hname : isReserved name = true)
    (hother : isReserved other = true) (heq : escape name = escape other) : name = other := by
  have hkeywords : isPathKeyword name = isPathKeyword other := by
    have hiff := hash_mem_escape_iff hname
    rw [heq, hash_mem_escape_iff hother] at hiff
    cases hkeyword : isPathKeyword name with
    | false => exact (hiff.mpr hkeyword).symm
    | true => simpa [hkeyword] using hiff
  rw [escape, escape, hname, hother, if_pos rfl, if_pos rfl, hkeywords] at heq
  split at heq
  · exact (String.append_left_inj _).mp heq
  · exact (String.append_right_inj _).mp heq

theorem escape_escape (name : String) : escape (escape name) = escape name :=
  escape_of_not_isReserved (isReserved_escape name)

/-- A plain name that is spelled like the escaped form of a reserved word. -/
structure IsEscapedForm (name word : String) : Prop where
  plain : isReserved name = false
  reserved : isReserved word = true
  spelled : name = escape word

theorem escape_eq_escape_iff :
    escape name = escape other ↔
      name = other ∨ IsEscapedForm name other ∨ IsEscapedForm other name := by
  constructor
  · intro heq
    cases hname : isReserved name with
    | false =>
        rw [escape_of_not_isReserved hname] at heq
        cases hother : isReserved other with
        | false => exact .inl (heq.trans (escape_of_not_isReserved hother))
        | true => exact .inr (.inl ⟨hname, hother, heq⟩)
    | true =>
        cases hother : isReserved other with
        | false =>
            rw [escape_of_not_isReserved hother] at heq
            exact .inr (.inr ⟨hother, hname, heq.symm⟩)
        | true => exact .inl (escape_inj hname hother heq)
  · rintro (rfl | hform | hform)
    · rfl
    · rw [hform.spelled, escape_escape]
    · rw [hform.spelled, escape_escape]

end TypeMetadata.Identifier
