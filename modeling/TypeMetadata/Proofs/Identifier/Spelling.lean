import TypeMetadata.Identifier.Allocator
import TypeMetadata.Identifier.Legal
import TypeMetadata.Proofs.Identifier.Escaping
import TypeMetadata.Proofs.Identifier.Word
import TypeMetadata.Proofs.Text.Numbered

/-!
The spellings that are tried for a name. They all differ, and they are all legal if the name is
legal or reserved. Numbers keep names apart, whatever underscores and digits the names end in.
-/

namespace TypeMetadata.Identifier

/-! ### Names with a number -/

namespace Allocator

theorem toList_suffixed (name : String) (count : Nat) :
    (suffixed name count).toList = name.toList ++ '_' :: Nat.toDigits 10 count := by
  change (name ++ "_" ++ toString count).toList = _
  rw [Text.toList_underscored, Text.toList_toString]

theorem suffixed_inj {name other : String} {count number : Nat}
    (heq : suffixed name count = suffixed other number) : name = other ∧ count = number :=
  Text.numbered_inj heq

theorem suffixed_inj_iff {name other : String} {count number : Nat} :
    suffixed name count = suffixed other number ↔ name = other ∧ count = number := by
  constructor
  · exact suffixed_inj
  · rintro ⟨rfl, rfl⟩
    rfl

theorem underscore_mem_suffixed (name : String) (count : Nat) :
    '_' ∈ (suffixed name count).toList := by
  rw [toList_suffixed]
  exact List.mem_append_right _ List.mem_cons_self

theorem isReserved_suffixed (name : String) (count : Nat) :
    isReserved (suffixed name count) = false :=
  isReserved_of_mem rfl (underscore_mem_suffixed name count)

theorem escape_suffixed (name : String) (count : Nat) :
    escape (suffixed name count) = suffixed name count := by
  rw [escape, isReserved_suffixed]
  rfl

theorem suffixed_ne_self (name : String) (count : Nat) : suffixed name count ≠ name := by
  intro heq
  have hlist := congrArg String.toList heq
  rw [toList_suffixed, List.append_right_eq_self] at hlist
  cases hlist

theorem escape_ne_suffixed_of_isReserved {name : String} (hreserved : isReserved name = true)
    (other : String) (count : Nat) : escape name ≠ suffixed other count := by
  intro heq
  have hlist := congrArg String.toList heq
  rcases escape_cases name with ⟨hplain, -⟩ | ⟨-, -, hescape⟩ | ⟨-, -, hescape⟩
  · rw [hreserved] at hplain
    cases hplain
  · -- The suffixed form has a digit behind its last underscore.
    rw [hescape, toList_suffixed, String.toList_append] at hlist
    obtain ⟨-, hdigits⟩ :=
      Text.append_cons_inj List.not_mem_nil Nat.underscore_not_in_toDigits hlist
    exact Nat.toDigits_ne_nil hdigits.symm
  · have hmem := underscore_mem_suffixed other count
    rw [← hlist, hescape, toList_raw] at hmem
    simp only [List.mem_cons, Char.reduceEq, false_or] at hmem
    exact not_mem_of_isReserved rfl hreserved hmem

/-- A name that meets a numbered one is the numbered one as it stands. -/
theorem eq_suffixed_of_escape_eq {name other : String} {count : Nat}
    (heq : escape name = suffixed other count) : name = suffixed other count := by
  cases hname : isReserved name with
  | false => rw [← heq, escape_of_not_isReserved hname]
  | true => exact absurd heq (escape_ne_suffixed_of_isReserved hname other count)

theorem escape_ne_suffixed (name : String) (count : Nat) : escape name ≠ suffixed name count := by
  intro heq
  exact suffixed_ne_self name count (eq_suffixed_of_escape_eq heq).symm

theorem candidate_zero (name : String) : candidate name 0 = escape name :=
  rfl

theorem candidate_succ (name : String) (count : Nat) :
    candidate name (count + 1) = suffixed name (count + 1) :=
  escape_suffixed name (count + 1)

theorem candidate_of_pos {name : String} {number : Nat} (hpos : 0 < number) :
    candidate name number = suffixed name number := by
  cases number with
  | zero => cases hpos
  | succ count => exact candidate_succ name count

theorem isReserved_candidate (name : String) (position : Nat) :
    isReserved (candidate name position) = false :=
  match position with
  | 0 => isReserved_escape name
  | _ + 1 => isReserved_escape _

theorem candidate_inj {name : String} {first second : Nat}
    (heq : candidate name first = candidate name second) : first = second := by
  cases first with
  | zero =>
      cases second with
      | zero => rfl
      | succ number =>
          rw [candidate_zero, candidate_succ] at heq
          exact absurd heq (escape_ne_suffixed name (number + 1))
  | succ count =>
      cases second with
      | zero =>
          rw [candidate_zero, candidate_succ] at heq
          exact absurd heq.symm (escape_ne_suffixed name (count + 1))
      | succ number =>
          rw [candidate_succ, candidate_succ] at heq
          exact (suffixed_inj heq).2

/-- Candidates of two names meet only where one of them is the other name as it stands. -/
theorem candidate_eq_candidate {name other : String} {first second : Nat}
    (heq : candidate name first = candidate other second) :
    name = other ∨ candidate name first = other ∨ candidate other second = name := by
  cases first with
  | zero =>
      rw [candidate_zero] at heq ⊢
      cases second with
      | zero =>
          rw [candidate_zero] at heq ⊢
          rcases escape_eq_escape_iff.mp heq with hsame | hform | hform
          · exact .inl hsame
          · exact .inr (.inr hform.spelled.symm)
          · exact .inr (.inl hform.spelled.symm)
      | succ number =>
          rw [candidate_succ] at heq ⊢
          exact .inr (.inr (eq_suffixed_of_escape_eq heq).symm)
  | succ count =>
      rw [candidate_succ] at heq ⊢
      cases second with
      | zero => exact .inr (.inl (eq_suffixed_of_escape_eq heq.symm).symm)
      | succ number =>
          rw [candidate_succ] at heq
          exact .inl (suffixed_inj heq).1

end Allocator

/-! ### Legal spellings -/

theorem isNamingWord_append {chars suffix : List Char} (hnaming : isNamingWord chars = true)
    (hsuffix : ∀ c ∈ suffix, isWordContinue c = true) :
    isNamingWord (chars ++ suffix) = true := by
  rw [isNamingWord, Bool.and_eq_true, bne_iff_ne] at hnaming ⊢
  refine ⟨isWord_append hnaming.1 hsuffix, ?_⟩
  intro hlone
  rcases List.append_eq_singleton_iff.mp hlone with ⟨rfl, -⟩ | ⟨hlone, -⟩
  · cases hnaming.1
  · exact hnaming.2 hlone

theorem isNamingWord_append_number {chars : List Char} (hnaming : isNamingWord chars = true)
    (count : Nat) : isNamingWord (chars ++ '_' :: Nat.toDigits 10 count) = true :=
  isNamingWord_append hnaming (isWordContinue_of_mem_number count)

theorem dot_not_mem_of_isNamingWord {chars : List Char} (hnaming : isNamingWord chars = true) :
    '.' ∉ chars := by
  rw [isNamingWord, Bool.and_eq_true] at hnaming
  exact dot_not_mem_of_isWord hnaming.1

/-- The raw marker begins a text. -/
def IsRaw (chars : List Char) : Prop :=
  ∃ body, chars = 'r' :: '#' :: body

theorem isLegal_of_toList_raw {ident : String} {body : List Char}
    (hraw : ident.toList = 'r' :: '#' :: body) :
    isLegal ident = (!isPathKeyword (String.ofList body) && isNamingWord body) := by
  rw [isLegal, hraw]
  rfl

theorem isLegal_of_not_isRaw {ident : String} (hplain : ¬IsRaw ident.toList) :
    isLegal ident = (!isReserved ident && isNamingWord ident.toList) := by
  rw [isLegal]
  split
  · rename_i body hraw
    exact absurd ⟨body, hraw⟩ hplain
  · rfl

theorem dot_not_mem_of_isLegal {ident : String} (hlegal : isLegal ident = true) :
    '.' ∉ ident.toList := by
  by_cases hraw : IsRaw ident.toList
  · obtain ⟨body, hbody⟩ := hraw
    rw [isLegal_of_toList_raw hbody, Bool.and_eq_true] at hlegal
    rw [hbody]
    simpa using dot_not_mem_of_isNamingWord hlegal.2
  · rw [isLegal_of_not_isRaw hraw, Bool.and_eq_true] at hlegal
    exact dot_not_mem_of_isNamingWord hlegal.2

theorem isNamingWord_of_isReserved {name : String} (hreserved : isReserved name = true) :
    isNamingWord name.toList = true := by
  have hwords : ∀ word ∈ reservedWords, isNamingWord word.toList = true := by decide +kernel
  exact hwords name (mem_reservedWords hreserved)

theorem not_isRaw_of_isNamingWord {chars : List Char} (hnaming : isNamingWord chars = true) :
    ¬IsRaw chars := by
  rintro ⟨body, rfl⟩
  have hmarker : isWordContinue '#' = false := by decide +kernel
  simp [isNamingWord, isWord, hmarker] at hnaming

theorem isLegal_of_isNamingWord {ident : String} (hnaming : isNamingWord ident.toList = true)
    (hreserved : isReserved ident = false) : isLegal ident = true := by
  rw [isLegal_of_not_isRaw (not_isRaw_of_isNamingWord hnaming), hreserved, hnaming]
  rfl

theorem isLegal_escape {name : String} (hreserved : isReserved name = true) :
    isLegal (escape name) = true := by
  have hnaming := isNamingWord_of_isReserved hreserved
  rcases escape_cases name with ⟨hplain, -⟩ | ⟨-, -, hescape⟩ | ⟨-, hkeyword, hescape⟩
  · rw [hreserved] at hplain
    cases hplain
  · have hchars : (escape name).toList = name.toList ++ ['_'] := by
      rw [hescape, String.toList_append]
      rfl
    apply isLegal_of_isNamingWord _ (isReserved_escape name)
    rw [hchars]
    apply isNamingWord_append hnaming
    intro c hc
    rw [List.mem_singleton.mp hc]
    exact isWordContinue_underscore
  · have hchars : (escape name).toList = 'r' :: '#' :: name.toList := by
      rw [hescape, toList_raw]
    rw [isLegal_of_toList_raw hchars, String.ofList_toList, hkeyword, hnaming]
    rfl

theorem isLegal_escape_iff {name : String} :
    isLegal (escape name) = true ↔ isReserved name = true ∨ isLegal name = true := by
  cases hreserved : isReserved name with
  | false => simp [escape_of_not_isReserved hreserved]
  | true => simp [isLegal_escape hreserved]

theorem isLegal_suffixed_of_isNamingWord {name : String}
    (hnaming : isNamingWord name.toList = true) (count : Nat) :
    isLegal (Allocator.suffixed name count) = true := by
  apply isLegal_of_isNamingWord _ (Allocator.isReserved_suffixed name count)
  rw [Allocator.toList_suffixed]
  exact isNamingWord_append_number hnaming count

/-- Behind the raw marker a path keyword is forbidden, but no number turns a text into one. -/
theorem isLegal_suffixed_of_isRaw {ident : String} (hlegal : isLegal ident = true)
    (hraw : IsRaw ident.toList) (count : Nat) :
    isLegal (Allocator.suffixed ident count) = true := by
  obtain ⟨body, hbody⟩ := hraw
  rw [isLegal_of_toList_raw hbody, Bool.and_eq_true] at hlegal
  have hsuffixed : (Allocator.suffixed ident count).toList =
      'r' :: '#' :: (body ++ '_' :: Nat.toDigits 10 count) := by
    rw [Allocator.toList_suffixed, hbody]
    rfl
  rw [isLegal_of_toList_raw hsuffixed, isNamingWord_append_number hlegal.2, Bool.and_true,
    Bool.not_eq_true', ← Bool.not_eq_true]
  intro hkeyword
  have hmem : '_' ∈ (String.ofList (body ++ '_' :: Nat.toDigits 10 count)).toList := by
    rw [String.toList_ofList]
    exact List.mem_append_right _ List.mem_cons_self
  exact not_mem_of_isReserved rfl (isReserved_of_isPathKeyword hkeyword) hmem

theorem isLegal_suffixed {name : String} (hname : isReserved name = true ∨ isLegal name = true)
    (count : Nat) : isLegal (Allocator.suffixed name count) = true := by
  rcases hname with hreserved | hlegal
  · exact isLegal_suffixed_of_isNamingWord (isNamingWord_of_isReserved hreserved) count
  · by_cases hraw : IsRaw name.toList
    · exact isLegal_suffixed_of_isRaw hlegal hraw count
    · rw [isLegal_of_not_isRaw hraw, Bool.and_eq_true] at hlegal
      exact isLegal_suffixed_of_isNamingWord hlegal.2 count

theorem isLegal_candidate {name : String} (hname : isReserved name = true ∨ isLegal name = true)
    (position : Nat) : isLegal (Allocator.candidate name position) = true := by
  cases position with
  | zero =>
      rw [Allocator.candidate_zero]
      exact isLegal_escape_iff.mpr hname
  | succ count =>
      rw [Allocator.candidate_succ]
      exact isLegal_suffixed hname (count + 1)

/-! ### All spellings -/

/-- Escaping makes a legal spelling of every name that is legal or reserved, and makes it once and
for all. Two names meet when they are escaped only if one of them is the escaped form of the other,
and they never meet behind a number. -/
theorem spellings_legal_and_apart (name other : String) :
    (isLegal (escape name) = true ↔ isReserved name = true ∨ isLegal name = true) ∧
      escape (escape name) = escape name ∧ isReserved (escape name) = false ∧
      (escape name = escape other ↔
        name = other ∨ IsEscapedForm name other ∨ IsEscapedForm other name) ∧
      (∀ number, isReserved (Allocator.suffixed name number) = false ∧
        (isReserved name = true ∨ isLegal name = true →
          isLegal (Allocator.suffixed name number) = true)) ∧
      ∀ number count, Allocator.suffixed name number = Allocator.suffixed other count ↔
        name = other ∧ number = count := by
  refine ⟨isLegal_escape_iff, escape_escape name, isReserved_escape name, escape_eq_escape_iff,
    ?_, fun number count => Allocator.suffixed_inj_iff⟩
  intro number
  exact ⟨Allocator.isReserved_suffixed name number, fun hname => isLegal_suffixed hname number⟩

/-- The escaped form of a keyword that no marker frees may be a name of the program. -/
theorem spellings_of_crate :
    isReserved "crate" = true ∧ isLegal "crate" = false ∧ isLegal (escape "crate") = true ∧
      escape "crate" = escape "crate_" ∧ isLegal (Allocator.suffixed "crate" 1) = true ∧
      ∀ number, Allocator.suffixed "crate" 1 ≠ Allocator.suffixed "crate_" number := by
  have hreserved : isReserved "crate" = true := by decide +kernel
  have hform : IsEscapedForm "crate_" "crate" :=
    ⟨by decide +kernel, hreserved, by decide +kernel⟩
  obtain ⟨hlegal, -, -, hmeet, hnumbered, hapart⟩ := spellings_legal_and_apart "crate" "crate_"
  refine ⟨hreserved, by decide +kernel, hlegal.mpr (.inl hreserved),
    hmeet.mpr (.inr (.inr hform)), (hnumbered 1).2 (.inl hreserved), ?_⟩
  intro number heq
  exact absurd ((hapart 1 number).mp heq).1 (by decide)

end TypeMetadata.Identifier
