import Mathlib.Order.Bounds.Basic
import TypeMetadata.Proofs.Identifier.Allocator

/-!
An allocator over a series of calls. All that it answers can be told from the identifiers that the
calls before have claimed, and the search for a free candidate is over as soon as it has passed as
many candidates as there are claims.
-/

namespace TypeMetadata.Identifier

/-! ### Calls and claims -/

inductive Call
  | reserve (name : String)
  | allocate (name : String)
  | isUsed (ident : String)

inductive Reply
  | reserved (wasFree : Bool)
  | allocated (ident : String)
  | usage (isTaken : Bool)

/-- The identifier that a call claims, as the caller can tell: one that was allocated, and one that
was reserved while it was free. -/
def claimOf : Call × Reply → Option String
  | (.reserve name, .reserved true) => some (escape name)
  | (.allocate _, .allocated ident) => some ident
  | _ => none

namespace Allocator

variable {allocator : Allocator} {claims : List String} {name ident : String}

def answer (allocator : Allocator) : Call → Reply
  | .reserve name => .reserved (allocator.reserve name).1
  | .allocate name => .allocated (allocator.allocate name).1
  | .isUsed ident => .usage (allocator.isUsed ident)

def after (allocator : Allocator) : Call → Allocator
  | .reserve name => (allocator.reserve name).2
  | .allocate name => (allocator.allocate name).2
  | .isUsed _ => allocator

def afterAll (allocator : Allocator) (calls : List Call) : Allocator :=
  calls.foldl after allocator

/-- Calls made one after another, each with its reply. -/
def transcript (allocator : Allocator) : List Call → List (Call × Reply)
  | [] => []
  | call :: calls => (call, allocator.answer call) :: (allocator.after call).transcript calls

/-- What a series of calls on a new allocator claims, in order. -/
def claimed (calls : List Call) : List String :=
  (empty.transcript calls).filterMap claimOf

/-! ### The used identifiers are the claims -/

/-- The claims are all that an allocator remembers, and each was made once. -/
structure Remembers (allocator : Allocator) (claims : List String) : Prop where
  isUsed_iff : ∀ ident, allocator.isUsed ident = true ↔ ident ∈ claims
  nodup : claims.Nodup

theorem remembers_empty : empty.Remembers [] where
  isUsed_iff ident := by simp [isUsed, empty]
  nodup := List.nodup_nil

theorem claim_of_isUsed (hused : allocator.isUsed ident = true) :
    allocator.claim ident = allocator := by
  rw [claim]
  congr 1
  apply Std.ExtTreeSet.ext_mem
  intro other
  rw [Std.ExtTreeSet.mem_insert, Std.LawfulEqCmp.compare_eq_iff_eq, or_iff_right_iff_imp]
  rintro rfl
  exact hused

namespace Remembers

theorem isUsed_eq_false_iff (hclaims : allocator.Remembers claims) :
    allocator.isUsed ident = false ↔ ident ∉ claims := by
  rw [← Bool.not_eq_true, hclaims.isUsed_iff]

theorem claim (hclaims : allocator.Remembers claims) (hfree : allocator.isUsed ident = false) :
    (allocator.claim ident).Remembers (claims ++ [ident]) where
  isUsed_iff other := by
    rw [← not_iff_not, Bool.not_eq_true, isUsed_claim_eq_false, hclaims.isUsed_eq_false_iff,
      List.mem_append, List.mem_singleton, not_or, and_comm, ne_comm]
  nodup := by
    rw [← List.concat_eq_append, List.nodup_concat]
    exact ⟨hclaims.isUsed_eq_false_iff.mp hfree, hclaims.nodup⟩

theorem after (hclaims : allocator.Remembers claims) (call : Call) :
    (allocator.after call).Remembers
      (claims ++ (claimOf (call, allocator.answer call)).toList) := by
  cases call with
  | reserve name =>
      rw [Allocator.after, answer, reserve]
      cases hused : allocator.isUsed (escape name) with
      | false => exact hclaims.claim hused
      | true =>
          rw [claim_of_isUsed hused]
          simpa [claimOf] using hclaims
  | allocate name =>
      obtain ⟨position, hfirst, hallocate⟩ := allocate_cases allocator name
      rw [Allocator.after, answer, hallocate]
      exact hclaims.claim hfirst.free
  | isUsed ident =>
      change allocator.Remembers (claims ++ [])
      rwa [List.append_nil]

theorem afterAll (hclaims : allocator.Remembers claims) (calls : List Call) :
    (allocator.afterAll calls).Remembers
      (claims ++ (allocator.transcript calls).filterMap claimOf) := by
  induction calls generalizing allocator claims with
  | nil =>
      change allocator.Remembers (claims ++ [])
      rwa [List.append_nil]
  | cons call calls ih =>
      have hrest := ih (hclaims.after call)
      rw [transcript, List.filterMap_eq_flatMap_toList, List.flatMap_cons, ← List.append_assoc,
        ← List.filterMap_eq_flatMap_toList]
      exact hrest

theorem size_eq (hclaims : allocator.Remembers claims) : allocator.used.size = claims.length := by
  have hused : allocator.used = Std.ExtTreeSet.ofList claims := by
    apply Std.ExtTreeSet.ext_mem
    intro ident
    rw [Std.ExtTreeSet.mem_ofList, List.contains_iff_mem]
    exact hclaims.isUsed_iff ident
  rw [hused, size_ofList_of_nodup hclaims.nodup]

end Remembers

/-! ### The search for a free candidate -/

/-- The search that has come to a position looks at so many candidates from there on: all of them
are taken but the last, with which it ends. Nothing else puts an end to it. -/
inductive Finds (allocator : Allocator) (name : String) : (position looks : Nat) → String → Prop
  | free {position : Nat} (hfree : allocator.isUsed (candidate name position) = false) :
      Finds allocator name position 1 (candidate name position)
  | taken {position looks : Nat} {ident : String}
      (htaken : allocator.isUsed (candidate name position) = true)
      (hrest : Finds allocator name (position + 1) looks ident) :
      Finds allocator name position (looks + 1) ident

theorem finds_of_isFirstFree {position more : Nat}
    (hfirst : allocator.IsFirstFree name (position + more)) :
    allocator.Finds name position (more + 1) (candidate name (position + more)) := by
  induction more generalizing position with
  | zero => exact .free hfirst.free
  | succ more ih =>
      have htaken := hfirst.earlier position (by omega)
      rw [Nat.add_comm more, ← Nat.add_assoc] at hfirst ⊢
      rw [Nat.add_comm 1 more]
      exact .taken htaken (ih hfirst)

namespace Remembers

theorem allocate_finds (hclaims : allocator.Remembers claims) (name : String) :
    ∃ looks ≤ claims.length + 1, allocator.Finds name 0 looks (allocator.allocate name).1 := by
  obtain ⟨position, hfirst, hallocate⟩ := allocate_cases allocator name
  have hle := le_size_of_earlier hfirst.earlier
  rw [hclaims.size_eq] at hle
  rw [← Nat.zero_add position] at hfirst
  have hfinds := finds_of_isFirstFree hfirst
  rw [Nat.zero_add] at hfinds
  rw [hallocate]
  exact ⟨position + 1, Nat.succ_le_succ hle, hfinds⟩

theorem allocate_isLeast (hclaims : allocator.Remembers claims) (name : String) :
    (escape name ∉ claims ∧ (allocator.allocate name).1 = escape name) ∨
      (escape name ∈ claims ∧ ∃ number,
        IsLeast {number | 0 < number ∧ suffixed name number ∉ claims} number ∧
          (allocator.allocate name).1 = suffixed name number) := by
  obtain ⟨position, hfirst, hallocate⟩ := allocate_cases allocator name
  rw [hallocate]
  have hfree := hclaims.isUsed_eq_false_iff.mp hfirst.free
  have hearlier : ∀ number < position, candidate name number ∈ claims := by
    intro number hlt
    exact (hclaims.isUsed_iff _).mp (hfirst.earlier number hlt)
  cases position with
  | zero => exact .inl ⟨hfree, rfl⟩
  | succ count =>
      refine .inr ⟨hearlier 0 (Nat.succ_pos count), count + 1, ⟨⟨Nat.succ_pos count, ?_⟩, ?_⟩, ?_⟩
      · rwa [candidate_succ] at hfree
      · rintro number ⟨hpos, hnumber⟩
        by_contra hlt
        rw [← candidate_of_pos hpos] at hnumber
        exact hnumber (hearlier number (Nat.lt_of_not_le hlt))
      · exact candidate_succ name count

theorem reserve_eq_false_iff (hclaims : allocator.Remembers claims) (name : String) :
    (allocator.reserve name).1 = false ↔ escape name ∈ claims := by
  rw [reserve, Bool.not_eq_false', hclaims.isUsed_iff]

theorem reserve_unchanged_iff (hclaims : allocator.Remembers claims) (name : String) :
    (allocator.reserve name).2 = allocator ↔ escape name ∈ claims := by
  rw [← hclaims.isUsed_iff]
  constructor
  · intro hsame
    rw [← hsame]
    exact Std.ExtTreeSet.contains_insert_self
  · exact claim_of_isUsed

theorem isUsed_allocate_iff (hclaims : allocator.Remembers claims) (name ident : String) :
    (allocator.allocate name).2.isUsed ident = true ↔
      ident ∈ claims ∨ ident = (allocator.allocate name).1 := by
  obtain ⟨position, hfirst, hallocate⟩ := allocate_cases allocator name
  rw [hallocate, (hclaims.claim hfirst.free).isUsed_iff, List.mem_append, List.mem_singleton]

end Remembers

/-- Whatever was asked of an allocator before, its replies follow from the claims, all of which
differ: a name is reserved and an identifier is used exactly as the claims say, and a name is
allocated as the first candidate that is not claimed. -/
theorem replies_follow_claims (calls : List Call) :
    (claimed calls).Nodup ∧
      (∀ ident, (empty.afterAll calls).isUsed ident = true ↔ ident ∈ claimed calls) ∧
      (∀ name, ((empty.afterAll calls).reserve name).1 = false ↔ escape name ∈ claimed calls) ∧
      (∀ name, ((empty.afterAll calls).reserve name).2 = empty.afterAll calls ↔
        escape name ∈ claimed calls) ∧
      ∀ name, ∃ ident next, (empty.afterAll calls).allocate name = (ident, next) ∧
        ((escape name ∉ claimed calls ∧ ident = escape name) ∨
          (escape name ∈ claimed calls ∧ ∃ number,
            IsLeast {number | 0 < number ∧ suffixed name number ∉ claimed calls} number ∧
              ident = suffixed name number)) ∧
        (∀ other, next.isUsed other = true ↔ other ∈ claimed calls ∨ other = ident) ∧
        ∃ looks ≤ (claimed calls).length + 1,
          (empty.afterAll calls).Finds name 0 looks ident := by
  have hclaims : (empty.afterAll calls).Remembers (claimed calls) :=
    remembers_empty.afterAll calls
  refine ⟨hclaims.nodup, hclaims.isUsed_iff, hclaims.reserve_eq_false_iff,
    hclaims.reserve_unchanged_iff, ?_⟩
  intro name
  exact ⟨_, _, rfl, hclaims.allocate_isLeast name, hclaims.isUsed_allocate_iff name,
    hclaims.allocate_finds name⟩

end Allocator

end TypeMetadata.Identifier
