import Mathlib.Data.List.Forall2
import TypeMetadata.Program.Basic

/-!
Composed questions about a program. A composed question has an answer exactly if each of its parts
has one.
-/

namespace TypeMetadata

variable {ε α β : Type}

theorem bind_eq_ok {x : Except ε α} {f : α → Except ε β} {b : β} :
    (x >>= f) = .ok b ↔ ∃ a, x = .ok a ∧ f a = .ok b := by
  cases x <;> simp [bind, Except.bind]

theorem bind_eq_error {x : Except ε α} {f : α → Except ε β} {e : ε} :
    (x >>= f) = .error e ↔ x = .error e ∨ ∃ a, x = .ok a ∧ f a = .error e := by
  cases x <;> simp [bind, Except.bind]

theorem pure_eq_ok {a b : α} : (pure a : Except ε α) = .ok b ↔ a = b :=
  Except.ok.injEq a b ▸ Iff.rfl

theorem mapM_eq_ok {f : α → Except ε β} {as : List α} {bs : List β} :
    as.mapM f = .ok bs ↔ List.Forall₂ (fun a b => f a = .ok b) as bs := by
  induction as generalizing bs with
  | nil =>
      rw [List.mapM_nil, pure_eq_ok]
      constructor
      · rintro rfl
        exact .nil
      · rintro ⟨⟩
        rfl
  | cons a as ih =>
      simp only [List.mapM_cons, bind_eq_ok, pure_eq_ok, ih]
      constructor
      · rintro ⟨b, hhead, bs, htail, rfl⟩
        exact .cons hhead htail
      · rintro (_ | ⟨hhead, htail⟩)
        exact ⟨_, hhead, _, htail, rfl⟩

/-! ### Questions with an answer -/

def Answered (x : Except ε α) : Prop :=
  ∃ a, x = .ok a

theorem answered_pure (a : α) : Answered (pure a : Except ε α) :=
  ⟨a, rfl⟩

theorem Answered.bind {x : Except ε α} {f : α → Except ε β} (hx : Answered x)
    (hf : ∀ a, x = .ok a → Answered (f a)) : Answered (x >>= f) := by
  obtain ⟨a, ha⟩ := hx
  rw [ha]
  exact hf a ha

theorem answered_mapM {f : α → Except ε β} {as : List α} (hf : ∀ a ∈ as, Answered (f a)) :
    Answered (as.mapM f) := by
  induction as with
  | nil => exact ⟨[], rfl⟩
  | cons a as ih =>
      rw [List.mapM_cons]
      apply Answered.bind (hf a List.mem_cons_self)
      intro b _
      apply Answered.bind (ih fun a ha => hf a (List.mem_cons_of_mem _ ha))
      intro bs _
      exact answered_pure (b :: bs)

theorem answered_mapM_iff {f : α → Except ε β} {as : List α} :
    Answered (as.mapM f) ↔ ∀ a ∈ as, Answered (f a) := by
  refine ⟨?_, answered_mapM⟩
  rintro ⟨bs, hbs⟩
  rw [mapM_eq_ok] at hbs
  induction hbs with
  | nil => simp
  | cons hhead _ ih => exact List.forall_mem_cons.mpr ⟨⟨_, hhead⟩, ih⟩

/-- A list of questions fails at the first of them that has no answer. -/
theorem mapM_eq_error {f : α → Except ε β} {as : List α} {e : ε} :
    as.mapM f = .error e ↔ ∃ before a after, as = before ++ a :: after ∧
      (∀ b ∈ before, Answered (f b)) ∧ f a = .error e := by
  constructor
  · intro herror
    induction as with
    | nil => cases herror
    | cons a as ih =>
        rw [List.mapM_cons, bind_eq_error] at herror
        rcases herror with hhead | ⟨b, hhead, hrest⟩
        · exact ⟨[], a, as, rfl, by simp, hhead⟩
        · rw [bind_eq_error] at hrest
          rcases hrest with htail | ⟨bs, -, hpure⟩
          · obtain ⟨before, bad, after, rfl, hbefore, hbad⟩ := ih htail
            exact ⟨a :: before, bad, after, rfl, List.forall_mem_cons.mpr ⟨⟨b, hhead⟩, hbefore⟩,
              hbad⟩
          · cases hpure
  · rintro ⟨before, bad, after, rfl, hbefore, hbad⟩
    obtain ⟨bs, hbs⟩ := answered_mapM hbefore
    rw [List.mapM_append, hbs, List.mapM_cons, hbad]
    rfl

/-! ### Answers that stay -/

/-- What the first question answers, the second answers too. -/
def Persists (x y : Except ε α) : Prop :=
  ∀ a, x = .ok a → y = .ok a

theorem Persists.refl (x : Except ε α) : Persists x x :=
  fun _ ha => ha

theorem Persists.bind {x y : Except ε α} {f g : α → Except ε β} (hxy : Persists x y)
    (hfg : ∀ a, Persists (f a) (g a)) : Persists (x >>= f) (y >>= g) := by
  intro b hb
  obtain ⟨a, hx, hf⟩ := bind_eq_ok.mp hb
  exact bind_eq_ok.mpr ⟨a, hxy a hx, hfg a b hf⟩

theorem Persists.mapM {f g : α → Except ε β} (hfg : ∀ a, Persists (f a) (g a)) (as : List α) :
    Persists (as.mapM f) (as.mapM g) := by
  intro bs hbs
  rw [mapM_eq_ok] at hbs ⊢
  apply hbs.imp
  intro a b hb
  exact hfg a b hb

/-- Both questions have an answer, and it is the same. -/
def SameAnswer (x y : Except ε α) : Prop :=
  ∃ a, x = .ok a ∧ y = .ok a

theorem Answered.sameAnswer {x y : Except ε α} (hx : Answered x) (hxy : Persists x y) :
    SameAnswer x y := by
  obtain ⟨a, ha⟩ := hx
  exact ⟨a, ha, hxy a ha⟩

end TypeMetadata
