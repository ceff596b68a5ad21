import TypeMetadata.Extraction.Insertion

/-!
The look at all invokers of an interface before the first entry. The conflict is about the first
method that has an invoker already or stands twice in the list.
-/

namespace TypeMetadata.Catalog

variable {catalog : Catalog}

theorem conflict?_eq_none_iff (catalog : Catalog) (seen : List MethodKey)
    (invokers : List InvokerDescriptor) :
    catalog.conflict? seen invokers = none ↔
      (invokers.map InvokerDescriptor.key).Nodup ∧
        ∀ invoker ∈ invokers, catalog.hasInvoker invoker.key = false ∧ invoker.key ∉ seen := by
  induction invokers generalizing seen with
  | nil => simp [conflict?]
  | cons invoker invokers ih =>
      rw [conflict?]
      split
      · rename_i htaken
        constructor
        · intro hnone
          cases hnone
        · rintro ⟨-, hfree⟩
          obtain ⟨hinvoker, hseen⟩ := hfree invoker List.mem_cons_self
          simp [hinvoker, hseen] at htaken
      · rename_i hfree
        rw [ih]
        simp only [Bool.or_eq_true, not_or, Bool.not_eq_true, List.contains_eq_mem,
          decide_eq_false_iff_not] at hfree
        simp only [List.mem_cons, not_or, List.map_cons, List.nodup_cons, List.mem_map, not_exists,
          not_and, forall_eq_or_imp]
        constructor
        · rintro ⟨hnodup, hrest⟩
          exact ⟨⟨fun other hother => (hrest other hother).2.1, hnodup⟩, hfree,
            fun other hother => ⟨(hrest other hother).1, (hrest other hother).2.2⟩⟩
        · rintro ⟨⟨hdistinct, hnodup⟩, -, hrest⟩
          exact ⟨hnodup, fun other hother =>
            ⟨(hrest other hother).1, hdistinct other hother, (hrest other hother).2⟩⟩

/-- A method has an invoker, or is among those seen or listed before. -/
def Lists (catalog : Catalog) (seen : List MethodKey) (before : List MethodDescriptor)
    (method : MethodDescriptor) : Prop :=
  catalog.hasInvoker method.key = true ∨ method.key ∈ seen ∨
    ∃ other ∈ before, other.key = method.key

theorem lists_cons (seen : List MethodKey) (before : List MethodDescriptor)
    (head method : MethodDescriptor) :
    catalog.Lists (head.key :: seen) before method ↔
      catalog.Lists seen (head :: before) method := by
  simp only [Lists, List.mem_cons, exists_eq_or_imp, eq_comm (a := method.key), or_assoc]
  exact or_congr_right or_left_comm

/-- The conflict is about the first method that has an invoker or was seen before. -/
theorem conflict?_method_eq_some_iff (catalog : Catalog) (seen : List MethodKey)
    (invokers : List InvokerDescriptor) (method : MethodDescriptor) :
    (catalog.conflict? seen invokers).map InvokerDescriptor.method = some method ↔
      ∃ before after, invokers.map InvokerDescriptor.method = before ++ method :: after ∧
        catalog.Lists seen before method ∧
        ∀ first other last, before = first ++ other :: last → ¬catalog.Lists seen first other := by
  induction invokers generalizing seen with
  | nil => simp [conflict?]
  | cons invoker invokers ih =>
      have hhead : (catalog.hasInvoker invoker.key || seen.contains invoker.key) = true ↔
          catalog.Lists seen [] invoker.method := by
        simp [Lists, InvokerDescriptor.key]
      rw [conflict?]
      split
      · rename_i htaken
        rw [Option.map_some, Option.some_inj, List.map_cons]
        constructor
        · rintro rfl
          exact ⟨[], _, rfl, hhead.mp htaken, by simp⟩
        · rintro ⟨_ | ⟨other, before⟩, after, heq, -, hfirst⟩
          · exact (List.cons.inj heq).1
          · obtain ⟨rfl, -⟩ := List.cons.inj heq
            exact absurd (hhead.mp htaken) (hfirst [] _ before rfl)
      · rename_i hfree
        rw [hhead] at hfree
        rw [ih, List.map_cons]
        constructor
        · rintro ⟨before, after, heq, htaken, hfirst⟩
          refine ⟨invoker.method :: before, after, by rw [heq]; rfl, ?_, ?_⟩
          · exact (lists_cons _ _ _ _).mp htaken
          · rintro (_ | ⟨head, first⟩) other last hsplit
            · obtain ⟨rfl, -⟩ := List.cons.inj hsplit
              exact hfree
            · obtain ⟨rfl, htail⟩ := List.cons.inj hsplit
              rw [← lists_cons]
              exact hfirst first other last htail
        · rintro ⟨_ | ⟨head, before⟩, after, heq, htaken, hfirst⟩
          · obtain ⟨rfl, -⟩ := List.cons.inj heq
            exact absurd htaken hfree
          · obtain ⟨rfl, htail⟩ := List.cons.inj heq
            refine ⟨before, after, htail, (lists_cons _ _ _ _).mpr htaken, ?_⟩
            intro first other last hsplit
            have hnext := hfirst (invoker.method :: first) other last (by rw [hsplit]; rfl)
            rwa [← lists_cons] at hnext

end TypeMetadata.Catalog
