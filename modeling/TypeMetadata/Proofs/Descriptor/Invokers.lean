import TypeMetadata.Descriptor.InterfaceDescriptor
import TypeMetadata.Proofs.Text.Numbered

/-!
The invokers of one interface: one for each method, in order, and no two under one name.
-/

namespace TypeMetadata.InterfaceDescriptor

variable (descriptor : InterfaceDescriptor)

theorem invokers_getElem? (position : Nat) :
    descriptor.invokers[position]? = descriptor.methods[position]?.map fun method =>
      ⟨method, descriptor.invokerName method position, descriptor.generatedNamespace⟩ := by
  rw [invokers, List.getElem?_map, List.getElem?_zipIdx, Option.map_map]
  simp [Function.comp_def]

theorem mem_invokers {invoker : InvokerDescriptor} :
    invoker ∈ descriptor.invokers ↔
      ∃ position method, descriptor.methods[position]? = some method ∧
        invoker = ⟨method, descriptor.invokerName method position,
          descriptor.generatedNamespace⟩ := by
  simp only [List.mem_iff_getElem?, invokers_getElem?, Option.map_eq_some_iff,
    eq_comm (a := invoker)]

theorem map_method_invokers : descriptor.invokers.map InvokerDescriptor.method =
    descriptor.methods := by
  apply List.ext_getElem?
  intro position
  rw [List.getElem?_map, invokers_getElem?, Option.map_map]
  exact Option.map_id'

theorem map_key_invokers : descriptor.invokers.map InvokerDescriptor.key =
    descriptor.methods.map MethodDescriptor.key := by
  rw [← map_method_invokers, List.map_map]
  rfl

/-! ### Names -/

theorem toList_proxy_name :
    descriptor.proxy.name.toList = "Proxy_".toList ++ descriptor.name.toList :=
  String.toList_append

theorem invokerName_eq (method : MethodDescriptor) (position : Nat) :
    descriptor.invokerName method position =
      "Invokable_" ++ (descriptor.name ++ "_" ++ method.name) ++ "_" ++ toString position := by
  change "Invokable_" ++ descriptor.name ++ "_" ++ method.name ++ "_" ++ toString position = _
  simp only [String.append_assoc]

theorem toList_invokerName (method : MethodDescriptor) (position : Nat) :
    (descriptor.invokerName method position).toList = "Invokable_".toList ++
      (descriptor.name.toList ++ '_' :: method.name.toList) ++ '_' :: Nat.toDigits 10 position := by
  rw [invokerName_eq, Text.toList_underscored, String.toList_append, Text.toList_underscored,
    Text.toList_toString]

/-- The position can be read off a name, whatever the interfaces and the methods are called. -/
theorem invokerName_eq_iff {first second : InterfaceDescriptor} {method other : MethodDescriptor}
    {position place : Nat} :
    first.invokerName method position = second.invokerName other place ↔
      first.name ++ "_" ++ method.name = second.name ++ "_" ++ other.name ∧ position = place := by
  rw [invokerName_eq, invokerName_eq]
  constructor
  · intro heq
    obtain ⟨hnames, hposition⟩ := Text.numbered_inj heq
    exact ⟨(String.append_right_inj _).mp hnames, hposition⟩
  · rintro ⟨hnames, rfl⟩
    rw [hnames]

theorem names_nodup : (descriptor.invokers.map InvokerDescriptor.name).Nodup := by
  rw [List.Nodup, List.pairwise_map, List.pairwise_iff_getElem]
  intro position place hposition hplace hlt heq
  simp only [invokers, List.getElem_map, List.getElem_zipIdx, Nat.zero_add] at heq
  exact Nat.ne_of_lt hlt (invokerName_eq_iff.mp heq).2

/-- No two invokers of one interface have one name, whatever the methods are called. -/
theorem qualifiedNames_nodup :
    (descriptor.invokers.map InvokerDescriptor.qualifiedName).Nodup := by
  have heq : descriptor.invokers.map InvokerDescriptor.qualifiedName =
      (descriptor.invokers.map InvokerDescriptor.name).map
        (descriptor.generatedNamespace ++ "." ++ ·) := by
    simp [invokers, Function.comp_def, InvokerDescriptor.qualifiedName, toString]
  rw [heq]
  refine List.Pairwise.map _ ?_ descriptor.names_nodup
  intro name other hne hsame
  exact hne ((String.append_right_inj _).mp hsame)

end TypeMetadata.InterfaceDescriptor
