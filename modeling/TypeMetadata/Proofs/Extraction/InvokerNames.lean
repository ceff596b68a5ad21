import Mathlib.Data.List.Pairwise
import TypeMetadata.Proofs.Extraction.Contribution
import TypeMetadata.Proofs.Extraction.Namespaces

/-!
Which invokers are generated under one name. The position at the end of a name keeps the methods of
one interface apart. Between the name of the interface and that of the method there is only an
underscore, and both may hold underscores too, so a method of one interface may get the name of a
method of another. That happens in one way alone, which is described here.
-/

namespace TypeMetadata

namespace InterfaceDescriptor

variable {descriptor first second : InterfaceDescriptor}

/-- Where the classes of an interface go: their namespace, and the name they are called after. -/
def place (descriptor : InterfaceDescriptor) : String × String :=
  (descriptor.generatedNamespace, descriptor.name)

/-- The second interface is called like the first with an underscore and some text behind it, and at
one position the method of the first is called like that of the second with the same text and an
underscore before it. -/
def Shadows (first second : InterfaceDescriptor) : Prop :=
  first.generatedNamespace = second.generatedNamespace ∧
    ∃ (between : String) (position : Nat) (method other : MethodDescriptor),
      first.methods[position]? = some method ∧ second.methods[position]? = some other ∧
        second.name = first.name ++ "_" ++ between ∧
        method.name = between ++ "_" ++ other.name

theorem Shadows.length_lt (hshadows : first.Shadows second) :
    first.name.length < second.name.length := by
  obtain ⟨-, between, _, _, _, -, -, hname, -⟩ := hshadows
  rw [hname, String.length_append, String.length_append]
  exact Nat.lt_add_right _ (Nat.lt_succ_self _)

/-! ### Names of two interfaces -/

theorem mem_qualifiedNames {name : String} :
    name ∈ descriptor.invokers.map InvokerDescriptor.qualifiedName ↔
      ∃ position method, descriptor.methods[position]? = some method ∧
        name = descriptor.generatedNamespace ++ "." ++ descriptor.invokerName method position := by
  rw [List.mem_map]
  constructor
  · rintro ⟨_, hinvoker, rfl⟩
    obtain ⟨position, method, hmethod, rfl⟩ := descriptor.mem_invokers.mp hinvoker
    exact ⟨position, method, hmethod, rfl⟩
  · rintro ⟨position, method, hmethod, rfl⟩
    exact ⟨_, descriptor.mem_invokers.mpr ⟨position, method, hmethod, rfl⟩, rfl⟩

theorem Shadows.not_disjoint (hshadows : first.Shadows second) :
    ¬(first.invokers.map InvokerDescriptor.qualifiedName).Disjoint
      (second.invokers.map InvokerDescriptor.qualifiedName) := by
  obtain ⟨hspace, between, position, method, other, hmethod, hother, hname, hlonger⟩ := hshadows
  have hsame : first.invokerName method position = second.invokerName other position :=
    invokerName_eq_iff.mpr
      ⟨Text.underscored_eq_iff.mpr (.inr (.inl ⟨between, hname, hlonger⟩)), rfl⟩
  intro hdisjoint
  refine hdisjoint (mem_qualifiedNames.mpr ⟨position, method, hmethod, rfl⟩)
    (mem_qualifiedNames.mpr ⟨position, other, hother, ?_⟩)
  rw [hspace, hsame]

/-- Neither the interface nor a method of it has a dot in its name. -/
structure DotFree (descriptor : InterfaceDescriptor) : Prop where
  name : '.' ∉ descriptor.name.toList
  methods : ∀ method ∈ descriptor.methods, '.' ∉ method.name.toList

theorem DotFree.invokerName (hfree : descriptor.DotFree) {position : Nat}
    {method : MethodDescriptor} (hmethod : descriptor.methods[position]? = some method) :
    '.' ∉ (descriptor.invokerName method position).toList := by
  have hnumber : '.' ∉ '_' :: Nat.toDigits 10 position := by
    intro hdot
    have hcontinue := Identifier.isWordContinue_of_mem_number position '.' hdot
    rw [Identifier.isWordContinue_dot] at hcontinue
    cases hcontinue
  rw [toList_invokerName]
  simp only [List.mem_append, List.mem_cons, not_or] at hnumber ⊢
  exact ⟨⟨by decide, hfree.name, by decide, hfree.methods method (List.mem_of_getElem? hmethod)⟩,
    hnumber⟩

theorem disjoint_qualifiedNames_iff (hfirst : first.DotFree) (hsecond : second.DotFree)
    (hplace : first.place ≠ second.place) :
    (first.invokers.map InvokerDescriptor.qualifiedName).Disjoint
        (second.invokers.map InvokerDescriptor.qualifiedName) ↔
      ¬first.Shadows second ∧ ¬second.Shadows first := by
  constructor
  · intro hdisjoint
    exact ⟨fun hshadows => hshadows.not_disjoint hdisjoint,
      fun hshadows => hshadows.not_disjoint hdisjoint.symm⟩
  · rintro ⟨hforward, hbackward⟩ name hname hagain
    obtain ⟨position, method, hmethod, rfl⟩ := mem_qualifiedNames.mp hname
    obtain ⟨_, other, hother, heq⟩ := mem_qualifiedNames.mp hagain
    obtain ⟨hspace, hsame⟩ :=
      Text.dotted_inj (hfirst.invokerName hmethod) (hsecond.invokerName hother) heq
    obtain ⟨hnames, rfl⟩ := invokerName_eq_iff.mp hsame
    rcases Text.underscored_eq_iff.mp hnames with
      ⟨hnames, -⟩ | ⟨between, hlonger, hmore⟩ | ⟨between, hlonger, hmore⟩
    · exact hplace (Prod.ext hspace hnames)
    · exact hforward ⟨hspace, between, position, method, other, hmethod, hother, hlonger, hmore⟩
    · exact hbackward
        ⟨hspace.symm, between, position, other, method, hother, hmethod, hlonger, hmore⟩

/-! ### Names of many interfaces -/

theorem nodup_qualifiedNames_iff {interfaces : List InterfaceDescriptor}
    (hfree : ∀ descriptor ∈ interfaces, descriptor.DotFree)
    (hplaces : interfaces.Pairwise fun first second => first.place ≠ second.place) :
    ((interfaces.flatMap invokers).map InvokerDescriptor.qualifiedName).Nodup ↔
      ∀ first ∈ interfaces, ∀ second ∈ interfaces, ¬first.Shadows second := by
  rw [List.map_flatMap, List.nodup_flatMap]
  constructor
  · rintro ⟨-, hdisjoint⟩ first hfirst second hsecond hshadows
    have hsymm : Std.Symm (Function.onFun List.Disjoint fun descriptor : InterfaceDescriptor =>
        descriptor.invokers.map InvokerDescriptor.qualifiedName) := ⟨fun _ _ h => h.symm⟩
    have hne : first ≠ second := by
      rintro rfl
      exact Nat.lt_irrefl _ hshadows.length_lt
    exact hshadows.not_disjoint (hdisjoint.forall hfirst hsecond hne)
  · intro hclear
    refine ⟨fun descriptor _ => descriptor.qualifiedNames_nodup, ?_⟩
    apply hplaces.imp_of_mem
    intro first second hfirst hsecond hplace
    exact (disjoint_qualifiedNames_iff (hfree first hfirst) (hfree second hsecond) hplace).mpr
      ⟨hclear first hfirst second hsecond, hclear second hsecond first hfirst⟩

end InterfaceDescriptor

/-! ### Names of a run -/

/-- An interface and its methods have names that can stand in generated code. -/
@[mk_iff]
structure InterfaceItem.LegallyNamed (item : InterfaceItem) : Prop where
  name_isLegal : Identifier.isLegal item.name = true
  methods_areLegal : ∀ method ∈ item.methods, Identifier.isLegal method.name = true

instance (item : InterfaceItem) : Decidable item.LegallyNamed :=
  decidable_of_iff _ (InterfaceItem.legallyNamed_iff item).symm

/-- Where the classes of an interface are to go, whether it is accepted or not. -/
def InterfaceItem.place (program : Program) (runtime : RuntimeTypes) (item : InterfaceItem) :
    Query (String × String) := do
  let scope ← program.scopeName item.type
  return (runtime.generatedNamespace scope, item.name)

/-- No two interfaces of a list have their classes generated in the same place. -/
def PlacedApart (program : Program) (runtime : RuntimeTypes) (items : List InterfaceItem) : Prop :=
  items.Pairwise fun first second =>
    ∀ place, first.place program runtime = .ok place → second.place program runtime ≠ .ok place

section Descriptor

variable {program : Program} {runtime : RuntimeTypes} {item : InterfaceItem}
  {descriptor : InterfaceDescriptor}

theorem InterfaceItem.place_of_descriptor?
    (hdescriptor : item.descriptor? program runtime = some descriptor) :
    item.place program runtime = .ok descriptor.place := by
  obtain ⟨scope, hscope, rfl⟩ := eq_of_descriptor? hdescriptor
  rw [place, hscope]
  rfl

theorem InterfaceItem.LegallyNamed.dotFree (hlegal : item.LegallyNamed)
    (hdescriptor : item.descriptor? program runtime = some descriptor) : descriptor.DotFree := by
  obtain ⟨scope, -, rfl⟩ := eq_of_descriptor? hdescriptor
  refine ⟨Identifier.dot_not_mem_of_isLegal hlegal.name_isLegal, ?_⟩
  intro method hmethod
  exact Identifier.dot_not_mem_of_isLegal (hlegal.methods_areLegal method hmethod)

end Descriptor

theorem pairwise_of_map_some {α β : Type} {f : β → Option α} {R : α → α → Prop}
    {S : β → β → Prop} {as : List α} {bs : List β} (heq : as.map some = bs.map f)
    (hbs : bs.Pairwise S)
    (himp : ∀ b b' a a', f b = some a → f b' = some a' → S b b' → R a a') : as.Pairwise R := by
  have hsome : (as.map some).Pairwise fun x y => ∀ a a', x = some a → y = some a' → R a a' := by
    rw [heq, List.pairwise_map]
    apply hbs.imp
    intro b b' hrel a a' ha ha'
    exact himp b b' a a' ha ha' hrel
  rw [List.pairwise_map] at hsome
  exact hsome.imp fun hrel => hrel _ _ rfl rfl

namespace Pass

variable {program : Program} {config : Config} {pass : Pass} {items : List Item} {report : Report}

/-- Where the interfaces of a run have legal names and places of their own, the invokers of each one
have names of their own, and so have all invokers unless one interface shadows another. It is the
interfaces taken before the run was stopped that count. -/
theorem invoker_names_distinct_iff (hstart : Pass.start program config = .ok pass)
    (hlegal : ∀ item ∈ items.filterMap Item.interface?, item.LegallyNamed)
    (hplaced : PlacedApart program pass.runtime (items.filterMap Item.interface?))
    (token : CancelToken) (hyields : (pass.withToken token).Yields items report) :
    (∀ descriptor : InterfaceDescriptor, descriptor ∈ report.catalog.interfaces →
        (descriptor.invokers.map InvokerDescriptor.qualifiedName).Nodup) ∧
      ((report.catalog.invokers.toList.map InvokerDescriptor.qualifiedName).Nodup ↔
        ∀ first ∈ report.catalog.interfaces, ∀ second ∈ report.catalog.interfaces,
          ¬InterfaceDescriptor.Shadows first second) := by
  obtain ⟨kept, hkept, hcontributions⟩ :=
    contributions_of_run hstart token (yields_iff.mp hyields)
  have hinterfaces := hcontributions.interfaces
  have hsublist := hkept.filterMap Item.interface?
  have hapart : (report.catalog.rows .interfaces).Pairwise fun first second =>
      first.place ≠ second.place := by
    apply pairwise_of_map_some hinterfaces (hplaced.sublist hsublist)
    intro first second descriptor other hfirst hsecond happart heq
    apply happart _ (InterfaceItem.place_of_descriptor? hfirst)
    rw [heq]
    exact InterfaceItem.place_of_descriptor? hsecond
  have hfree : ∀ descriptor ∈ report.catalog.rows .interfaces, descriptor.DotFree := by
    intro descriptor hdescriptor
    have hmem := List.mem_map_of_mem (f := some) hdescriptor
    rw [hinterfaces, List.mem_map] at hmem
    obtain ⟨item, hitem, hdescribed⟩ := hmem
    exact (hlegal item (hsublist.subset hitem)).dotFree hdescribed
  have hnodup := InterfaceDescriptor.nodup_qualifiedNames_iff hfree hapart
  rw [← hcontributions.invokers] at hnodup
  simp only [Catalog.rows, Array.mem_toList_iff] at hnodup
  exact ⟨fun descriptor _ => descriptor.qualifiedNames_nodup, hnodup⟩

end Pass

namespace Hub

theorem legallyNamed_items : ∀ item ∈ items.filterMap Item.interface?, item.LegallyNamed := by
  decide +kernel

theorem placedApart (methods : List MethodDescriptor) :
    PlacedApart program pass.runtime [{ order with methods }, line] := by
  have horder : InterfaceItem.place program pass.runtime { order with methods } =
      .ok ("Generated.Shop.Hub", "IOrder") := rfl
  have hline : line.place program pass.runtime = .ok ("Generated.Shop.Hub", "IOrder_Line") := rfl
  rw [PlacedApart, List.pairwise_pair, horder, hline]
  rintro place ⟨⟩
  decide

end Hub

/-- Legal names in places of their own are not enough: here one interface shadows the other. -/
theorem Pass.invokers_of_hub_share_name :
    Pass.start Hub.program Hub.config = .ok Hub.pass ∧
      (∀ item ∈ Hub.items.filterMap Item.interface?, item.LegallyNamed) ∧
      PlacedApart Hub.program Hub.pass.runtime (Hub.items.filterMap Item.interface?) ∧
      ∃ report, (Hub.pass.withToken .fresh).Yields Hub.items report ∧
        report.catalog.invokers.toList.map InvokerDescriptor.qualifiedName =
          ["Generated.Shop.Hub.Invokable_IOrder_Line_Add_0",
            "Generated.Shop.Hub.Invokable_IOrder_Line_Add_0"] ∧
        ¬(report.catalog.invokers.toList.map InvokerDescriptor.qualifiedName).Nodup := by
  obtain ⟨report, hrun, hrows⟩ := Hub.run_items
  have hnames : report.catalog.invokers.toList.map InvokerDescriptor.qualifiedName =
      ["Generated.Shop.Hub.Invokable_IOrder_Line_Add_0",
        "Generated.Shop.Hub.Invokable_IOrder_Line_Add_0"] := by
    change (report.catalog.rows .invokers).map _ = _
    rw [hrows]
    rfl
  refine ⟨Hub.start_program, Hub.legallyNamed_items, Hub.placedApart _, report, .alone hrun,
    hnames, ?_⟩
  rw [hnames]
  decide

namespace Hub

/-- The first interface has one more method, so that its other method has another position. -/
def spreadItems : List Item :=
  [.interface { order with methods := ⟨⟨3⟩, ⟨3⟩, "Place"⟩ :: order.methods }, .interface line]

def spreadInterfaces : List InterfaceDescriptor := [
  ⟨⟨3⟩, "IOrder", [⟨⟨3⟩, ⟨3⟩, "Place"⟩, ⟨⟨3⟩, ⟨1⟩, "Line_Add"⟩], ⟨2⟩, false, "Generated.Shop.Hub"⟩,
  ⟨⟨4⟩, "IOrder_Line", [⟨⟨4⟩, ⟨2⟩, "Add"⟩], ⟨2⟩, false, "Generated.Shop.Hub"⟩]

theorem not_shadows_spreadInterfaces :
    ∀ first ∈ spreadInterfaces, ∀ second ∈ spreadInterfaces,
      ¬InterfaceDescriptor.Shadows first second := by
  intro first hfirst second hsecond hshadows
  have hlength := hshadows.length_lt
  simp only [spreadInterfaces, List.mem_cons, List.not_mem_nil, or_false] at hfirst hsecond
  rcases hfirst with rfl | rfl
  · rcases hsecond with rfl | rfl
    · exact absurd hlength (by decide)
    · -- The one method of the second interface stands where the first has no underscore.
      obtain ⟨-, between, position, method, other, hmethod, hother, -, hname⟩ := hshadows
      cases position with
      | zero =>
          obtain rfl := Option.some_inj.mp hmethod
          have hplace : "Place" = between ++ "_" ++ other.name := hname
          have hmem : '_' ∈ "Place".toList := by
            rw [hplace, Text.toList_underscored]
            exact List.mem_append_right _ List.mem_cons_self
          exact absurd hmem (by decide)
      | succ position => cases hother
  · rcases hsecond with rfl | rfl
    · exact absurd hlength (by decide)
    · exact absurd hlength (by decide)

end Hub

theorem Pass.invoker_names_distinct_of_hub :
    (∀ item ∈ Hub.spreadItems.filterMap Item.interface?, item.LegallyNamed) ∧
      PlacedApart Hub.program Hub.pass.runtime (Hub.spreadItems.filterMap Item.interface?) ∧
      ∃ report, (Hub.pass.withToken .fresh).Yields Hub.spreadItems report ∧
        report.catalog.interfaces.toList = Hub.spreadInterfaces ∧
        (report.catalog.invokers.toList.map InvokerDescriptor.qualifiedName).Nodup := by
  have hlegal : ∀ item ∈ Hub.spreadItems.filterMap Item.interface?, item.LegallyNamed := by
    decide +kernel
  have hplaced : PlacedApart Hub.program Hub.pass.runtime
      (Hub.spreadItems.filterMap Item.interface?) := Hub.placedApart _
  obtain ⟨report, hrun⟩ : ∃ report, (Hub.pass.withToken .fresh).run Hub.spreadItems =
      .ok report := ⟨_, rfl⟩
  have hinterfaces : report.catalog.interfaces.toList = Hub.spreadInterfaces := by
    have hseparate := separate_of_run Hub.start_program (CancelToken.lasts_fresh _) (by decide +kernel)
      (by decide +kernel) hrun
    change report.catalog.rows .interfaces = _
    rw [hseparate.rows_eq]
    rfl
  refine ⟨hlegal, hplaced, report, .alone hrun, hinterfaces, ?_⟩
  refine (invoker_names_distinct_iff Hub.start_program hlegal hplaced .fresh (.alone hrun)).2.mpr ?_
  simp only [← Array.mem_toList_iff, hinterfaces]
  exact Hub.not_shadows_spreadInterfaces

end TypeMetadata
