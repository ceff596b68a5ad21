import Mathlib.Tactic.MkIffOfInductiveProp
import TypeMetadata.Proofs.Config.Validity
import TypeMetadata.Proofs.Descriptor.Description
import TypeMetadata.Proofs.Extraction.Answers
import TypeMetadata.Proofs.Identifier.Dotted
import TypeMetadata.Proofs.Identifier.Spelling
import TypeMetadata.Proofs.Program.NestedNames

/-!
Where generated code goes. Every generated namespace is the configured root or lies below it, and
every generated class has a dotted identifier for its qualified name. The root is one because the
settings were checked, and the scopes of a well-named program are made of such, however deep its
types are nested.
-/

namespace TypeMetadata

/-! ### Names that fit -/

/-- A type name is a word, and a namespace that counts is a dotted identifier. That of a nested type
does not count. -/
@[mk_iff]
structure TypeDecl.WellNamed (decl : TypeDecl) : Prop where
  name_isWord : Identifier.isWord decl.name.toList = true
  namespace_isDotted : decl.container = none → ∀ space ∈ decl.namespaceName,
    Identifier.isDotted space = true

instance (decl : TypeDecl) : Decidable decl.WellNamed :=
  decidable_of_iff _ (TypeDecl.wellNamed_iff decl).symm

def Program.WellNamed (program : Program) : Prop :=
  ∀ ty decl, program.decl ty = .ok decl → decl.WellNamed

/-- The names of an interface and of its methods can go on with a word. They may begin with a
digit, or be empty. -/
@[mk_iff]
structure InterfaceItem.WellNamed (item : InterfaceItem) : Prop where
  name_continues : ∀ c ∈ item.name.toList, Identifier.isWordContinue c = true
  methods_continue : ∀ method ∈ item.methods, ∀ c ∈ method.name.toList,
    Identifier.isWordContinue c = true

instance (item : InterfaceItem) : Decidable item.WellNamed :=
  decidable_of_iff
    (item.name.toList.all Identifier.isWordContinue &&
      item.methods.all (fun method => method.name.toList.all Identifier.isWordContinue))
    (by simp only [InterfaceItem.wellNamed_iff, Bool.and_eq_true, List.all_eq_true])

/-- A dotted identifier that is the root or begins with the root and a dot. -/
structure LiesUnder (root space : String) : Prop where
  isDotted : Identifier.isDotted space = true
  below : space = root ∨ ∃ rest, space = root ++ "." ++ rest

/-- What a row of the catalog must keep to, if it holds a generated namespace or class. -/
def Category.NamedUnder (root : String) : (category : Category) → category.Row → Prop
  | .serializableTypes, descriptor => LiesUnder root descriptor.generatedNamespace
  | .activatableTypes, descriptor => LiesUnder root descriptor.generatedNamespace
  | .interfaces, descriptor => LiesUnder root descriptor.generatedNamespace
  | .proxies, proxy => LiesUnder root proxy.generatedNamespace ∧
    Identifier.isDotted (proxy.generatedNamespace ++ "." ++ proxy.name) = true
  | .invokers, invoker => LiesUnder root invoker.generatedNamespace ∧
    Identifier.isDotted invoker.qualifiedName = true
  | _, _ => True

theorem Config.isDotted_namespaceRoot {config : Config} (hvalid : config.validate = .ok ()) :
    Identifier.isDotted config.namespaceRoot = true :=
  Identifier.isDotted_iff.mpr
    (validate_eq_ok_iff.mp hvalid (.name .namespaceRoot) List.mem_cons_self)

/-! ### Generated namespaces -/

namespace Program.WellNamed

variable {program : Program} {runtime : RuntimeTypes} {ty : TypeHandle}

theorem isDotted_of_standsIn (hnamed : program.WellNamed) {scopes : List String}
    (hscopes : program.StandsIn ty scopes) :
    ∀ scope ∈ scopes, Identifier.isDotted scope = true :=
  hscopes.forall_mem (fun ty decl hdecl => (hnamed ty decl hdecl).namespace_isDotted)
    fun ty decl hdecl => Identifier.isDotted_of_isWord (hnamed ty decl hdecl).name_isWord

theorem liesUnder_generatedNamespace (hnamed : program.WellNamed)
    (hroot : Identifier.isDotted runtime.namespaceRoot = true) {scope : String}
    (hscope : program.scopeName ty = .ok scope) :
    LiesUnder runtime.namespaceRoot (runtime.generatedNamespace scope) := by
  obtain ⟨scopes, hscopes, rfl⟩ := standsIn_of_scopeName hscope
  by_cases hnone : scopes = []
  · rw [hnone]
    exact ⟨hroot, .inl rfl⟩
  · have hjoined : Identifier.isDotted (Text.joined "." scopes) = true :=
      Identifier.isDotted_joined (hnamed.isDotted_of_standsIn hscopes) hnone
    have heq : runtime.generatedNamespace (Text.joined "." scopes) =
        runtime.namespaceRoot ++ "." ++ Text.joined "." scopes :=
      RuntimeTypes.generatedNamespace_of_ne_empty (Identifier.ne_empty_of_isDotted hjoined)
    refine ⟨?_, .inr ⟨_, heq⟩⟩
    rw [heq, Identifier.isDotted_append_dot, hroot, hjoined]
    rfl

end Program.WellNamed

/-! ### Generated classes -/

namespace InterfaceDescriptor

variable {descriptor : InterfaceDescriptor}

theorem isWord_proxy_name
    (hname : ∀ c ∈ descriptor.name.toList, Identifier.isWordContinue c = true) :
    Identifier.isWord descriptor.proxy.name.toList = true := by
  rw [toList_proxy_name]
  exact Identifier.isWord_append (by decide +kernel) hname

theorem isWord_invokerName
    (hname : ∀ c ∈ descriptor.name.toList, Identifier.isWordContinue c = true)
    {method : MethodDescriptor}
    (hmethod : ∀ c ∈ method.name.toList, Identifier.isWordContinue c = true) (position : Nat) :
    Identifier.isWord (descriptor.invokerName method position).toList = true := by
  rw [toList_invokerName, List.append_assoc]
  apply Identifier.isWord_append (by decide +kernel)
  intro c
  rw [List.mem_append, List.mem_append, List.mem_cons]
  rintro ((hc | rfl | hc) | hc)
  · exact hname c hc
  · exact Identifier.isWordContinue_underscore
  · exact hmethod c hc
  · exact Identifier.isWordContinue_of_mem_number position c hc

end InterfaceDescriptor

theorem LiesUnder.isDotted_append {root space name : String} (hspace : LiesUnder root space)
    (hname : Identifier.isWord name.toList = true) :
    Identifier.isDotted (space ++ "." ++ name) = true := by
  rw [Identifier.isDotted_append_dot, hspace.isDotted, Identifier.isDotted_of_isWord hname]
  rfl

/-! ### Items and runs -/

namespace Item

variable {program : Program} {runtime : RuntimeTypes} {outcome : Outcome}

theorem namedUnder_of_type (hnamed : program.WellNamed)
    (hroot : Identifier.isDotted runtime.namespaceRoot = true) {item : TypeItem}
    (hextract : (type item).extract program runtime = .ok (.ok outcome))
    {category : Category} {row : category.Row} (hrow : row ∈ outcome.rows category) :
    category.NamedUnder runtime.namespaceRoot row := by
  rcases extract_type hextract with ⟨-, _, heq⟩ | ⟨-, descriptor, decl, hbuild, -, -, heq⟩
  · cases heq
  · obtain rfl := Except.ok.inj heq
    have hdescribes := TypeDescriptor.describes_of_build hbuild
    have hlies := hnamed.liesUnder_generatedNamespace hroot hdescribes.scopeName
    rw [← hdescribes.generatedNamespace] at hlies
    cases category with
    | serializableTypes =>
        rw [List.mem_singleton.mp hrow]
        exact hlies
    | activatableTypes =>
        simp only [Outcome.rows, List.mem_ite_nil_right, List.mem_singleton] at hrow
        rw [hrow.2]
        exact hlies
    | interfaces | invokers | proxies => cases hrow
    | serializers | activators | copiers | aliases | wellKnownIds => trivial

theorem namedUnder_of_interface (hnamed : program.WellNamed)
    (hroot : Identifier.isDotted runtime.namespaceRoot = true) {item : InterfaceItem}
    (hitem : item.WellNamed)
    (hextract : (interface item).extract program runtime = .ok (.ok outcome))
    {category : Category} {row : category.Row} (hrow : row ∈ outcome.rows category) :
    category.NamedUnder runtime.namespaceRoot row := by
  rcases extract_interface hextract with ⟨-, _, -, heq⟩ | ⟨-, scope, -, hscope, heq⟩
  · cases heq
  · obtain rfl := Except.ok.inj heq
    have hlies := hnamed.liesUnder_generatedNamespace hroot hscope
    cases category with
    | interfaces =>
        rw [List.mem_singleton.mp hrow]
        exact hlies
    | proxies =>
        rw [List.mem_singleton.mp hrow]
        refine ⟨hlies, hlies.isDotted_append ?_⟩
        exact InterfaceDescriptor.isWord_proxy_name hitem.name_continues
    | invokers =>
        obtain ⟨⟨method, position⟩, hmethod, rfl⟩ := List.mem_map.mp hrow
        refine ⟨hlies, hlies.isDotted_append ?_⟩
        apply InterfaceDescriptor.isWord_invokerName hitem.name_continues
        exact hitem.methods_continue method (List.fst_mem_of_mem_zipIdx hmethod)
    | serializableTypes | activatableTypes => cases hrow
    | serializers | activators | copiers | aliases | wellKnownIds => trivial

end Item

namespace Pass

variable {program : Program} {config : Config} {pass : Pass} {items : List Item} {report : Report}

/-- Whatever is generated for a well-named program, wherever its pass is stopped, stands under the
configured root, under names that are dotted identifiers. -/
theorem generated_names_under_root (hstart : Pass.start program config = .ok pass)
    (hnamed : program.WellNamed)
    (hitems : ∀ item, Item.interface item ∈ items → item.WellNamed) (token : CancelToken)
    (hyields : (pass.withToken token).Yields items report) :
    ∀ category, ∀ row ∈ report.catalog.rows category,
      category.NamedUnder config.namespaceRoot row := by
  intro category row hrow
  obtain ⟨item, outcome, hitem, hextract, hrow⟩ :=
    outcome_of_mem_rows hstart token (yields_iff.mp hyields) hrow
  obtain ⟨hvalid, rfl, -, -, hresolve⟩ := start_eq_ok hstart
  have hroot := (RuntimeTypes.resolve_eq_ok_iff.mp hresolve).2.2.1
  have hdotted := Config.isDotted_namespaceRoot hvalid
  rw [← hroot] at hdotted ⊢
  cases item with
  | type own => exact Item.namedUnder_of_type hnamed hdotted hextract hrow
  | interface own =>
      exact Item.namedUnder_of_interface hnamed hdotted (hitems own hitem) hextract hrow
  | provider ty =>
      obtain ⟨decl, -, heq⟩ := Item.extract_provider hextract
      obtain rfl := Except.ok.inj heq
      cases category with
      | serializableTypes | activatableTypes | interfaces | proxies | invokers => cases hrow
      | serializers | activators | copiers | aliases | wellKnownIds => trivial

end Pass

/-! ### Interfaces that stand in a class -/

namespace Hub

/-- A proxy base in a namespace, and two interfaces that stand in it. -/
def history : List Declaration := [
  .type (.ofInterface "Source"),
  .type (.ofInterface "Call"),
  .type ((TypeDecl.ofClass "Hub").inNamespace "Shop"),
  .type ((TypeDecl.ofInterface "IOrder").nestedIn ⟨2⟩),
  .type ((TypeDecl.ofInterface "IOrder_Line").nestedIn ⟨2⟩),
  .member ⟨2⟩ ⟨"Send", .method ⟨[], [⟨0⟩, ⟨1⟩], none⟩⟩,
  .member ⟨3⟩ ⟨"Line_Add", .method ⟨[], [], none⟩⟩,
  .member ⟨4⟩ ⟨"Add", .method ⟨[], [], none⟩⟩,
  .member ⟨3⟩ ⟨"Place", .method ⟨[], [], none⟩⟩]

def program : Program :=
  (Program.empty.declareAll history).toOption.getD .empty

def config : Config := ⟨"Generated", "Send", ⟨"Source", "Call"⟩, [], 2⟩

def pass : Pass := ⟨program, ⟨"Generated", "Send", ⟨0⟩, ⟨1⟩⟩, Catalog.ofParts [], .fresh, 2⟩

def order : InterfaceItem := ⟨⟨3⟩, "IOrder", [⟨⟨3⟩, ⟨1⟩, "Line_Add"⟩], ⟨2⟩, false⟩

def line : InterfaceItem := ⟨⟨4⟩, "IOrder_Line", [⟨⟨4⟩, ⟨2⟩, "Add"⟩], ⟨2⟩, false⟩

def items : List Item := [.interface order, .interface line]

theorem declareAll_history : Program.empty.declareAll history = .ok program :=
  rfl

theorem start_program : Pass.start program config = .ok pass :=
  Pass.start_of_declareAll declareAll_history (by decide) rfl (by decide +kernel)
    (by decide +kernel)

theorem wellNamed_program : program.WellNamed := by
  have htypes : ∀ entry ∈ program.types.toList, entry.decl.WellNamed := by decide +kernel
  intro ty decl hdecl
  obtain ⟨entry, hentry, rfl⟩ := Program.decl_eq_ok.mp hdecl
  rw [Program.entry_eq_ok, ← Array.getElem?_toList] at hentry
  exact htypes entry (List.mem_of_getElem? hentry)

theorem wellNamed_items : ∀ item, Item.interface item ∈ items → item.WellNamed := by
  have hnamed : ∀ item ∈ [order, line], item.WellNamed := by decide +kernel
  intro item hitem
  exact hnamed item (by simpa [items] using hitem)

theorem run_items : ∃ report, (pass.withToken .fresh).run items = .ok report ∧
    ∀ category, report.catalog.rows category =
      (items.filterMap pass.outcome?).flatMap (·.rows category) := by
  obtain ⟨report, hrun⟩ : ∃ report, (pass.withToken .fresh).run items = .ok report := ⟨_, rfl⟩
  have hseparate :=
    Pass.separate_of_run start_program (CancelToken.lasts_fresh _) (by decide +kernel) (by decide +kernel) hrun
  exact ⟨report, hrun, hseparate.rows_eq⟩

end Hub

theorem Pass.generated_names_under_root_of_hub :
    Pass.start Hub.program Hub.config = .ok Hub.pass ∧ Hub.program.WellNamed ∧
      (∀ item, Item.interface item ∈ Hub.items → item.WellNamed) ∧
      ∃ report, (Hub.pass.withToken .fresh).Yields Hub.items report ∧
        (report.catalog.rows .interfaces).map InterfaceDescriptor.generatedNamespace =
          ["Generated.Shop.Hub", "Generated.Shop.Hub"] ∧
        (report.catalog.rows .proxies).map ProxyDescriptor.name =
          ["Proxy_IOrder", "Proxy_IOrder_Line"] ∧
        ∀ category, ∀ row ∈ report.catalog.rows category, category.NamedUnder "Generated" row := by
  obtain ⟨report, hrun, hrows⟩ := Hub.run_items
  refine ⟨Hub.start_program, Hub.wellNamed_program, Hub.wellNamed_items, report, .alone hrun,
    ?_, ?_, ?_⟩
  · rw [hrows]
    rfl
  · rw [hrows]
    rfl
  · exact generated_names_under_root Hub.start_program Hub.wellNamed_program Hub.wellNamed_items
      .fresh (.alone hrun)

end TypeMetadata
