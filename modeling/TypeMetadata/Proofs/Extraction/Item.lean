import TypeMetadata.Extraction.Item
import TypeMetadata.Proofs.Descriptor.Hooks
import TypeMetadata.Proofs.Dispatch.EntryPoint

/-!
What becomes of one item, kind by kind.
-/

namespace TypeMetadata

variable {program : Program} {runtime : RuntimeTypes}
  {extracted : Except DescriptorError Outcome}

theorem InterfaceDescriptor.build_eq_ok {ty proxyBase : TypeHandle} {name : String}
    {methods : List MethodDescriptor} {isExtension : Bool}
    {answer : Except DescriptorError InterfaceDescriptor}
    (hbuild : build program runtime ty name methods proxyBase isExtension = .ok answer) :
    (∃ error, program.checkProxyBase runtime proxyBase = .ok (.error error) ∧
        answer = .error (.contract error)) ∨
      ∃ scope, program.checkProxyBase runtime proxyBase = .ok (.ok ()) ∧
        program.scopeName ty = .ok scope ∧
        answer = .ok ⟨ty, name, methods, proxyBase, isExtension,
          runtime.generatedNamespace scope⟩ := by
  simp only [build, bind_eq_ok] at hbuild
  obtain ⟨checked, hchecked, hanswer⟩ := hbuild
  rcases checked with error | _
  · rw [pure_eq_ok] at hanswer
    exact .inl ⟨error, hchecked, hanswer.symm⟩
  · simp only [bind_eq_ok, pure_eq_ok] at hanswer
    obtain ⟨scope, hscope, hanswer⟩ := hanswer
    exact .inr ⟨scope, hchecked, hscope, hanswer.symm⟩

namespace Item

theorem extract_type {item : TypeItem}
    (hextract : (Item.type item).extract program runtime = .ok extracted) :
    (program.HasMalformedHook item.type ∧ ∃ error, extracted = .error error) ∨
      (¬program.HasMalformedHook item.type ∧
        ∃ descriptor decl, TypeDescriptor.build program runtime item.type item.members =
            .ok (.ok descriptor) ∧
          program.decl item.type = .ok decl ∧ descriptor.type = item.type ∧
          extracted = .ok (.type descriptor item (.ofDecl decl))) := by
  simp only [extract, bind_eq_ok] at hextract
  obtain ⟨built, hbuilt, hextracted⟩ := hextract
  have herror := TypeDescriptor.build_eq_error_iff hbuilt
  rcases built with error | descriptor
  · rw [pure_eq_ok] at hextracted
    exact .inl ⟨herror.mp ⟨error, rfl⟩, error, hextracted.symm⟩
  · simp only [bind_eq_ok, pure_eq_ok] at hextracted
    obtain ⟨decl, hdecl, hextracted⟩ := hextracted
    exact .inr ⟨fun hbad => by simpa using herror.mpr hbad, descriptor, decl, hbuilt, hdecl,
      TypeDescriptor.type_of_build hbuilt, hextracted.symm⟩

theorem extract_interface {item : InterfaceItem}
    (hextract : (Item.interface item).extract program runtime = .ok extracted) :
    (¬program.HasEntryPoint runtime item.proxyBase ∧
        ∃ error, program.checkProxyBase runtime item.proxyBase = .ok (.error error) ∧
          extracted = .error (.contract error)) ∨
      (program.HasEntryPoint runtime item.proxyBase ∧
        ∃ scope, program.checkProxyBase runtime item.proxyBase = .ok (.ok ()) ∧
          program.scopeName item.type = .ok scope ∧
          extracted = .ok (.interface ⟨item.type, item.name, item.methods, item.proxyBase,
            item.isExtension, runtime.generatedNamespace scope⟩)) := by
  simp only [extract, bind_eq_ok, pure_eq_ok] at hextract
  obtain ⟨built, hbuilt, rfl⟩ := hextract
  rcases InterfaceDescriptor.build_eq_ok hbuilt with
    ⟨error, hcheck, rfl⟩ | ⟨scope, hcheck, hscope, rfl⟩
  · refine .inl ⟨fun hentry => ?_, error, hcheck, rfl⟩
    simpa using (Program.checkProxyBase_eq_ok_iff hcheck).mpr hentry
  · exact .inr ⟨(Program.checkProxyBase_eq_ok_iff hcheck).mp rfl, scope, hcheck, hscope, rfl⟩

theorem extract_provider {ty : TypeHandle}
    (hextract : (Item.provider ty).extract program runtime = .ok extracted) :
    ∃ decl, program.decl ty = .ok decl ∧ extracted = .ok (.provider ty (.ofDecl decl)) := by
  simp only [extract, bind_eq_ok, pure_eq_ok] at hextract
  obtain ⟨decl, hdecl, hextracted⟩ := hextract
  exact ⟨decl, hdecl, hextracted.symm⟩

/-- An item that cannot have a descriptor. -/
def IsMalformed (program : Program) (runtime : RuntimeTypes) : Item → Prop
  | .type item => program.HasMalformedHook item.type
  | .interface item => ¬program.HasEntryPoint runtime item.proxyBase
  | .provider _ => False

theorem extract_eq_error_iff {item : Item}
    (hextract : item.extract program runtime = .ok extracted) :
    (∃ error, extracted = .error error) ↔ item.IsMalformed program runtime := by
  cases item with
  | type item =>
      rcases extract_type hextract with ⟨hbad, herror⟩ | ⟨hgood, _, _, -, -, -, rfl⟩
      · exact ⟨fun _ => hbad, fun _ => herror⟩
      · simpa [IsMalformed] using hgood
  | interface item =>
      rcases extract_interface hextract with ⟨hbad, error, -, rfl⟩ | ⟨hgood, _, -, -, rfl⟩
      · exact ⟨fun _ => hbad, fun _ => ⟨_, rfl⟩⟩
      · simpa [IsMalformed] using hgood
  | provider ty =>
      obtain ⟨decl, -, rfl⟩ := extract_provider hextract
      simp [IsMalformed]

/-- An item with a descriptor goes to the catalog as it was found. -/
theorem extract_cases {item : Item} {outcome : Outcome}
    (hextract : item.extract program runtime = .ok (.ok outcome)) :
    (∃ own descriptor providers, item = .type own ∧ descriptor.type = own.type ∧
        outcome = .type descriptor own providers) ∨
      (∃ own descriptor, item = .interface own ∧ descriptor.methods = own.methods ∧
        program.checkProxyBase runtime descriptor.proxyBase = .ok (.ok ()) ∧
        outcome = .interface descriptor) ∨
      ∃ ty providers, item = .provider ty ∧ outcome = .provider ty providers := by
  cases item with
  | type own =>
      rcases extract_type hextract with ⟨-, _, heq⟩ | ⟨-, descriptor, _, -, -, htype, heq⟩
      · cases heq
      · exact .inl ⟨own, descriptor, _, rfl, htype, Except.ok.inj heq⟩
  | interface own =>
      rcases extract_interface hextract with ⟨-, _, -, heq⟩ | ⟨-, _, hcheck, -, heq⟩
      · cases heq
      · refine .inr (.inl ⟨own, _, rfl, ?_, ?_, Except.ok.inj heq⟩)
        · rfl
        · exact hcheck
  | provider ty =>
      obtain ⟨_, -, heq⟩ := extract_provider hextract
      exact .inr (.inr ⟨ty, _, rfl, Except.ok.inj heq⟩)

end Item

end TypeMetadata
