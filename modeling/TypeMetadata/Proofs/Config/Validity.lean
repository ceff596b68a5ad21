import TypeMetadata.Config.Validity
import TypeMetadata.Proofs.Identifier.Grammar
import TypeMetadata.Proofs.Program.Query

/-!
Which settings are accepted, said by the grammar of identifiers, and which complaint is made about
the others: the first setting that is not sound decides it.
-/

namespace TypeMetadata

open Identifier (IsIdent IsPath)

/-- What a complaint can be about. -/
inductive Setting
  | name (setting : NameSetting)
  | applicationParts

/-- All settings that are checked, in the order of the checks. -/
def Setting.all : List Setting := [
  .name .namespaceRoot, .name .dispatchMethod, .name .completionSource, .name .invokable,
  .applicationParts]

/-! ### Messages -/

theorem NameSetting.key_injective : Function.Injective key := by
  intro setting other
  cases setting <;> cases other <;> decide

theorem NameSetting.blank_not_mem_key (setting : NameSetting) : ' ' ∉ setting.key.toList := by
  cases setting <;> decide

theorem ConfigProblem.last_of_message (problem : ConfigProblem) :
    problem.message.toList.reverse.head? = some (match problem with
      | .emptyName _ => 'y'
      | .notDotted _ _ | .qualifiedDispatchMethod _ => 'r'
      | .emptyPart => 's') := by
  cases problem <;> simp [message, toString]

theorem ConfigProblem.message_notDotted_ne {setting : NameSetting} {value other : String} :
    (notDotted setting value).message ≠ (qualifiedDispatchMethod other).message := by
  intro heq
  -- The two end alike but for the letter before the last word.
  have hend := congrArg (fun text => text.toList.reverse.take 12) heq
  simp [message, toString] at hend

/-- Messages of different sorts end differently, and those of one sort tell what they are about. -/
theorem ConfigProblem.message_injective : Function.Injective message := by
  intro problem other heq
  have hlast := congrArg (fun text => text.toList.reverse.head?) heq
  simp only [last_of_message, Option.some.injEq] at hlast
  cases problem <;> cases other
  case emptyName.emptyName setting another =>
    have hkey := (String.append_left_inj _).mp heq
    rw [NameSetting.key_injective hkey]
  case notDotted.notDotted setting value another text =>
    have hchars : setting.key.toList ++ ' ' :: '\'' :: value.toList =
        another.key.toList ++ ' ' :: '\'' :: text.toList := by
      simpa [toString] using congrArg String.toList ((String.append_left_inj _).mp heq)
    obtain ⟨hkey, hvalue⟩ :=
      Text.append_cons_inj_of_first setting.blank_not_mem_key another.blank_not_mem_key hchars
    rw [List.cons.injEq, String.toList_inj] at hvalue
    rw [NameSetting.key_injective (String.toList_inj.mp hkey), hvalue.2]
  case notDotted.qualifiedDispatchMethod => exact absurd heq message_notDotted_ne
  case qualifiedDispatchMethod.notDotted => exact absurd heq.symm message_notDotted_ne
  case qualifiedDispatchMethod.qualifiedDispatchMethod value text =>
    have hvalue : value = text :=
      (String.append_right_inj _).mp ((String.append_left_inj _).mp heq)
    rw [hvalue]
  case emptyPart.emptyPart => rfl
  all_goals simp at hlast

namespace Config

variable {config : Config}

def IsSound (config : Config) : Setting → Prop
  | .name .dispatchMethod => IsIdent config.dispatchMethod.toList
  | .name setting => IsPath (setting.value config).toList
  | .applicationParts => ∀ part ∈ config.applicationParts, part ≠ ""

/-- What is said of a setting that is not sound. -/
inductive Complains (config : Config) : Setting → String → Prop
  | empty {setting : NameSetting} (hvalue : setting.value config = "") :
      Complains config (.name setting) s!"{setting.key} is empty"
  | notPath {setting : NameSetting} (hsome : setting.value config ≠ "")
      (hpath : ¬IsPath (setting.value config).toList) :
      Complains config (.name setting)
        s!"{setting.key} '{setting.value config}' is not a valid dotted identifier"
  | severalSegments (hpath : IsPath config.dispatchMethod.toList)
      (hident : ¬IsIdent config.dispatchMethod.toList) :
      Complains config (.name .dispatchMethod)
        s!"{NameSetting.dispatchMethod.key} '{config.dispatchMethod}' must be a single identifier"
  | emptyPart (hpart : "" ∈ config.applicationParts) :
      Complains config .applicationParts "application-parts must not contain empty names"

/-! ### One check -/

/-- The check of one setting. -/
def check (config : Config) : Setting → Except ConfigProblem Unit
  | .name .dispatchMethod => do
    config.checkName .dispatchMethod
    if config.dispatchMethod.toList.contains '.' then
      throw (.qualifiedDispatchMethod config.dispatchMethod)
  | .name setting => config.checkName setting
  | .applicationParts => do
    if config.applicationParts.contains "" then
      throw .emptyPart

theorem validate_eq_mapM (config : Config) :
    config.validate = (Setting.all.mapM config.check).map fun _ => () := by
  simp only [validate, Setting.all, List.mapM_cons, List.mapM_nil, check]
  generalize config.checkName .namespaceRoot = namespaceRoot
  generalize config.checkName .dispatchMethod = dispatchMethod
  generalize config.dispatchMethod.toList.contains '.' = isQualified
  generalize config.checkName .completionSource = completionSource
  generalize config.checkName .invokable = invokable
  generalize config.applicationParts.contains "" = hasEmptyPart
  cases namespaceRoot <;> cases dispatchMethod <;> cases isQualified <;> cases completionSource <;>
    cases invokable <;> cases hasEmptyPart <;> rfl

theorem checkName_cases (config : Config) (setting : NameSetting) :
    (setting.value config = "" ∧ config.checkName setting = .error (.emptyName setting)) ∨
      (setting.value config ≠ "" ∧ ¬IsPath (setting.value config).toList ∧
        config.checkName setting = .error (.notDotted setting (setting.value config))) ∨
      (IsPath (setting.value config).toList ∧ config.checkName setting = .ok ()) := by
  rw [checkName]
  by_cases hempty : setting.value config = ""
  · exact .inl ⟨hempty, if_pos (String.isEmpty_iff.mpr hempty)⟩
  · rw [if_neg (mt String.isEmpty_iff.mp hempty), ← Identifier.isDotted_iff]
    by_cases hdotted : Identifier.isDotted (setting.value config) = true
    · exact .inr (.inr ⟨hdotted, if_pos hdotted⟩)
    · exact .inr (.inl ⟨hempty, hdotted, if_neg hdotted⟩)

theorem checkName_eq_ok_iff {setting : NameSetting} :
    config.checkName setting = .ok () ↔ IsPath (setting.value config).toList := by
  rcases config.checkName_cases setting with ⟨hempty, hcheck⟩ | ⟨-, hpath, hcheck⟩ | ⟨hpath, hcheck⟩
  · simp [hcheck, hempty, Identifier.not_isPath_nil]
  · simp [hcheck, hpath]
  · simp [hcheck, hpath]

theorem check_dispatchMethod_eq_ok_iff :
    config.check (.name .dispatchMethod) = .ok () ↔ IsIdent config.dispatchMethod.toList := by
  have hvalue : NameSetting.dispatchMethod.value config = config.dispatchMethod := rfl
  rw [check, bind_eq_ok]
  constructor
  · rintro ⟨_, hname, hdot⟩
    rw [checkName_eq_ok_iff, hvalue] at hname
    rw [hname.isIdent_iff]
    intro hmem
    rw [if_pos (List.contains_iff_mem.mpr hmem)] at hdot
    cases hdot
  · intro hident
    have hpath : IsPath config.dispatchMethod.toList := .ident hident
    refine ⟨(), checkName_eq_ok_iff.mpr hpath, ?_⟩
    rw [if_neg (mt List.contains_iff_mem.mp (hpath.isIdent_iff.mp hident))]
    rfl

theorem check_applicationParts_eq_ok_iff :
    config.check .applicationParts = .ok () ↔ ∀ part ∈ config.applicationParts, part ≠ "" := by
  rw [check]
  split
  · rename_i hpart
    constructor
    · intro hthrow
      cases hthrow
    · intro hparts
      exact absurd rfl (hparts "" (List.contains_iff_mem.mp hpart))
  · rename_i hpart
    constructor
    · rintro - part hmem rfl
      exact hpart (List.contains_iff_mem.mpr hmem)
    · intro _
      rfl

theorem check_eq_ok_iff {setting : Setting} :
    config.check setting = .ok () ↔ config.IsSound setting := by
  cases setting with
  | applicationParts => exact check_applicationParts_eq_ok_iff
  | name setting =>
      cases setting with
      | dispatchMethod => exact check_dispatchMethod_eq_ok_iff
      | _ => exact checkName_eq_ok_iff

theorem complains_of_checkName {setting : NameSetting} {problem : ConfigProblem}
    (hcheck : config.checkName setting = .error problem) :
    config.Complains (.name setting) problem.message := by
  rcases config.checkName_cases setting with ⟨hempty, heq⟩ | ⟨hsome, hpath, heq⟩ | ⟨-, heq⟩
  · rw [hcheck, Except.error.injEq] at heq
    rw [heq]
    exact .empty hempty
  · rw [hcheck, Except.error.injEq] at heq
    rw [heq]
    exact .notPath hsome hpath
  · rw [hcheck] at heq
    cases heq

theorem complains_of_check {setting : Setting} {problem : ConfigProblem}
    (hcheck : config.check setting = .error problem) :
    config.Complains setting problem.message := by
  cases setting with
  | applicationParts =>
      rw [check] at hcheck
      split at hcheck
      · rename_i hpart
        cases hcheck
        exact .emptyPart (List.contains_iff_mem.mp hpart)
      · cases hcheck
  | name setting =>
      cases setting with
      | dispatchMethod =>
          rw [check, bind_eq_error] at hcheck
          rcases hcheck with hname | ⟨_, hname, hdot⟩
          · exact complains_of_checkName hname
          · have hpath : IsPath config.dispatchMethod.toList := checkName_eq_ok_iff.mp hname
            split at hdot
            · rename_i hmem
              cases hdot
              refine .severalSegments hpath ?_
              rw [hpath.isIdent_iff, not_not]
              exact List.contains_iff_mem.mp hmem
            · cases hdot
      | _ => exact complains_of_checkName hcheck

theorem IsSound.isPath {setting : NameSetting} (hsound : config.IsSound (.name setting)) :
    IsPath (setting.value config).toList := by
  cases setting with
  | dispatchMethod => exact .ident hsound
  | _ => exact hsound

theorem Complains.not_isSound {setting : Setting} {text : String}
    (hcomplains : config.Complains setting text) : ¬config.IsSound setting := by
  cases hcomplains with
  | empty hvalue => exact fun hsound => hsound.isPath.ne_empty hvalue
  | notPath _ hpath => exact fun hsound => hpath hsound.isPath
  | severalSegments _ hident => exact hident
  | emptyPart hpart => exact fun hsound => hsound "" hpart rfl

theorem Complains.unique {setting : Setting} {text other : String}
    (hcomplains : config.Complains setting text) (hother : config.Complains setting other) :
    text = other := by
  cases hcomplains with
  | empty hvalue =>
      cases hother with
      | empty => rfl
      | notPath hsome => exact absurd hvalue hsome
      | severalSegments hpath => exact absurd hvalue hpath.ne_empty
  | notPath hsome hpath =>
      cases hother with
      | empty hvalue => exact absurd hvalue hsome
      | notPath => rfl
      | severalSegments hother => exact absurd hother hpath
  | severalSegments hpath hident =>
      cases hother with
      | empty hvalue => exact absurd hvalue hpath.ne_empty
      | notPath _ hother => exact absurd hpath hother
      | severalSegments => rfl
  | emptyPart =>
      cases hother
      rfl

theorem exists_check_eq_error_iff {setting : Setting} {text : String} :
    (∃ problem, config.check setting = .error problem ∧ problem.message = text) ↔
      config.Complains setting text := by
  constructor
  · rintro ⟨problem, hcheck, rfl⟩
    exact complains_of_check hcheck
  · intro hcomplains
    cases hcheck : config.check setting with
    | ok => exact absurd (check_eq_ok_iff.mp hcheck) hcomplains.not_isSound
    | error problem => exact ⟨problem, rfl, (complains_of_check hcheck).unique hcomplains⟩

/-! ### All checks -/

theorem answered_check_iff {setting : Setting} :
    Answered (config.check setting) ↔ config.IsSound setting := by
  rw [← check_eq_ok_iff]
  exact ⟨fun ⟨_, hok⟩ => hok, fun hok => ⟨(), hok⟩⟩

theorem validate_eq_ok_iff :
    config.validate = .ok () ↔ ∀ setting ∈ Setting.all, config.IsSound setting := by
  simp only [← answered_check_iff, ← answered_mapM_iff, validate_eq_mapM]
  cases Setting.all.mapM config.check <;> simp [Answered, Except.map]

theorem validate_eq_error_iff {problem : ConfigProblem} :
    config.validate = .error problem ↔ ∃ before setting after,
      Setting.all = before ++ setting :: after ∧ (∀ earlier ∈ before, config.IsSound earlier) ∧
        config.check setting = .error problem := by
  simp only [← answered_check_iff, ← mapM_eq_error, validate_eq_mapM]
  cases Setting.all.mapM config.check <;> simp [Except.map]

/-- Settings are accepted if the grammar has their names and no application part is empty. Otherwise
the first setting that breaks its rule is complained about, each breach in words of its own. -/
theorem validate_follows_grammar (config : Config) :
    (config.validate = .ok () ↔
      IsPath config.namespaceRoot.toList ∧ IsIdent config.dispatchMethod.toList ∧
        IsPath config.runtimeNames.completionSource.toList ∧
        IsPath config.runtimeNames.invokable.toList ∧
        ∀ part ∈ config.applicationParts, part ≠ "") ∧
      (∀ text, (∃ problem, config.validate = .error problem ∧ problem.message = text) ↔
        ∃ before setting after, Setting.all = before ++ setting :: after ∧
          (∀ earlier ∈ before, config.IsSound earlier) ∧ config.Complains setting text) ∧
      Function.Injective ConfigProblem.message := by
  refine ⟨?_, ?_, ConfigProblem.message_injective⟩
  · rw [validate_eq_ok_iff]
    simp only [Setting.all, List.forall_mem_cons, List.not_mem_nil, false_implies, implies_true,
      and_true]
    rfl
  · intro text
    simp only [validate_eq_error_iff, ← exists_check_eq_error_iff]
    constructor
    · rintro ⟨problem, ⟨before, setting, after, hall, hbefore, hcheck⟩, rfl⟩
      exact ⟨before, setting, after, hall, hbefore, problem, hcheck, rfl⟩
    · rintro ⟨before, setting, after, hall, hbefore, problem, hcheck, rfl⟩
      exact ⟨problem, ⟨before, setting, after, hall, hbefore, hcheck⟩, rfl⟩

end Config

end TypeMetadata
