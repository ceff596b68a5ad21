import TypeMetadata.Config.Basic
import TypeMetadata.Identifier.Dotted

/-!
Which settings a generation run accepts, and what it finds wrong with the others.
-/

namespace TypeMetadata

/-- The settings that must be dotted identifiers. -/
inductive NameSetting
  | namespaceRoot
  | dispatchMethod
  | completionSource
  | invokable
deriving DecidableEq

namespace NameSetting

def key : NameSetting → String
  | namespaceRoot => "namespace-root"
  | dispatchMethod => "dispatch-method"
  | completionSource => "well-known.response-completion-source"
  | invokable => "well-known.invokable"

def value (config : Config) : NameSetting → String
  | namespaceRoot => config.namespaceRoot
  | dispatchMethod => config.dispatchMethod
  | completionSource => config.runtimeNames.completionSource
  | invokable => config.runtimeNames.invokable

end NameSetting

inductive ConfigProblem
  | emptyName (setting : NameSetting)
  /-- A name is not empty and not a dotted identifier either. -/
  | notDotted (setting : NameSetting) (value : String)
  /-- The dispatch method is a dotted identifier of more than one segment. -/
  | qualifiedDispatchMethod (value : String)
  | emptyPart
deriving DecidableEq

def ConfigProblem.message : ConfigProblem → String
  | emptyName setting => s!"{setting.key} is empty"
  | notDotted setting value => s!"{setting.key} '{value}' is not a valid dotted identifier"
  | qualifiedDispatchMethod value =>
    s!"{NameSetting.dispatchMethod.key} '{value}' must be a single identifier"
  | emptyPart => "application-parts must not contain empty names"

namespace Config

def checkName (config : Config) (setting : NameSetting) : Except ConfigProblem Unit :=
  let value := setting.value config
  if value.isEmpty then .error (.emptyName setting)
  else if Identifier.isDotted value then .ok ()
  else .error (.notDotted setting value)

/-- Check all settings, in the order in which they are documented. The first problem counts. -/
def validate (config : Config) : Except ConfigProblem Unit := do
  config.checkName .namespaceRoot
  config.checkName .dispatchMethod
  if config.dispatchMethod.toList.contains '.' then
    throw (.qualifiedDispatchMethod config.dispatchMethod)
  config.checkName .completionSource
  config.checkName .invokable
  if config.applicationParts.contains "" then
    throw .emptyPart

end Config

end TypeMetadata
