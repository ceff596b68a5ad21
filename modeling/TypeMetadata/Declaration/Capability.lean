import TypeMetadata.Declaration.Handle
import TypeMetadata.Text.Quoted

/-!
Capabilities: the markers that a type declaration carries, each with a list of arguments.
-/

namespace TypeMetadata

/-- A marker on a type declaration. -/
inductive Capability
  | immutable
  | omitDefaultMemberValues
  | readOnly
  | registerActivator
  | registerCopier
  | registerSerializer
  | serializationCallbacks
  | suppressReferenceTracking
  | useActivator
deriving DecidableEq

namespace Capability

def text : Capability → String
  | immutable => "Immutable"
  | omitDefaultMemberValues => "OmitDefaultMemberValues"
  | readOnly => "ReadOnly"
  | registerActivator => "RegisterActivator"
  | registerCopier => "RegisterCopier"
  | registerSerializer => "RegisterSerializer"
  | serializationCallbacks => "SerializationCallbacks"
  | suppressReferenceTracking => "SuppressReferenceTracking"
  | useActivator => "UseActivator"

/-- All markers, in the order of their names. -/
def all : List Capability := [
  immutable, omitDefaultMemberValues, readOnly, registerActivator, registerCopier,
  registerSerializer, serializationCallbacks, suppressReferenceTracking, useActivator]

/-- The markers each of which makes a type immutable on its own. -/
def immutabilityMarkers : List Capability := [immutable, readOnly]

end Capability

inductive AttributeArgument
  | bool (value : Bool)
  | integer (value : Int64)
  | null
  | string (value : String)
  | type (value : TypeHandle)
deriving DecidableEq

/-- An argument as complaints show it: its shape, then its value between parentheses. -/
def AttributeArgument.text : AttributeArgument → String
  | bool true => "Bool(true)"
  | bool false => "Bool(false)"
  | integer value => s!"Integer({value.toInt})"
  | null => "Null"
  | string value => s!"String({Text.quoted value})"
  | type value => s!"Type(TypeHandle({value.index}))"

/-- One application of a marker to a declaration. A marker may be applied more than once. -/
structure CapabilityUse where
  capability : Capability
  arguments : List AttributeArgument
deriving DecidableEq

end TypeMetadata
