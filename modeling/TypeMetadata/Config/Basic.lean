/-!
The settings of a generation run.
-/

namespace TypeMetadata

structure RuntimeNames where
  completionSource : String
  invokable : String
deriving DecidableEq

structure Config where
  namespaceRoot : String
  /-- The name of the entry point that a proxy base must declare. -/
  dispatchMethod : String
  runtimeNames : RuntimeNames
  /-- The application parts that the catalog holds from the start. -/
  applicationParts : List String
  /-- The number of workers that extract side by side; zero asks for one per core. -/
  parallelism : UInt64
deriving DecidableEq

def RuntimeNames.default : RuntimeNames where
  completionSource := "Rivet.Invocation.IResponseCompletionSource"
  invokable := "Rivet.Invocation.IInvokable"

def Config.default : Config where
  namespaceRoot := "RivetGenerated"
  dispatchMethod := "SendRequest"
  runtimeNames := .default
  applicationParts := []
  parallelism := 0

end TypeMetadata
