/-!
The release of this library.
-/

namespace TypeMetadata

/-- The release that generated code and reports name. -/
def version : String := "0.4.0"

end TypeMetadata
