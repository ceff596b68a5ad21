/-!
Texts put one after another with a separator between neighbours.
-/

namespace TypeMetadata.Text

/-- The parts in order, with the separator between each two neighbours. -/
def joined (separator : String) : List String → String
  | [] => ""
  | [part] => part
  | part :: next :: parts => part ++ separator ++ joined separator (next :: parts)

end TypeMetadata.Text
