import Wireframe.Text.Quoted

/-!
The layout of values that carry the name of their kind.
-/

namespace Wireframe.Text

def holding (name content : String) : String :=
  name ++ "(" ++ content ++ ")"

/-- A name and, in braces, its fields. -/
def record (name : String) (fields : List (String × String)) : String :=
  let contents := fields.map fun (label, content) => label ++ ": " ++ content
  name ++ " \x7b " ++ ", ".intercalate contents ++ " \x7d"

def quoted (text : String) : String :=
  String.ofList (quote text.toList)

end Wireframe.Text
