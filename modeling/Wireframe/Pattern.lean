import Wireframe.Pattern.Reader
import Wireframe.Pattern.Search
import Wireframe.Pattern.Size

/-!
Patterns that texts are searched for.
-/

namespace Wireframe

structure Pattern where
  expression : Pattern.Expression
  deriving DecidableEq

namespace Pattern

/-- The machine for a pattern has at most so many bytes. -/
def sizeLimit : Nat := 10485760

def ofText (text : String) : Except String Pattern :=
  match Tree.ofText text with
  | .error problem => .error (problem.report text)
  | .ok tree =>
      match tree.expression .initial with
      | .error problem => .error (problem.report text)
      | .ok (expression, _) =>
          if sizeLimit < expression.size then
            .error s!"Compiled regex exceeds size limit of {sizeLimit} bytes."
          else
            .ok ⟨expression⟩

def occursIn (pattern : Pattern) (text : String) : Bool :=
  pattern.expression.occursIn text.toList

end Pattern

end Wireframe
