/-!
The streams of text of a program.
-/

namespace Wireframe

inductive TextStream where
  | output
  | error
  deriving DecidableEq

class Console (m : Type → Type) where
  write (stream : TextStream) (text : String) : m Unit

end Wireframe
