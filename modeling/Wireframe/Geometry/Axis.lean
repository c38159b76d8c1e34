/-!
The three axes of space.
-/

namespace Wireframe

inductive Axis where
  | x
  | y
  | z
  deriving DecidableEq

namespace Axis

def others : Axis → Fin 4 × Fin 4
  | x => (1, 2)
  | y => (0, 2)
  | z => (0, 1)

/-- An axis is named by its letter, in either case. -/
def read? (text : List Char) : Option Axis :=
  if text = ['x'] ∨ text = ['X'] then some x
  else if text = ['y'] ∨ text = ['Y'] then some y
  else if text = ['z'] ∨ text = ['Z'] then some z
  else none

end Axis

end Wireframe
