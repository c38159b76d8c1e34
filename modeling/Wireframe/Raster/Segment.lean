/-!
Points and segments of the plane, over any kind of coordinate.
-/

namespace Wireframe

structure Point (α : Type) where
  x : α
  y : α
  deriving DecidableEq

structure Segment (α : Type) where
  start : Point α
  finish : Point α
  deriving DecidableEq

namespace Point

variable {α β : Type}

def map (g : α → β) (p : Point α) : Point β :=
  ⟨g p.x, g p.y⟩

end Point

namespace Segment

variable {α β : Type}

def map (g : Point α → Point β) (s : Segment α) : Segment β :=
  ⟨g s.start, g s.finish⟩

def reverse (s : Segment α) : Segment α :=
  ⟨s.finish, s.start⟩

@[simp] theorem reverse_reverse (s : Segment α) : s.reverse.reverse = s := rfl

end Segment

end Wireframe
