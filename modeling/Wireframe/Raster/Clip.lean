import Wireframe.Binary.Integer
import Wireframe.Raster.Segment

/-!
Clipping of a segment to a rectangle. One endpoint that lies outside is moved onto a
border at a time, until both lie inside or both lie beyond the same border. The rule is
the same over every kind of number; canvases use double precision.
-/

namespace Wireframe

/-- Numbers with a nearest integer, a half going away from zero. -/
class NearestInteger (α : Type) where
  nearestInteger : α → Int

instance {f : Binary.Format} : NearestInteger (Binary f) := ⟨Binary.nearestInteger⟩

structure Frame (α : Type) where
  right : α
  top : α

inductive Side where
  | below
  | inside
  | above
  deriving DecidableEq

structure Outcode where
  x : Side
  y : Side
  deriving DecidableEq

def Outcode.inside : Outcode := ⟨.inside, .inside⟩

def Outcode.shareBorder (a b : Outcode) : Bool :=
  (a.x = b.x && a.x ≠ .inside) || (a.y = b.y && a.y ≠ .inside)

variable {α : Type} [Add α] [Sub α] [Mul α] [Div α] [LT α] [DecidableLT α] [IntCast α]

def Side.of (high value : α) : Side :=
  if value < ((0 : Int) : α) then .below
  else if high < value then .above
  else .inside

def Frame.outcode (frame : Frame α) (p : Point α) : Outcode :=
  ⟨Side.of frame.right p.x, Side.of frame.top p.y⟩

namespace Segment

def atHeight (s : Segment α) (y : α) : Point α :=
  ⟨s.start.x + (s.finish.x - s.start.x) * (y - s.start.y) / (s.finish.y - s.start.y), y⟩

def atAbscissa (s : Segment α) (x : α) : Point α :=
  ⟨x, s.start.y + (s.finish.y - s.start.y) * (x - s.start.x) / (s.finish.x - s.start.x)⟩

/-- Where a segment crosses the border that an endpoint with `code` lies beyond; top and
bottom are looked at before right and left. -/
def crossing (frame : Frame α) (s : Segment α) (code : Outcode) : Point α :=
  match code.y with
  | .above => s.atHeight frame.top
  | .below => s.atHeight ((0 : Int) : α)
  | .inside =>
      match code.x with
      | .above => s.atAbscissa frame.right
      | _ => s.atAbscissa ((0 : Int) : α)

/-- Moves endpoints onto borders, the start before the finish, for at
most `passes` passes. -/
def clipWithin (frame : Frame α) : (passes : Nat) → Segment α → Option (Segment α)
  | 0, _ => none
  | passes + 1, s =>
      let code := frame.outcode s.start
      let finishCode := frame.outcode s.finish
      if code = .inside ∧ finishCode = .inside then
        some s
      else if code.shareBorder finishCode then
        none
      else if code ≠ .inside then
        clipWithin frame passes ⟨s.crossing frame code, s.finish⟩
      else
        clipWithin frame passes ⟨s.start, s.crossing frame finishCode⟩

/-- Four borders at either end make eight passes enough. -/
def clipPasses : Nat := 8

def nearestWithin [NearestInteger α] (frame : Frame Int) (p : Point α) : Point Int :=
  ⟨max 0 (min frame.right (NearestInteger.nearestInteger p.x)),
    max 0 (min frame.top (NearestInteger.nearestInteger p.y))⟩

variable (α) in
/-- The part of a segment on a grid of `width` by `height` pixels, computed
with numbers of type `α`. -/
def clip [NearestInteger α] (width height : Nat) (s : Segment Int) :
    Option (Segment Int) :=
  if width = 0 ∨ height = 0 then
    none
  else
    let frame : Frame Int := ⟨width - 1, height - 1⟩
    ((s.map (Point.map (Int.cast : Int → α))).clipWithin
      ⟨Int.cast frame.right, Int.cast frame.top⟩ clipPasses).map (Segment.map (nearestWithin frame))

end Segment

end Wireframe
