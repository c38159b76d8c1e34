import Wireframe.Raster.Segment

/-!
The pixels of a line between two grid points. A line takes one step along its longer side
at a time and keeps the distance to the ideal line as an integer.
-/

namespace Wireframe

namespace Raster

/--
The steps taken along the shorter side at `count` successive pixels, when `error` and
`offset` hold at the first of them. The line rises by `minor` for every `major` pixels.
-/
def offsets (major minor : Int) : (count : Nat) → (error offset : Int) → List Int
  | 0, _, _ => []
  | count + 1, error, offset =>
      offset ::
        if 0 < error then
          offsets major minor count (error - 2 * major + 2 * minor) (offset + 1)
        else
          offsets major minor count (error + 2 * minor) offset

/-- The steps along the shorter side of a line with `major + 1` pixels. -/
def minorSteps (major minor : Nat) : List Int :=
  offsets major minor (major + 1) (2 * minor - major) 0

end Raster

namespace Segment

def rightward (s : Segment Int) : Segment Int :=
  if s.finish.x < s.start.x then s.reverse else s

def rightwardPixels (s : Segment Int) : List (Point Int) :=
  let dx := (s.finish.x - s.start.x).toNat
  let dy := (s.finish.y - s.start.y).natAbs
  let direction : Int := if s.finish.y < s.start.y then -1 else 1
  if dy ≤ dx then
    (Raster.minorSteps dx dy).mapIdx fun i step =>
      ⟨s.start.x + i, s.start.y + direction * step⟩
  else
    (Raster.minorSteps dy dx).mapIdx fun i step =>
      ⟨s.start.x + step, s.start.y + direction * i⟩

def pixels (s : Segment Int) : List (Point Int) :=
  s.rightward.rightwardPixels

end Segment

end Wireframe
