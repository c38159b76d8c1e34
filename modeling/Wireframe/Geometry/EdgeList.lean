import Wireframe.Binary.Integer
import Wireframe.Geometry.Matrix
import Wireframe.Raster.Segment

/-!
Edge lists: the endpoints of straight edges, two points to an edge.
-/

namespace Wireframe

abbrev EdgeList := Array (Row Single)

structure GridPoint where
  x : Int
  y : Int
  z : Int
  deriving DecidableEq

def GridPoint.inPlane (p : GridPoint) : Point Int :=
  ⟨p.x, p.y⟩

/-- The coordinate without its fraction, held within sixty-four bits. -/
def gridCoordinate (x : Single) : Int :=
  x.truncateWithin Int64.minValue.toInt Int64.maxValue.toInt

def Row.gridPoint (point : Row Single) : GridPoint :=
  ⟨gridCoordinate point.x, gridCoordinate point.y, gridCoordinate point.z⟩

namespace EdgeList

def addPoint (edges : EdgeList) (point : Triple) : EdgeList :=
  edges.push point.row

def addEdge (edges : EdgeList) (start finish : Triple) : EdgeList :=
  (edges.addPoint start).addPoint finish

def transform (edges : EdgeList) (m : Matrix Single) : EdgeList :=
  edges.map fun point => point.times m

def gridPoints (edges : EdgeList) : Array GridPoint :=
  edges.map Row.gridPoint

/-- Successive pairs; a last point without a partner belongs to no segment. -/
def pairUp : List (Point Int) → List (Segment Int)
  | start :: finish :: others => ⟨start, finish⟩ :: pairUp others
  | _ => []

def segments (edges : EdgeList) : List (Segment Int) :=
  pairUp (edges.gridPoints.toList.map GridPoint.inPlane)

end EdgeList

end Wireframe
