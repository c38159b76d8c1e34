import Wireframe.Canvas
import Wireframe.Script.Command

/-!
The state that the commands of a script build up, and the picture it gives.
-/

namespace Wireframe

/-- The edges drawn so far and the transformation that the next
`apply` puts them through. -/
structure Scene where
  edges : EdgeList
  transform : Matrix Single
  deriving DecidableEq

namespace Scene

def empty : Scene := ⟨#[], .identity⟩

def paper : Color := ⟨255, 255, 255⟩

def ink : Color := ⟨0, 0, 255⟩

/-- A new transformation acts after those already gathered. -/
def addTransform (scene : Scene) (m : Matrix Single) : Scene :=
  { scene with transform := scene.transform.andThen m }

def update (scene : Scene) : Command → Scene
  | .line start finish => { scene with edges := scene.edges.addEdge start finish }
  | .ident => { scene with transform := .identity }
  | .scale factors => scene.addTransform (.dilation factors)
  | .move offset => scene.addTransform (.displacement offset)
  | .rotate axis degrees => scene.addTransform (.rotation axis degrees)
  | .apply => { scene with edges := scene.edges.transform scene.transform }
  | .display => scene
  | .save _ => scene

/-- Edges in ink on a sheet of five hundred by five hundred pixels. -/
def render (scene : Scene) : Canvas :=
  (Canvas.new 500 500 255 paper).drawEdges scene.edges ink

@[simp] theorem update_display (scene : Scene) : scene.update .display = scene := rfl

@[simp] theorem update_save (scene : Scene) (path : String) :
    scene.update (.save path) = scene := rfl

end Scene

end Wireframe
