import Wireframe.Geometry.EdgeList
import Wireframe.Image
import Wireframe.Raster.Clip
import Wireframe.Raster.Line

/-!
Canvases: an image with a scale for colours and a background, on which lines
and edge lists are drawn.
-/

namespace Wireframe

structure Color where
  red : UInt64
  green : UInt64
  blue : UInt64
  deriving DecidableEq

namespace Color

/-- The byte for one channel, from zero to `maxColor` and full beyond it. -/
def channelByte (maxColor channel : UInt64) : UInt8 :=
  (min channel maxColor * 255 / max maxColor 1).toUInt8

def toRgb (maxColor : UInt64) (color : Color) : Rgb :=
  ⟨channelByte maxColor color.red, channelByte maxColor color.green,
    channelByte maxColor color.blue⟩

end Color

structure Canvas where
  image : Image
  maxColor : UInt64
  background : Color
  deriving DecidableEq

namespace Canvas

def new (width height : Nat) (maxColor : UInt64) (background : Color) : Canvas :=
  ⟨.filled width height (background.toRgb maxColor), maxColor, background⟩

def rgb (canvas : Canvas) (color : Color) : Rgb :=
  color.toRgb canvas.maxColor

def clear (canvas : Canvas) : Canvas :=
  { canvas with image := canvas.image.fill (canvas.rgb canvas.background) }

/-- What is already drawn keeps its bytes. -/
def setMaxColor (canvas : Canvas) (maxColor : UInt64) : Canvas :=
  { canvas with maxColor := maxColor }

def plot (canvas : Canvas) (p : Point Int) (color : Color) : Canvas :=
  { canvas with image := canvas.image.plot p (canvas.rgb color) }

def clip (canvas : Canvas) (s : Segment Int) : Option (Segment Int) :=
  s.clip Double canvas.image.width canvas.image.height

def linePixels (canvas : Canvas) (s : Segment Int) : List (Point Int) :=
  match canvas.clip s with
  | none => []
  | some clipped => clipped.pixels

def drawLine (canvas : Canvas) (s : Segment Int) (color : Color) : Canvas :=
  { canvas with image := canvas.image.plotAll (canvas.linePixels s) (canvas.rgb color) }

def drawEdges (canvas : Canvas) (edges : EdgeList) (color : Color) : Canvas :=
  edges.segments.foldl (fun canvas s => canvas.drawLine s color) canvas

end Canvas

end Wireframe
