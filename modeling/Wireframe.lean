import Wireframe.Main
import Wireframe.World
import Wireframe.Binary.Bits
import Wireframe.Proofs.Script.Grammar
import Wireframe.Proofs.Scene.Meaning
import Wireframe.Proofs.Run.Interleaving
import Wireframe.Proofs.Canvas.Line
import Wireframe.Proofs.Run.Concatenation
import Wireframe.Proofs.Raster.Clipping
import Wireframe.Proofs.Canvas.Paint
import Wireframe.Proofs.Canvas.History
import Wireframe.Proofs.Image.Palette
import Wireframe.Proofs.Scene.Render
import Wireframe.Proofs.Run.Watched
import Wireframe.Proofs.Run.Calls
import Wireframe.Proofs.Binary.Order
import Wireframe.Proofs.Raster.Ends
import Wireframe.Proofs.Binary.Value
import Wireframe.Proofs.Binary.Zero
import Wireframe.Proofs.Raster.Straight
import Wireframe.Proofs.Canvas.Straight
import Wireframe.Proofs.Binary.Interpolate
import Wireframe.Proofs.Raster.Direction
import Wireframe.Proofs.Canvas.Direction
import Wireframe.Proofs.Scene.Direction
import Wireframe.Proofs.Script.Blocks
import Wireframe.Proofs.Run.Diagnosis
import Wireframe.Proofs.Numeral.Spelling
import Wireframe.Proofs.Script.Language
import Wireframe.Proofs.Script.Classes
import Wireframe.Proofs.Run.SavedPaths
import Wireframe.Proofs.Binary.Nearest
import Wireframe.Proofs.Numeral.Value
import Wireframe.Proofs.Script.Numbers
import Wireframe.Proofs.Geometry.Exact
import Wireframe.Proofs.Scene.Composition
import Wireframe.Proofs.Scene.LastColumn
import Wireframe.Proofs.Run.Rearrangement
import Wireframe.Proofs.Run.Progress
import Wireframe.Proofs.World.FileTree
import Wireframe.Proofs.Run.SavedFiles
import Wireframe.Proofs.World.Links
import Wireframe.Execution
import Wireframe.Proofs.Run.Records
import Wireframe.Proofs.Run.Execution
import Wireframe.Proofs.Run.Session
import Wireframe.Proofs.Geometry.Columns
import Wireframe.Proofs.Script.Queue
import Wireframe.Proofs.Text.Lines
import Wireframe.Proofs.Run.Layout
import Wireframe.Proofs.Run.Deliveries
import Wireframe.Proofs.Run.Insertion
import Wireframe.Proofs.Canvas.Scale
import Wireframe.Proofs.Script.Separation
import Wireframe.Proofs.Binary.Bits
import Wireframe.Proofs.Binary.Truncation
import Wireframe.Proofs.Geometry.GridPoint
import Wireframe.Proofs.World.Window
import Wireframe.Proofs.Run.Windows
