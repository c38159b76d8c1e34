import Wireframe.Log
import Wireframe.World.FileTree
import Wireframe.World.Window

/-!
What a run asks of its surroundings.
-/

namespace Wireframe

inductive ReadError where
  | file (error : FileError)
  | notText
  deriving DecidableEq

def ReadError.message : ReadError → String
  | file error => error.message
  | notText => "stream did not contain valid UTF-8"

/-- What is read as a text. -/
def ReadError.ofContent : Except FileError FileContent → Except ReadError String
  | .error e => .error (.file e)
  | .ok content => content.text?.elim (.error .notText) .ok

theorem ReadError.ofContent_of_png {read : Except FileError FileContent}
    (h : read.toOption.bind FileContent.encoding? = some .png) :
    ofContent read = .error .notText := by
  cases read with
  | error e => cases h
  | ok content => rw [ofContent, FileContent.text?_of_png h, Option.elim_none]

/-- Everything a run does besides computing. -/
class Host (m : Type → Type) where
  readText (path : String) : m (Except ReadError String)
  /-- Creates a file or empties the one that is there, and then fills it. -/
  writeFile (path : String) (content : FileContent) : m (Except FileError Unit)
  createWindow (title : String) : m (Except String Unit)
  /-- Shows an image in the window created last. -/
  setWindowImage (name : String) (image : Image) : m (Except String Unit)
  listen : m (Except String Unit)
  /-- Takes events from the window created last until one leaves it or no more arrive. -/
  awaitLeave : m Unit
  log (record : LogRecord) : m Unit

end Wireframe
