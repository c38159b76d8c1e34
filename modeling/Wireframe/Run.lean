import Wireframe.Picture
import Wireframe.Scene
import Wireframe.Script.Reader

/-!
Running a script. Each command is carried out as soon as it is read, so what
came before an error stays.
-/

namespace Wireframe

inductive RunError where
  | unreadable (path : String) (cause : ReadError)
  | script (error : ScriptError)
  | picture (error : PictureError)
  deriving DecidableEq

def RunError.message : RunError → String
  | unreadable path cause => s!"Script '{path}' could not be read: {cause.message}"
  | script error => error.message
  | picture error => s!"picture error: {error.message}"

variable {m : Type → Type} [Monad m] [Host m]

namespace Scene

def publish (scene : Scene) : Command → m (Except PictureError Unit)
  | .display => Picture.display scene.render.image
  | .save path => Picture.save scene.render.image path
  | _ => pure (.ok ())

def execute (scene : Scene) (command : Command) : m (Except PictureError Scene) := do
  match ← scene.publish command with
  | .error e => return .error e
  | .ok () => return .ok (scene.update command)

end Scene

/-- Reads and carries out commands from `reader` on until the script
ends or something fails. -/
def evaluateFrom (reader : Reader) (scene : Scene) : m (Except RunError Scene) :=
  match _h : reader.next with
  | (.finished, _) => pure (.ok scene)
  | (.failed e, _) => pure (.error (.script e))
  | (.command command, after) => do
      Host.log (.commandRead after.cursor command)
      match ← scene.execute command with
      | .error e => return .error (.picture e)
      | .ok scene => evaluateFrom after scene
termination_by reader.rest.length
decreasing_by exact Reader.length_rest_next _h

section

variable {reader after : Reader} {scene : Scene}

theorem evaluateFrom_finished (h : reader.next = (.finished, after)) :
    (evaluateFrom reader scene : m (Except RunError Scene)) = pure (.ok scene) := by
  rw [evaluateFrom]
  split <;> simp_all

theorem evaluateFrom_failed {e : ScriptError} (h : reader.next = (.failed e, after)) :
    (evaluateFrom reader scene : m (Except RunError Scene)) =
      pure (.error (.script e)) := by
  rw [evaluateFrom]
  split <;> simp_all

theorem evaluateFrom_command {command : Command}
    (h : reader.next = (.command command, after)) :
    (evaluateFrom reader scene : m (Except RunError Scene)) = (do
      Host.log (.commandRead after.cursor command)
      match ← scene.execute command with
      | .error e => return .error (.picture e)
      | .ok scene => evaluateFrom after scene) := by
  rw [evaluateFrom]
  split <;> simp_all

end

/-- Every script starts from an empty scene. -/
def evaluate (lines : List String) : m (Except RunError Scene) :=
  evaluateFrom (.ofLines lines) .empty

def runScript (path : String) : m (Except RunError Unit) := do
  match ← Host.readText path with
  | .error cause => return .error (.unreadable path cause)
  | .ok text =>
      match ← evaluate (Script.lines text) with
      | .error e => return .error e
      | .ok _ => return .ok ()

end Wireframe
