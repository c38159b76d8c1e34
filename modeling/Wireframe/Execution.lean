import Wireframe.Program
import Wireframe.World

/-!
An execution of the program in a world. What its filter admits of the log is
written on the error stream.
-/

namespace Wireframe

structure Execution where
  world : World
  filter : LogFilter
  /-- What has been written so far, the newest first. -/
  writes : List (TextStream × String)

namespace Execution

def text (execution : Execution) (stream : TextStream) : String :=
  let pieces := execution.writes.reverse.filter fun piece => piece.1 = stream
  String.join (pieces.map Prod.snd)

def write (execution : Execution) (stream : TextStream) (text : String) : Execution :=
  { execution with writes := (stream, text) :: execution.writes }

def log (execution : Execution) (record : LogRecord) : Execution :=
  let logged := { execution with world := execution.world.log record }
  if execution.filter.admits record then logged.write .error record.written else logged

def inWorld {α : Type} (f : StateM World α) : StateM Execution α :=
  fun execution =>
    ((f execution.world).1, { execution with world := (f execution.world).2 })

end Execution

instance : Console (StateM Execution) where
  write stream text := fun execution => ((), execution.write stream text)

instance : Host (StateM Execution) where
  readText path := Execution.inWorld (Host.readText path)
  writeFile path content := Execution.inWorld (Host.writeFile path content)
  createWindow title := Execution.inWorld (Host.createWindow title)
  setWindowImage name image := Execution.inWorld (Host.setWindowImage name image)
  listen := Execution.inWorld Host.listen
  awaitLeave := Execution.inWorld Host.awaitLeave
  log record := fun execution => ((), execution.log record)

/-- The exit code of the program under a setting of the log, and what it leaves. -/
def Execution.run (setting : Option String) (arguments : List String) (world : World) :
    UInt32 × Execution :=
  let (filter, problems) := LogFilter.ofSetting setting
  (Program.main problems arguments : StateM Execution UInt32) ⟨world, filter, []⟩

end Wireframe
