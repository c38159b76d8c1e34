import Wireframe.Console
import Wireframe.Diagnostic
import Wireframe.Log.Filter

/-!
The program: runs the scripts it is given one after another until one fails.
-/

namespace Wireframe

namespace Program

def defaultScript : String := "scripts/face.txt"

section

variable {m : Type → Type} [Monad m] [Host m]

def runAll : List String → m (Except RunError Unit)
  | [] => pure (.ok ())
  | path :: paths => do
      Host.log (.scriptStarted path)
      match ← runScript path with
      | .error e => return .error e
      | .ok () => runAll paths

/-- Without a path the default script is run. -/
def runArguments : List String → m (Except RunError Unit)
  | [] => do
      Host.log (.defaultScriptChosen defaultScript)
      runScript defaultScript
  | path :: paths => runAll (path :: paths)

def run (arguments : List String) : m (Except RunError Unit) := do
  Host.log .loggingStarted
  runArguments arguments

end

def exitCode : Except RunError Unit → UInt32
  | .ok () => 0
  | .error _ => 1

def lastWords : Except RunError Unit → String
  | .ok () => ""
  | .error e => Diagnostic.lastLine e ++ "\n"

/-- Tells what is wrong with the setting of the log, runs the scripts, and tells the
error that ended them. -/
def main {m : Type → Type} [Monad m] [Host m] [Console m]
    (problems arguments : List String) : m UInt32 := do
  problems.forM fun problem => Console.write .error (LogFilter.warning problem)
  let result ← run arguments
  Console.write .error (lastWords result)
  return exitCode result

def errorOutput (setting : Option String) (records : List LogRecord)
    (result : Except RunError Unit) : String :=
  let (filter, problems) := LogFilter.ofSetting setting
  String.join (problems.map LogFilter.warning) ++
    String.join ((records.filter filter.admits).map LogRecord.written) ++ lastWords result

end Program

end Wireframe
