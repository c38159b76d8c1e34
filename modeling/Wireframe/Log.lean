import Wireframe.Script.Command

/-!
What a run reports while it goes on.
-/

namespace Wireframe

/-- Levels from the gravest to the least. -/
inductive LogLevel where
  | error
  | warn
  | info
  | debug
  | trace
  deriving DecidableEq

namespace LogLevel

def name : LogLevel → String
  | error => "ERROR"
  | warn => "WARN"
  | info => "INFO"
  | debug => "DEBUG"
  | trace => "TRACE"

def rank : LogLevel → Nat
  | error => 1
  | warn => 2
  | info => 3
  | debug => 4
  | trace => 5

def all : List LogLevel := [error, warn, info, debug, trace]

end LogLevel

inductive LogRecord where
  | loggingStarted
  | defaultScriptChosen (path : String)
  | scriptStarted (path : String)
  | commandRead (line : Nat) (command : Command)
  | pictureSaved (path : String)
  deriving DecidableEq

end Wireframe
