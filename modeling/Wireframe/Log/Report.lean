import Wireframe.Binary.Shortest
import Wireframe.Log
import Wireframe.Text.Record
import Wireframe.Text.Terminal

/-!
Log records as lines of text.
-/

namespace Wireframe

namespace Report

/-- Numbers are positional from a ten-thousandth up to sixteen digits before the point. -/
def numberLayout : Decimal.Layout := ⟨-3, 16⟩

def number (x : Single) : String :=
  String.ofList (x.render numberLayout)

def triple (x y z : String) (t : Triple) : List (String × String) :=
  [(x, number t.x), (y, number t.y), (z, number t.z)]

def axis : Axis → String
  | .x => "X"
  | .y => "Y"
  | .z => "Z"

def command : Command → String
  | .line start finish =>
      Text.record "Line" (triple "x0" "y0" "z0" start ++ triple "x1" "y1" "z1" finish)
  | .ident => "Ident"
  | .scale factors => Text.record "Scale" (triple "a" "b" "c" factors)
  | .move offset => Text.record "Move" (triple "a" "b" "c" offset)
  | .rotate a degrees =>
      Text.record "Rotate" [("axis", axis a), ("degrees", number degrees)]
  | .apply => "Apply"
  | .display => "Display"
  | .save path => Text.record "Save" [("file_path", Text.quoted path)]

end Report

namespace LogRecord

def level : LogRecord → LogLevel
  | loggingStarted => .debug
  | defaultScriptChosen _ => .info
  | scriptStarted _ => .info
  | commandRead .. => .debug
  | pictureSaved _ => .info

def target : LogRecord → String
  | loggingStarted => "wireframe_script::logging"
  | defaultScriptChosen _ => "wireframe_script"
  | scriptStarted _ => "wireframe_script"
  | commandRead .. => "wireframe_script::interpreter::run_script"
  | pictureSaved _ => "wireframe_script::picture"

def message : LogRecord → String
  | loggingStarted => "logging initialized"
  | defaultScriptChosen path =>
      s!"A path to a script wasn't provided. '{path}' was chosen by default."
  | scriptStarted path => s!"Running script '{path}'."
  | commandRead line command => s!"line {line}: {Report.command command}"
  | pictureSaved path => s!"Saved picture to '{path}'."

def indentLines (message : List Char) : List Char :=
  message.flatMap fun c => if c = '\n' then ['\n', ' ', ' ', ' ', ' '] else [c]

def paddedLevel (level : LogLevel) : String :=
  level.name ++ String.ofList (List.replicate (5 - level.name.length) ' ')

def render (record : LogRecord) : String :=
  "[" ++ paddedLevel record.level ++ " " ++ record.target ++ "] " ++
    String.ofList (indentLines record.message.toList)

/-- The line that is written for a record. Control sequences go, and the end of the
line with one left open. -/
def written (record : LogRecord) : String :=
  String.ofList (Text.withoutControls (record.render ++ "\n").toList)

end LogRecord

end Wireframe
