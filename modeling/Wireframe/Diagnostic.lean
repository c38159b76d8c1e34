import Wireframe.Run
import Wireframe.Text.Record

/-!
The last line of a program that an error ends. It shows the kind of the
error with all it holds.
-/

namespace Wireframe

namespace Diagnostic

def keyword : ArgumentKeyword → String
  | .line => "Line"
  | .scale => "Scale"
  | .move => "Move"
  | .rotate => "Rotate"
  | .save => "Save"

/-- The kinds of the errors that a system has numbers for, as far as
files can meet with them. -/
def errorKinds : List (Nat × String) :=
  [(1, "PermissionDenied"), (2, "NotFound"), (4, "Interrupted"), (11, "WouldBlock"),
    (12, "OutOfMemory"), (13, "PermissionDenied"), (16, "ResourceBusy"),
    (17, "AlreadyExists"), (18, "CrossesDevices"), (20, "NotADirectory"),
    (21, "IsADirectory"), (22, "InvalidInput"), (26, "ExecutableFileBusy"),
    (27, "FileTooLarge"), (28, "StorageFull"), (29, "NotSeekable"),
    (30, "ReadOnlyFilesystem"), (31, "TooManyLinks"), (32, "BrokenPipe"),
    (35, "Deadlock"), (36, "InvalidFilename"), (38, "Unsupported"),
    (39, "DirectoryNotEmpty"), (40, "FilesystemLoop"), (95, "Unsupported"),
    (110, "TimedOut"), (116, "StaleNetworkFileHandle"), (122, "QuotaExceeded")]

def fileErrorKind (e : FileError) : String :=
  match e.code? with
  | some code => (errorKinds.lookup code).getD "Uncategorized"
  | none => "InvalidInput"

def plainError (kind message : String) : String :=
  Text.record "Error" [("kind", kind), ("message", Text.quoted message)]

def fileError (e : FileError) : String :=
  match e.code? with
  | some code =>
      Text.record "Os"
        [("code", toString code), ("kind", fileErrorKind e),
          ("message", Text.quoted e.reason)]
  | none => plainError (fileErrorKind e) e.reason

def readError : ReadError → String
  | .file e => fileError e
  | .notText => plainError "InvalidData" ReadError.notText.message

def unsupported (format kind : String) : String :=
  Text.holding "Unsupported"
    (Text.record "UnsupportedError"
      [("format", format), ("kind", Text.holding "Format" kind)])

def pictureError : PictureError → String
  | .file e => Text.holding "IoError" (fileError e)
  | .dimensions =>
      Text.holding "Parameter"
        (Text.record "ParameterError"
          [("kind", "DimensionMismatch"), ("underlying", "None")])
  | .unsupportedFormat format =>
      unsupported "Unknown" (Text.holding "Name" (Text.quoted format.name))
  | .unknownExtension ext =>
      let hint := Text.holding "PathExtension" (Text.quoted ext)
      unsupported hint hint
  | .noExtension => unsupported "Unknown" "Unknown"
  | .window reason => Text.quoted reason

def scriptError : ScriptError → String
  | .invalidCommand line content =>
      Text.record "InvalidCommand"
        [("line", toString line), ("content", Text.quoted content)]
  | .malformedArguments line k content reason =>
      Text.record "MalformedArguments"
        [("line", toString line), ("command", keyword k),
          ("content", Text.quoted content), ("reason", Text.quoted reason.message)]
  | .truncatedScript line k =>
      Text.record "TruncatedScript" [("line", toString line), ("command", keyword k)]

def runError : RunError → String
  | .unreadable path cause =>
      Text.record "Io" [("path", Text.quoted path), ("source", readError cause)]
  | .script e => scriptError e
  | .picture e => Text.holding "Raster" (pictureError e)

def lastLine (e : RunError) : String :=
  "Error: " ++ runError e

end Diagnostic

end Wireframe
