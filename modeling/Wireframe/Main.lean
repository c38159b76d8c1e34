import Wireframe.Program

/-!
The command line: runs scripts on the files of the system and writes the
log to the error stream.
-/

namespace Wireframe

/-- A run on the system shows the log records that a filter admits. -/
abbrev Terminal := ReaderT LogFilter IO

namespace Terminal

def fileError : IO.Error → FileError
  | .noFileOrDirectory _ code reason | .inappropriateType _ code reason
  | .permissionDenied _ code reason | .invalidArgument _ code reason
  | .resourceExhausted _ code reason | .noSuchThing _ code reason
  | .alreadyExists _ code reason | .interrupted _ code reason
  | .resourceBusy code reason | .resourceVanished code reason
  | .unsupportedOperation code reason | .hardwareFault code reason
  | .unsatisfiedConstraints code reason | .illegalOperation code reason
  | .protocolError code reason | .timeExpired code reason
  | .otherError code reason => .ofCode code.toNat reason
  | e => .ofCode 0 (toString e)

def readText (path : String) : IO (Except ReadError String) := do
  try
    let bytes ← IO.FS.readBinFile path
    match String.fromUTF8? bytes with
    | some text => return .ok text
    | none => return .error .notText
  catch e =>
    return .error (.file (fileError e))

def writeFile (path : String) (content : FileContent) : IO (Except FileError Unit) := do
  try
    IO.FS.writeBinFile path ⟨content.bytes⟩
    return .ok ()
  catch e =>
    return .error (fileError e)

end Terminal

instance : Console Terminal where
  write
    | .output, text => IO.print text
    | .error, text => IO.eprint text

/-- A terminal has no windows to show. -/
instance : Host Terminal where
  readText path := Terminal.readText path
  writeFile path content := Terminal.writeFile path content
  createWindow _ := return .error "no window system is available"
  setWindowImage _ _ := return .error "no window system is available"
  listen := return .error "no window system is available"
  awaitLeave := return ()
  log record := do
    if (← read).admits record then
      Console.write .error record.written

end Wireframe

open Wireframe in
def main (arguments : List String) : IO UInt32 := do
  let (filter, problems) := LogFilter.ofSetting (← IO.getEnv "RUST_LOG")
  (Program.main problems arguments : Terminal UInt32).run filter
