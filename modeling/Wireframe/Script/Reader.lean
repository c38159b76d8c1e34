import Wireframe.Script.Command
import Wireframe.Text.Lines

/-!
Reading a script one command at a time. A reader that has refused a line can be
asked again: it goes on behind an argument line that it refused, and stays at a
line that is no keyword.
-/

namespace Wireframe

/-- Why a script cannot be read on. Lines are counted from one. -/
inductive ScriptError where
  | invalidCommand (line : Nat) (content : String)
  | malformedArguments (line : Nat) (keyword : ArgumentKeyword) (content : String)
      (reason : ArgumentError)
  | truncatedScript (line : Nat) (keyword : ArgumentKeyword)
  deriving DecidableEq

namespace ScriptError

def message : ScriptError → String
  | invalidCommand line content => s!"line {line}: '{content}' is an invalid command"
  | malformedArguments line keyword content reason =>
      s!"line {line}: malformed arguments for '{keyword.name}' ('{content}'): " ++
        reason.message
  | truncatedScript line keyword =>
      s!"line {line}: '{keyword.name}' expects an argument line but the script ended"

end ScriptError

inductive Reading where
  | command (command : Command)
  | finished
  | failed (error : ScriptError)
  deriving DecidableEq

namespace Script

def lines (text : String) : List String :=
  (Text.lines text.toList).map String.ofList

def content (line : String) : String :=
  String.ofList (Text.trim line.toList)

end Script

/-- A reader has taken `cursor` lines and has the lines of `rest` before it. -/
structure Reader where
  cursor : Nat
  rest : List String
  deriving DecidableEq

namespace Reader

def ofLines (lines : List String) : Reader :=
  ⟨0, lines⟩

def readArguments (reader : Reader) (keyword : ArgumentKeyword) : Reading × Reader :=
  match reader.rest with
  | [] => (.failed (.truncatedScript reader.cursor keyword), reader)
  | line :: rest =>
      let content := Script.content line
      let reader : Reader := ⟨reader.cursor + 1, rest⟩
      match keyword.command (Field.ofLine content) with
      | .ok command => (.command command, reader)
      | .error reason =>
          (.failed (.malformedArguments reader.cursor keyword content reason), reader)

def next (reader : Reader) : Reading × Reader :=
  match reader.rest with
  | [] => (.finished, reader)
  | line :: rest =>
      match Keyword.ofText? (Script.content line) with
      | none =>
          (.failed (.invalidCommand (reader.cursor + 1) (Script.content line)), reader)
      | some (.bare keyword) => (.command keyword.command, ⟨reader.cursor + 1, rest⟩)
      | some (.argument keyword) => readArguments ⟨reader.cursor + 1, rest⟩ keyword

theorem length_rest_next {reader : Reader} {command : Command} {after : Reader}
    (h : reader.next = (.command command, after)) :
    after.rest.length < reader.rest.length := by
  unfold next readArguments at h
  grind

end Reader

end Wireframe
