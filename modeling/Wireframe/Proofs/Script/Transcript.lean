import Wireframe.Script.Reader

/-!
Reading a script until the reader is finished or fails. The transcript of a reading holds
all that the calls on the way have answered.
-/

namespace Wireframe

/-- The commands read, each with the cursor behind it, the error that ended the reading,
if one did, and the cursor at the end. -/
structure Transcript where
  steps : List (Command × Nat)
  failure : Option ScriptError
  cursor : Nat
  deriving DecidableEq

namespace Transcript

def commands (t : Transcript) : List Command :=
  t.steps.map Prod.fst

def prepend (t : Transcript) (command : Command) (cursor : Nat) : Transcript :=
  { t with steps := (command, cursor) :: t.steps }

@[simp] theorem steps_prepend (t : Transcript) (command : Command) (cursor : Nat) :
    (t.prepend command cursor).steps = (command, cursor) :: t.steps := rfl

@[simp] theorem commands_prepend (t : Transcript) (command : Command) (cursor : Nat) :
    (t.prepend command cursor).commands = command :: t.commands := rfl

@[simp] theorem failure_prepend (t : Transcript) (command : Command) (cursor : Nat) :
    (t.prepend command cursor).failure = t.failure := rfl

@[simp] theorem cursor_prepend (t : Transcript) (command : Command) (cursor : Nat) :
    (t.prepend command cursor).cursor = t.cursor := rfl

end Transcript

namespace Reader

def transcript (reader : Reader) : Transcript :=
  match _h : reader.next with
  | (.finished, after) => ⟨[], none, after.cursor⟩
  | (.failed e, after) => ⟨[], some e, after.cursor⟩
  | (.command command, after) => after.transcript.prepend command after.cursor
termination_by reader.rest.length
decreasing_by exact length_rest_next _h

section

variable {reader after : Reader}

theorem transcript_finished (h : reader.next = (.finished, after)) :
    reader.transcript = ⟨[], none, after.cursor⟩ := by
  rw [transcript]
  split <;> simp_all

theorem transcript_failed {e : ScriptError} (h : reader.next = (.failed e, after)) :
    reader.transcript = ⟨[], some e, after.cursor⟩ := by
  rw [transcript]
  split <;> simp_all

theorem transcript_command {command : Command}
    (h : reader.next = (.command command, after)) :
    reader.transcript = after.transcript.prepend command after.cursor := by
  rw [transcript]
  split <;> simp_all

end

/-! What a reader answers to a call, by the lines before it. -/

@[simp] theorem next_nil (cursor : Nat) :
    next ⟨cursor, []⟩ = (.finished, ⟨cursor, []⟩) := rfl

variable {cursor : Nat} {line : String} {rest : List String}

theorem next_of_none (h : Keyword.ofText? (Script.content line) = none) :
    next ⟨cursor, line :: rest⟩ =
      (.failed (.invalidCommand (cursor + 1) (Script.content line)),
        ⟨cursor, line :: rest⟩) := by
  simp [next, h]

theorem next_of_bare {keyword : BareKeyword} (h : Script.content line = keyword.name) :
    next ⟨cursor, line :: rest⟩ = (.command keyword.command, ⟨cursor + 1, rest⟩) := by
  have hkeyword : Keyword.ofText? (Script.content line) = some (.bare keyword) :=
    h ▸ Keyword.ofText?_name (.bare keyword)
  simp [next, hkeyword]

theorem next_of_argument {keyword : ArgumentKeyword}
    (h : Script.content line = keyword.name) :
    next ⟨cursor, line :: rest⟩ = readArguments ⟨cursor + 1, rest⟩ keyword := by
  have hkeyword : Keyword.ofText? (Script.content line) = some (.argument keyword) :=
    h ▸ Keyword.ofText?_name (.argument keyword)
  simp [next, hkeyword]

end Reader

end Wireframe
