import Wireframe.Proofs.Script.Grammar

/-!
Scripts that are read one after another. Reading goes on behind the first script as it
would with the second alone, with all lines counted further down; lines that are left over
at the end of the first are read together with the second.
-/

namespace Wireframe

def ScriptError.shift (offset : Nat) : ScriptError → ScriptError
  | invalidCommand line content => invalidCommand (offset + line) content
  | malformedArguments line keyword content reason =>
      malformedArguments (offset + line) keyword content reason
  | truncatedScript line keyword => truncatedScript (offset + line) keyword

def Reading.shift (offset : Nat) : Reading → Reading
  | .command made => .command made
  | .finished => .finished
  | .failed e => .failed (e.shift offset)

namespace Transcript

def shift (offset : Nat) (t : Transcript) : Transcript where
  steps := t.steps.map fun step => (step.1, offset + step.2)
  failure := t.failure.map (ScriptError.shift offset)
  cursor := offset + t.cursor

def behind (t : Transcript) (steps : List (Command × Nat)) : Transcript :=
  { t with steps := steps ++ t.steps }

/-- The transcript of a script that goes on behind the `length` lines of which
`t` is the transcript. -/
def continued (t : Transcript) (length : Nat) (more : List String) : Transcript :=
  match t.failure with
  | none => ((Reader.ofLines more).transcript.shift length).behind t.steps
  | some (.invalidCommand ..) => t
  | some (.malformedArguments ..) => t
  | some (.truncatedScript _ keyword) =>
      ((Reader.ofLines (keyword.name :: more)).transcript.shift
        (length - 1)).behind t.steps

theorem shift_prepend (offset : Nat) (t : Transcript) (command : Command) (cursor : Nat) :
    (t.prepend command cursor).shift offset =
      (t.shift offset).prepend command (offset + cursor) := rfl

end Transcript

namespace Reader

def shift (offset : Nat) (reader : Reader) : Reader :=
  { reader with cursor := offset + reader.cursor }

def append (reader : Reader) (more : List String) : Reader :=
  { reader with rest := reader.rest ++ more }

variable {reader after : Reader} {e : ScriptError} {cursor : Nat}

theorem readArguments_shift (offset : Nat) (reader : Reader) (keyword : ArgumentKeyword) :
    (reader.shift offset).readArguments keyword =
      ((reader.readArguments keyword).1.shift offset,
        (reader.readArguments keyword).2.shift offset) := by
  obtain ⟨cursor, rest⟩ := reader
  cases rest with
  | nil => rfl
  | cons line rest =>
      simp only [readArguments, shift]
      cases keyword.command (Field.ofLine (Script.content line)) with
      | ok command => rfl
      | error reason => rfl

/-- What a call answers depends on the place in the script only where it counts lines. -/
theorem next_shift (offset : Nat) (reader : Reader) :
    (reader.shift offset).next =
      (reader.next.1.shift offset, reader.next.2.shift offset) := by
  obtain ⟨cursor, rest⟩ := reader
  cases rest with
  | nil => rfl
  | cons line rest =>
      cases hkeyword : Keyword.ofText? (Script.content line) with
      | none =>
          rw [next_of_none hkeyword]
          exact next_of_none hkeyword
      | some keyword =>
          have hname := (Keyword.name_of_ofText? hkeyword).symm
          cases keyword with
          | bare keyword =>
              rw [next_of_bare hname]
              exact next_of_bare hname
          | argument keyword =>
              rw [next_of_argument hname, ← readArguments_shift]
              exact next_of_argument hname

theorem transcript_shift (offset : Nat) (reader : Reader) :
    (reader.shift offset).transcript = reader.transcript.shift offset := by
  induction reader using transcript.induct with
  | case1 reader after hnext =>
      have hshift := next_shift offset reader
      rw [hnext] at hshift
      rw [transcript_finished hshift, transcript_finished hnext]
      rfl
  | case2 reader e after hnext =>
      have hshift := next_shift offset reader
      rw [hnext] at hshift
      rw [transcript_failed hshift, transcript_failed hnext]
      rfl
  | case3 reader command after hnext ih =>
      have hshift := next_shift offset reader
      rw [hnext] at hshift
      rw [transcript_command hshift, transcript_command hnext, ih,
        Transcript.shift_prepend]
      rfl

theorem transcript_congr {other : Reader} (h : reader.next = other.next) :
    reader.transcript = other.transcript := by
  match hnext : other.next with
  | (.finished, after) =>
      rw [transcript_finished hnext, transcript_finished (h.trans hnext)]
  | (.failed e, after) => rw [transcript_failed hnext, transcript_failed (h.trans hnext)]
  | (.command command, after) =>
      rw [transcript_command hnext, transcript_command (h.trans hnext)]

/-! What a call finds that does not answer with a command. -/

theorem rest_of_next_finished (h : reader.next = (.finished, after)) :
    reader.rest = [] := by
  unfold next readArguments at h
  grind

theorem next_failed_cases (h : reader.next = (.failed e, after)) :
    (∃ line rest, reader.rest = line :: rest ∧
      Keyword.ofText? (Script.content line) = none ∧
      e = .invalidCommand (reader.cursor + 1) (Script.content line) ∧ after = reader) ∨
    (∃ keyword first second rest reason, reader.rest = first :: second :: rest ∧
      Script.content first = ArgumentKeyword.name keyword ∧
      keyword.command (Field.ofLine second) = .error reason ∧
      e = .malformedArguments (reader.cursor + 2) keyword (Script.content second) reason ∧
      after = ⟨reader.cursor + 2, rest⟩) ∨
    ∃ keyword line, reader.rest = [line] ∧
      Script.content line = ArgumentKeyword.name keyword ∧
      e = .truncatedScript (reader.cursor + 1) keyword ∧
      after = ⟨reader.cursor + 1, []⟩ := by
  obtain ⟨cursor, rest⟩ := reader
  cases rest with
  | nil => simp at h
  | cons line rest =>
      cases hkeyword : Keyword.ofText? (Script.content line) with
      | none =>
          rw [next_of_none hkeyword] at h
          cases h
          exact .inl ⟨line, rest, rfl, hkeyword, rfl, rfl⟩
      | some keyword =>
          have hname := (Keyword.name_of_ofText? hkeyword).symm
          cases keyword with
          | bare keyword => simp [next_of_bare hname] at h
          | argument keyword =>
              rw [next_of_argument hname] at h
              cases rest with
              | nil =>
                  cases h
                  exact .inr (.inr ⟨keyword, line, rfl, hname, rfl, rfl⟩)
              | cons second rest =>
                  cases hcommand : keyword.command (Field.ofLine second) with
                  | ok command => simp [readArguments, hcommand] at h
                  | error reason =>
                      simp only [readArguments, Field.ofLine_content, hcommand] at h
                      cases h
                      exact .inr (.inl ⟨keyword, line, second, rest, reason, rfl, hname,
                        hcommand, rfl, rfl⟩)

theorem next_append_of_command {command : Command}
    (h : reader.next = (.command command, after)) (more : List String) :
    (reader.append more).next = (.command command, after.append more) := by
  obtain ⟨block, hblock, hrest, hcursor⟩ := block_of_next h
  have hnext := next_of_block hblock reader.cursor (after.rest ++ more)
  rw [← List.append_assoc, ← hrest, ← hcursor] at hnext
  exact hnext

theorem next_append_of_failed (h : reader.next = (.failed e, after))
    (hline : ∀ line keyword, e ≠ .truncatedScript line keyword) (more : List String) :
    (reader.append more).next = (.failed e, after.append more) := by
  rcases next_failed_cases h with ⟨line, rest, hrest, hkeyword, rfl, rfl⟩ |
    ⟨keyword, first, second, rest, reason, hrest, hname, hcommand, rfl, rfl⟩ |
    ⟨keyword, line, -, -, rfl, -⟩
  · obtain ⟨cursor, _⟩ := after
    obtain rfl := hrest
    exact next_of_none hkeyword
  · obtain ⟨cursor, _⟩ := reader
    obtain rfl := hrest
    refine (next_of_argument hname).trans ?_
    simp [readArguments, hcommand, append]
  · exact absurd rfl (hline _ _)

theorem exists_stop (reader : Reader) :
    ∃ steps, ∃ stop : Reader,
      (∀ more, (reader.append more).transcript =
        (stop.append more).transcript.behind steps) ∧
      (∀ command after, stop.next ≠ (.command command, after)) ∧
      stop.cursor + stop.rest.length = reader.cursor + reader.rest.length := by
  induction reader using transcript.induct with
  | case1 reader after hnext => exact ⟨[], reader, fun _ => rfl, by simp [hnext], rfl⟩
  | case2 reader e after hnext => exact ⟨[], reader, fun _ => rfl, by simp [hnext], rfl⟩
  | case3 reader command after hnext ih =>
      obtain ⟨steps, stop, hread, hstop, hlines⟩ := ih
      obtain ⟨block, -, hrest, hcursor⟩ := block_of_next hnext
      refine ⟨(command, after.cursor) :: steps, stop, fun more => ?_, hstop, ?_⟩
      · rw [transcript_command (next_append_of_command hnext more), hread more]
        rfl
      · rw [hlines, hrest, List.length_append, hcursor, Nat.add_assoc]

@[simp] theorem append_nil (reader : Reader) : reader.append [] = reader := by
  simp [append]

theorem content_name (keyword : ArgumentKeyword) :
    Script.content keyword.name = keyword.name := by
  cases keyword <;> decide

theorem transcript_ofLines_append (lines more : List String) :
    (ofLines (lines ++ more)).transcript =
      (ofLines lines).transcript.continued lines.length more := by
  let t := (ofLines lines).transcript
  change _ = t.continued lines.length more
  obtain ⟨steps, stop, hread, hstop, hlines⟩ := exists_stop (ofLines lines)
  have hlength : stop.cursor + stop.rest.length = lines.length := by
    simpa [ofLines] using hlines
  have ht : t = stop.transcript.behind steps := by simpa using hread []
  have hwhole : (ofLines (lines ++ more)).transcript =
      (stop.append more).transcript.behind steps :=
    hread more
  rw [hwhole, ht]
  obtain ⟨reading, after, hnext⟩ : ∃ reading after, stop.next = (reading, after) :=
    ⟨_, _, rfl⟩
  cases reading with
  | command command => exact absurd hnext (hstop command after)
  | finished =>
      have hrest := rest_of_next_finished hnext
      have hshift : stop.append more = (ofLines more).shift lines.length := by
        simp [append, ofLines, shift, ← hlength, hrest]
      rw [hshift, transcript_shift, transcript_finished hnext]
      simp [Transcript.continued, Transcript.behind]
  | failed e =>
      rw [transcript_failed hnext]
      rcases next_failed_cases hnext with ⟨line, rest, hrest, hkeyword, rfl, rfl⟩ |
        ⟨keyword, first, second, rest, reason, hrest, hname, hcommand, rfl, rfl⟩ |
        ⟨keyword, line, hrest, hname, rfl, rfl⟩
      · rw [transcript_failed (next_append_of_failed hnext (by simp) more)]
        rfl
      · rw [transcript_failed (next_append_of_failed hnext (by simp) more)]
        rfl
      · have hcursor : lines.length - 1 + 0 = stop.cursor := by
          rw [← hlength, hrest]
          simp
        have hsame : (stop.append more).next =
            ((ofLines (keyword.name :: more)).shift (lines.length - 1)).next := by
          simp only [append, hrest, ofLines, shift, List.singleton_append, hcursor]
          rw [next_of_argument hname, next_of_argument (content_name keyword)]
        rw [transcript_congr hsame, transcript_shift]
        simp [Transcript.continued, Transcript.behind]

end Reader

end Wireframe
