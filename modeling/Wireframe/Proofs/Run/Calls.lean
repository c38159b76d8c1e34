import Mathlib.Data.Nat.Find
import Mathlib.Logic.Function.Iterate
import Wireframe.Proofs.Script.Concatenation
import Wireframe.Run
import Wireframe.World

/-!
Calling a reader again and again, behind its errors and behind the end of the script. Each
call takes lines from the front of the rest, until an answer comes that stays.
-/

namespace Wireframe

def Reading.linesTaken : Reading → Nat
  | .command .ident => 1
  | .command .apply => 1
  | .command .display => 1
  | .command (.line ..) => 2
  | .command (.scale ..) => 2
  | .command (.move ..) => 2
  | .command (.rotate ..) => 2
  | .command (.save ..) => 2
  | .finished => 0
  | .failed (.invalidCommand ..) => 0
  | .failed (.truncatedScript ..) => 1
  | .failed (.malformedArguments ..) => 2

inductive Reading.Final : Reading → Prop
  | finished : Final .finished
  | invalidCommand (line : Nat) (content : String) :
      Final (.failed (.invalidCommand line content))

theorem Reading.final_iff {reading : Reading} :
    reading.Final ↔ reading.linesTaken = 0 := by
  constructor
  · intro h
    cases h with
    | finished => rfl
    | invalidCommand line content => rfl
  · intro h
    cases reading with
    | finished => exact .finished
    | command command => cases command <;> cases h
    | failed e =>
        cases e with
        | invalidCommand line content => exact .invalidCommand line content
        | malformedArguments line keyword content reason => cases h
        | truncatedScript line keyword => cases h

instance (reading : Reading) : Decidable reading.Final :=
  decidable_of_iff _ Reading.final_iff.symm

theorem Arguments.linesTaken_eq {keyword : ArgumentKeyword} {fields : List Field}
    {command : Command} (h : Arguments keyword fields command) :
    (Reading.command command).linesTaken = 2 := by
  cases h <;> rfl

theorem Block.length_eq {block : List String} {command : Command}
    (h : Block block command) :
    block.length = (Reading.command command).linesTaken := by
  cases h with
  | bare =>
      rename_i keyword hline
      cases keyword <;> rfl
  | argument hfirst hsecond => exact hsecond.linesTaken_eq.symm

namespace Reader

def afterCalls (reader : Reader) (count : Nat) : Reader :=
  (fun reader => reader.next.2)^[count] reader

def answer (reader : Reader) (count : Nat) : Reading :=
  (reader.afterCalls count).next.1

theorem afterCalls_succ (reader : Reader) (count : Nat) :
    reader.afterCalls (count + 1) = (reader.afterCalls count).next.2 :=
  Function.iterate_succ_apply' ..

/-- A reader of `lines` that has taken as many of them as its cursor says. -/
structure Reads (lines : List String) (reader : Reader) : Prop where
  rest_eq : reader.rest = lines.drop reader.cursor
  cursor_le : reader.cursor ≤ lines.length

/-! One call. -/

theorem next_takes (reader : Reader) :
    ∃ taken, reader.rest = taken ++ reader.next.2.rest ∧
      taken.length = reader.next.1.linesTaken ∧
      reader.next.2.cursor = reader.cursor + reader.next.1.linesTaken := by
  match hnext : reader.next with
  | (.finished, after) =>
      have hrest := rest_of_next_finished hnext
      obtain ⟨cursor, _⟩ := reader
      cases hrest
      cases hnext
      exact ⟨[], rfl, rfl, rfl⟩
  | (.command command, after) =>
      obtain ⟨block, hblock, hrest, hcursor⟩ := block_of_next hnext
      exact ⟨block, hrest, hblock.length_eq, hblock.length_eq ▸ hcursor⟩
  | (.failed e, after) =>
      rcases next_failed_cases hnext with ⟨line, rest, hrest, hkeyword, rfl, rfl⟩ |
        ⟨keyword, first, second, rest, reason, hrest, hname, hcommand, rfl, rfl⟩ |
        ⟨keyword, line, hrest, hname, rfl, rfl⟩
      · exact ⟨[], rfl, rfl, rfl⟩
      · exact ⟨[first, second], hrest, rfl, rfl⟩
      · exact ⟨[line], hrest, rfl, rfl⟩

theorem next_of_final {reader : Reader} (h : reader.next.1.Final) :
    reader.next.2 = reader := by
  obtain ⟨taken, hrest, hlength, hcursor⟩ := reader.next_takes
  rw [Reading.final_iff.mp h] at hlength hcursor
  rw [List.eq_nil_of_length_eq_zero hlength] at hrest
  obtain ⟨cursor, rest⟩ := reader
  exact congrArg₂ Reader.mk hcursor hrest.symm

theorem Reads.next {lines : List String} {reader : Reader} (h : Reads lines reader) :
    Reads lines reader.next.2 := by
  obtain ⟨taken, hrest, hlength, hcursor⟩ := reader.next_takes
  have hsize := congrArg List.length hrest
  rw [List.length_append, h.rest_eq, List.length_drop] at hsize
  constructor
  · rw [hcursor, ← hlength, ← List.drop_drop, ← h.rest_eq, hrest, List.drop_left]
  · have hle := h.cursor_le
    omega

/-! Any number of calls. -/

theorem reads_afterCalls (lines : List String) (count : Nat) :
    Reads lines ((ofLines lines).afterCalls count) := by
  induction count with
  | zero => exact ⟨rfl, Nat.zero_le _⟩
  | succ count ih =>
      rw [afterCalls_succ]
      exact ih.next

theorem cursor_afterCalls_succ (reader : Reader) (count : Nat) :
    (reader.afterCalls (count + 1)).cursor =
      (reader.afterCalls count).cursor + (reader.answer count).linesTaken := by
  obtain ⟨-, -, -, hcursor⟩ := (reader.afterCalls count).next_takes
  rw [afterCalls_succ]
  exact hcursor

theorem afterCalls_of_final {reader : Reader} {count : Nat}
    (h : (reader.answer count).Final) (more : Nat) :
    reader.afterCalls (count + more) = reader.afterCalls count := by
  unfold afterCalls
  rw [Nat.add_comm, Function.iterate_add_apply]
  exact Function.iterate_fixed (next_of_final h) more

theorem le_cursor_afterCalls {reader : Reader} {count : Nat}
    (h : ∀ k < count, ¬ (reader.answer k).Final) :
    reader.cursor + count ≤ (reader.afterCalls count).cursor := by
  induction count with
  | zero => exact Nat.le_refl _
  | succ count ih =>
      have hbefore := ih fun k hk => h k (Nat.lt_succ_of_lt hk)
      have htaken : (reader.answer count).linesTaken ≠ 0 := fun hzero =>
        h count (Nat.lt_succ_self count) (Reading.final_iff.mpr hzero)
      rw [cursor_afterCalls_succ]
      omega

theorem exists_first_final (lines : List String) :
    ∃ first ≤ lines.length, ∀ k, ((ofLines lines).answer k).Final ↔ first ≤ k := by
  have hreached : ∃ k ≤ lines.length, ((ofLines lines).answer k).Final := by
    -- Otherwise the calls would take more lines than there are.
    by_contra hnone
    have hcursor :=
      @le_cursor_afterCalls (ofLines lines) (lines.length + 1) fun k hk hfinal =>
        hnone ⟨k, Nat.le_of_lt_succ hk, hfinal⟩
    have hle := (reads_afterCalls lines (lines.length + 1)).cursor_le
    omega
  have hexists : ∃ k, ((ofLines lines).answer k).Final := hreached.imp fun _ h => h.2
  obtain ⟨k, hk, hfinal⟩ := hreached
  refine ⟨Nat.find hexists, (Nat.find_min' hexists hfinal).trans hk, fun k => ⟨?_, ?_⟩⟩
  · exact fun hfinal => Nat.find_min' hexists hfinal
  · intro hle
    obtain ⟨more, rfl⟩ := Nat.exists_eq_add_of_le hle
    have hfirst := Nat.find_spec hexists
    rw [answer, afterCalls_of_final hfirst]
    exact hfirst

end Reader

/-! The calls of a run. -/

section

variable {m : Type → Type} [Monad m] [Host m]

/-- A run that gives up after some number of calls. -/
def evaluateWithin : (calls : Nat) → Reader → Scene → m (Option (Except RunError Scene))
  | 0, _, _ => pure none
  | calls + 1, reader, scene =>
      match reader.next with
      | (.finished, _) => pure (some (.ok scene))
      | (.failed e, _) => pure (some (.error (.script e)))
      | (.command command, after) => do
          Host.log (.commandRead after.cursor command)
          match ← scene.execute command with
          | .error e => return some (.error (.picture e))
          | .ok scene => evaluateWithin calls after scene

theorem evaluateWithin_eq_evaluateFrom [LawfulMonad m] {calls : Nat} {reader : Reader}
    (h : reader.rest.length < calls) (scene : Scene) :
    (evaluateWithin calls reader scene : m (Option (Except RunError Scene))) =
      some <$> evaluateFrom reader scene := by
  induction calls generalizing reader scene with
  | zero => exact absurd h (Nat.not_lt_zero _)
  | succ calls ih =>
      match hnext : reader.next with
      | (.finished, after) =>
          rw [evaluateFrom_finished hnext, evaluateWithin, hnext]
          exact (map_pure some _).symm
      | (.failed e, after) =>
          rw [evaluateFrom_failed hnext, evaluateWithin, hnext]
          exact (map_pure some _).symm
      | (.command command, after) =>
          have hshorter : after.rest.length < calls :=
            (Reader.length_rest_next hnext).trans_le (Nat.le_of_lt_succ h)
          rw [evaluateFrom_command hnext, evaluateWithin, hnext]
          simp only [map_bind]
          congr
          funext _
          congr
          funext result
          cases result with
          | error e => exact (map_pure some _).symm
          | ok next => exact ih hshorter next

end

/-- However often a reader is called, it reads the lines that it was given, from the place
where its cursor stands, and each call moves the cursor over the lines that belong to its
answer. From some call on, not later than there are lines, all answers are the same and
the cursor stays; before it, no answer says that the script is at its end or that a line
is no keyword. A run therefore ends. -/
theorem calls_take_lines (lines : List String) :
    let reader := Reader.ofLines lines
    (∀ count,
      (reader.afterCalls count).rest = lines.drop (reader.afterCalls count).cursor ∧
        (reader.afterCalls count).cursor ≤ lines.length ∧
        (reader.afterCalls (count + 1)).cursor =
          (reader.afterCalls count).cursor + (reader.answer count).linesTaken) ∧
    (∀ count more, (reader.answer count).Final →
      reader.answer (count + more) = reader.answer count ∧
        reader.afterCalls (count + more) = reader.afterCalls count) ∧
    (∃ first ≤ lines.length, ∀ count, (reader.answer count).Final ↔ first ≤ count) ∧
    ∀ {m : Type → Type} [Monad m] [LawfulMonad m] [Host m] (calls : Nat),
      lines.length < calls →
      (evaluateWithin calls reader .empty : m (Option (Except RunError Scene))) =
        some <$> evaluate lines := by
  intro reader
  refine ⟨fun count => ?_, fun count more hfinal => ?_,
    Reader.exists_first_final lines, ?_⟩
  · have hreads := Reader.reads_afterCalls lines count
    exact ⟨hreads.rest_eq, hreads.cursor_le, Reader.cursor_afterCalls_succ reader count⟩
  · have hsame := Reader.afterCalls_of_final hfinal more
    exact ⟨congrArg (fun reader => reader.next.1) hsame, hsame⟩
  · intro m _ _ _ calls hcalls
    exact evaluateWithin_eq_evaluateFrom hcalls .empty

theorem calls_take_lines_up_to_quit :
    let lines := ["apply", "move", "1 x 3", "display", "quit", "save"]
    let reader := Reader.ofLines lines
    (reader.afterCalls 2).cursor = 3 ∧
      (∀ more, reader.answer (3 + more) = .failed (.invalidCommand 5 "quit") ∧
        (reader.afterCalls (3 + more)).cursor = 4) ∧
      (evaluateWithin 7 reader .empty : StateM World _) = some <$> evaluate lines := by
  intro lines reader
  have hcursors : (reader.afterCalls 2).cursor = 3 ∧
      (reader.afterCalls 3).cursor = 4 := by
    decide +kernel
  have hquit : reader.answer 3 = .failed (.invalidCommand 5 "quit") := by decide +kernel
  obtain ⟨-, hstay, -, hrun⟩ := calls_take_lines lines
  refine ⟨hcursors.1, fun more => ?_, hrun 7 (by decide)⟩
  obtain ⟨hanswer, hsame⟩ := hstay 3 more (hquit ▸ .invalidCommand 5 "quit")
  exact ⟨hanswer.trans hquit, hsame ▸ hcursors.2⟩

end Wireframe
