import Wireframe.Execution
import Wireframe.Proofs.Run.Records
import Wireframe.Proofs.Run.Simulation

/-!
An execution of the program does to its world what running the scripts there does, and all
that it writes goes to the error stream: what is wrong with the setting of the log, the
records that its filter admits, and the error that ended it.
-/

namespace Wireframe

namespace HostsMatch

variable {σ τ : Type} {R : σ → τ → Prop} [Host (StateM σ)] [Host (StateM τ)]

theorem runAll (h : HostsMatch R) (paths : List String) :
    Matches R (Program.runAll paths) (Program.runAll paths) := by
  induction paths with
  | nil => exact .pure _
  | cons path paths ih =>
      refine (h.log _).bind fun _ => ?_
      exact (h.runScript path).bindExcept (fun _ => .pure _) fun _ => ih

theorem programRun (h : HostsMatch R) (arguments : List String) :
    Matches R (Program.run arguments) (Program.run arguments) := by
  refine (h.log _).bind fun _ => ?_
  cases arguments with
  | nil => exact (h.log _).bind fun _ => h.runScript _
  | cons path paths => exact h.runAll (path :: paths)

end HostsMatch

namespace Execution

def shown (filter : LogFilter) (records : List LogRecord) : List (TextStream × String) :=
  (records.filter filter.admits).map fun record => (.error, record.written)

/-- The execution is one in the world, and has written what its filter lets
through since it began. -/
structure RunsIn (filter : LogFilter) (earlier : List (TextStream × String))
    (execution : Execution)
    (world : World) : Prop where
  world_eq : execution.world = world
  filter_eq : execution.filter = filter
  writes_eq : execution.writes = shown filter world.records ++ earlier

variable {filter : LogFilter} {earlier : List (TextStream × String)}

theorem matches_inWorld {α : Type} {f : StateM World α} (h : Leaves World.records f) :
    Matches (RunsIn filter earlier) (inWorld f) f := by
  rintro execution world ⟨rfl, hfilter, hwrites⟩
  refine ⟨rfl, rfl, hfilter, ?_⟩
  rw [h]
  exact hwrites

theorem runsIn_log (record : LogRecord) :
    Matches (RunsIn filter earlier) (Host.log record) (Host.log record) := by
  rintro execution world ⟨rfl, rfl, hwrites⟩
  refine ⟨rfl, ?_⟩
  change RunsIn execution.filter earlier (execution.log record)
    (execution.world.log record)
  unfold log
  by_cases hadmits : execution.filter.admits record
  · rw [if_pos hadmits]
    refine ⟨rfl, rfl, ?_⟩
    simp [write, hwrites, shown, World.log, hadmits]
  · rw [if_neg hadmits]
    refine ⟨rfl, rfl, ?_⟩
    simp [hwrites, shown, World.log, hadmits]

theorem runsIn_hostsMatch : HostsMatch (RunsIn filter earlier) where
  readText _ := matches_inWorld fun _ => rfl
  writeFile path content := matches_inWorld (World.leaves_records_write path content)
  createWindow title := matches_inWorld (World.leaves_createWindow (fun _ _ => rfl) title)
  setWindowImage name image :=
    matches_inWorld (World.leaves_setWindowImage (fun _ _ => rfl) name image)
  listen := matches_inWorld fun _ => rfl
  awaitLeave := matches_inWorld fun _ => rfl
  log := runsIn_log

def warned (execution : Execution) (problems : List String) : Execution :=
  { execution with
    writes := (problems.map LogFilter.warning).reverse.map (fun text => (.error, text)) ++
      execution.writes }

theorem forM_warnings (problems : List String) (execution : Execution) :
    ((problems.forM fun problem => Console.write .error (LogFilter.warning problem) :
        StateM Execution Unit) execution).2 = execution.warned problems := by
  induction problems generalizing execution with
  | nil => rfl
  | cons problem problems ih =>
      rw [List.forM, Scene.bind_apply, ih]
      simp [warned, Console.write, write]

theorem main_apply (problems arguments : List String) (execution : Execution) :
    let reached :=
      (Program.run arguments : StateM Execution _) (execution.warned problems)
    (Program.main problems arguments : StateM Execution UInt32) execution =
      (Program.exitCode reached.1,
        reached.2.write .error (Program.lastWords reached.1)) := by
  rw [Program.main, Scene.bind_apply, forM_warnings]
  rfl

theorem text_of_writes {execution : Execution} {texts : List String}
    (h : execution.writes = texts.map fun text => (.error, text)) :
    execution.text .output = "" ∧ execution.text .error = String.join texts.reverse := by
  have hnone : ∀ piece ∈ execution.writes.reverse,
      ¬ (decide (piece.1 = TextStream.output) = true) := by
    simp [h]
  have hall : ∀ piece ∈ execution.writes.reverse,
      decide (piece.1 = TextStream.error) = true := by
    simp [h]
  constructor
  · rw [text, List.filter_eq_nil_iff.mpr hnone]
    rfl
  · rw [text, List.filter_eq_self.mpr hall, h, ← List.map_reverse, List.map_map]
    exact congrArg String.join (List.map_id _)

theorem run_eq (setting : Option String) (arguments : List String) {world : World}
    (h : world.records = []) :
    let reached := (Program.run arguments : StateM World _) world
    let ended := run setting arguments world
    ended.1 = Program.exitCode reached.1 ∧ ended.2.world = reached.2 ∧
      ended.2.text .output = "" ∧
      ended.2.text .error =
        Program.errorOutput setting reached.2.records.reverse reached.1 := by
  intro reached ended
  rcases hsetting : LogFilter.ofSetting setting with ⟨filter, problems⟩
  let warnings := (problems.map LogFilter.warning).reverse
  -- Until the scripts begin, there are the warnings alone.
  let began : Execution := Execution.warned ⟨world, filter, []⟩ problems
  have hbegan : RunsIn filter (warnings.map fun text => (.error, text)) began world :=
    ⟨rfl, rfl, by simp [began, warned, warnings, shown, h]⟩
  have hmain : ended = (Program.main problems arguments : StateM Execution UInt32)
      ⟨world, filter, []⟩ := by
    simp only [ended, run, hsetting]
  have hended := hmain.trans (main_apply problems arguments ⟨world, filter, []⟩)
  obtain ⟨hresult, hworld, -, hwrites⟩ :=
    runsIn_hostsMatch.programRun arguments began world hbegan
  generalize (Program.run arguments : StateM Execution _) began = stopped
    at hended hresult hworld hwrites
  have hall : ended.2.writes = (Program.lastWords reached.1 ::
      ((reached.2.records.filter filter.admits).map LogRecord.written ++ warnings)).map
        fun text => (.error, text) := by
    rw [hended]
    simp [write, hwrites, shown, hresult, reached]
  obtain ⟨houtput, herror⟩ := text_of_writes hall
  refine ⟨?_, ?_, houtput, ?_⟩
  · rw [hended]
    exact congrArg Program.exitCode hresult
  · rw [hended]
    exact hworld
  · rw [herror, Program.errorOutput, hsetting]
    simp [warnings, String.append_assoc]

end Execution

end Wireframe
