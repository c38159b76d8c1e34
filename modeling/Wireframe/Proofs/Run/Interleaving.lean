import Wireframe.Proofs.Run.Simulation
import Wireframe.World

/-!
A run reads and carries out commands in turn. What it does is what carrying out
all commands that can be read does, apart from the reports of commands in the log,
on which nothing depends.
-/

namespace Wireframe

def LogRecord.announces : LogRecord → Bool
  | commandRead .. => true
  | _ => false

namespace World

def unannounced (world : World) : World :=
  { world with records := world.records.filter fun record => !record.announces }

/-- Worlds that differ in the reports of commands at most. -/
def Alike (v w : World) : Prop :=
  v.unannounced = w.unannounced

theorem alike_iff {v w : World} :
    v.Alike w ↔ v.files = w.files ∧ v.directory = w.directory ∧
      v.windowSystem = w.windowSystem ∧
      v.windows = w.windows ∧
      (v.records.filter fun record => !record.announces) =
        w.records.filter fun record => !record.announces := by
  simp [Alike, unannounced]

theorem alike_log_commandRead (world : World) (line : Nat) (command : Command) :
    (world.log (.commandRead line command)).Alike world := by
  simp [alike_iff, log, LogRecord.announces]

def Overlooks {α : Type} (f : StateM World α) : Prop :=
  ∀ v w : World, v.Alike w → (f v).1 = (f w).1 ∧ (f v).2.Alike (f w).2

theorem alike_iff_beside {v w : World} :
    v.Alike w ↔ ∃ place : Location × WindowSystem, Beside place.1 place.2 Eq
      (fun rs ss => (rs.filter fun record => !record.announces) = ss.filter fun record =>
        !record.announces)
      v w := by
  rw [alike_iff]
  constructor
  · intro ⟨hfiles, hdirectory, hsystem, hwindows, hrecords⟩
    exact ⟨(w.directory, w.windowSystem), hfiles, hdirectory, rfl, hsystem, rfl, hwindows,
      hrecords⟩
  · intro ⟨place, h⟩
    exact ⟨h.files_eq, h.directory_left.trans h.directory_right.symm,
      h.system_left.trans h.system_right.symm, h.windows, h.records⟩

theorem alike_hostsMatch : HostsMatch Alike := by
  apply HostsMatch.of_exists fun _ _ => alike_iff_beside
  intro place
  apply beside_hostsMatch
  · intro window vs ws h
    rw [h]
  · intro change vs ws h
    rw [h]
  · intro record rs ss h
    rw [List.filter_cons, List.filter_cons, h]

theorem Overlooks.execute (scene : Scene) (command : Command) :
    Overlooks (scene.execute command) :=
  alike_hostsMatch.execute scene command

end World

namespace Scene

/-- Carries out commands in order, up to the first that fails, and
reports none of them. -/
def executeAll {m : Type → Type} [Monad m] [Host m] (scene : Scene) :
    List Command → m (Except PictureError Scene)
  | [] => pure (.ok scene)
  | command :: commands => do
      match ← scene.execute command with
      | .error e => return .error e
      | .ok scene => scene.executeAll commands

theorem eq_updateAll_of_executeAll {σ : Type} [Host (StateM σ)] {scene reached : Scene}
    {commands : List Command} {before after : σ}
    (h : (scene.executeAll commands : StateM σ _) before = (.ok reached, after)) :
    reached = scene.updateAll commands := by
  induction commands generalizing scene before with
  | nil =>
      cases h
      rfl
  | cons command commands ih =>
      rw [executeAll, bind_apply] at h
      match hcommand : (scene.execute command : StateM σ _) before with
      | (.error e, middle) =>
          rw [hcommand] at h
          cases h
      | (.ok next, middle) =>
          rw [hcommand] at h
          obtain rfl := eq_update_of_execute hcommand
          exact ih h

/-- But for the reports themselves, carrying out commands with and without
a report is the same. -/
theorem perform_alike_executeAll (scene : Scene) (steps : List (Command × Nat))
    (v w : World) (h : v.Alike w) :
    let performed := (scene.perform steps : StateM World _) v
    let executed := (scene.executeAll (steps.map Prod.fst) : StateM World _) w
    performed.1 = executed.1 ∧ performed.2.Alike executed.2 := by
  induction steps generalizing scene v w with
  | nil => exact ⟨rfl, h⟩
  | cons step steps ih =>
      obtain ⟨command, cursor⟩ := step
      let announced := ((Host.log (.commandRead cursor command) : StateM World Unit) v).2
      have hannounced : announced.Alike w :=
        (World.alike_log_commandRead v cursor command).trans h
      obtain ⟨hresult, halike⟩ := World.Overlooks.execute scene command _ _ hannounced
      simp only [List.map_cons, perform, executeAll, carryOut, bind_apply]
      rw [hresult]
      cases ((scene.execute command : StateM World _) w).1 with
      | error e => exact ⟨rfl, halike⟩
      | ok next => exact ih next _ _ halike

end Scene

/-- A run does what carrying out the commands read from its script does, up to the
first that fails, and nothing else. An error of the script is the result only if all
commands before it succeed. -/
theorem evaluate_eq_read_then_perform {σ : Type} [Host (StateM σ)] (lines : List String) :
    let t := (Reader.ofLines lines).transcript
    (evaluate lines : StateM σ _) = t.conclude <$> Scene.empty.perform t.steps ∧
      (∀ before : σ,
        (∃ after,
          (Scene.empty.perform t.steps : StateM σ _) before =
            (.ok (Scene.empty.updateAll t.commands), after) ∧
          (evaluate lines : StateM σ _) before =
            (match t.failure with
              | some e => .error (.script e)
              | none => .ok (Scene.empty.updateAll t.commands), after)) ∨
        ∃ done failing undone reached e after,
          t.steps = done ++ failing :: undone ∧
          (Scene.empty.perform done : StateM σ _) before =
            (.ok (Scene.empty.updateAll (done.map Prod.fst)), reached) ∧
          ((Scene.empty.updateAll (done.map Prod.fst)).carryOut failing :
              StateM σ _) reached =
            (.error e, after) ∧
          (evaluate lines : StateM σ _) before = (.error (.picture e), after)) ∧
      ∀ world : World,
        let run := (evaluate lines : StateM World _) world
        let executed := (Scene.empty.executeAll t.commands : StateM World _) world
        run.1 = t.conclude executed.1 ∧ run.2.Alike executed.2 := by
  intro t
  refine ⟨evaluateFrom_eq_perform _ _, fun before => ?_, fun world => ?_⟩
  · have hrun := evaluate_apply lines before
    rcases Scene.perform_cases Scene.empty t.steps before with ⟨after, hall⟩ |
      ⟨done, failing, undone, reached, e, after, hsteps, hdone, hfailing, hstop⟩
    · refine .inl ⟨after, hall, ?_⟩
      rw [hrun, hall]
      rfl
    · refine .inr ⟨done, failing, undone, reached, e, after, hsteps, hdone, hfailing, ?_⟩
      rw [hrun, hstop]
      rfl
  · obtain ⟨hresult, halike⟩ :=
      Scene.perform_alike_executeAll Scene.empty t.steps world world rfl
    rw [evaluate_apply]
    exact ⟨congrArg t.conclude hresult, halike⟩

end Wireframe
