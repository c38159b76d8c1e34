import Wireframe.Proofs.Run.Perform

/-!
How far a run gets: the commands that it carries out with success, and the one
that fails, if any does.
-/

namespace Wireframe

structure Progress where
  done : List Command
  failing : Option Command
  deriving DecidableEq

namespace Scene

variable {σ : Type} [Host (StateM σ)] {scene next : Scene} {before after : σ}
  {step : Command × Nat}
  {steps : List (Command × Nat)} {e : PictureError}

def progress (scene : Scene) : List (Command × Nat) → σ → Progress
  | [], _ => ⟨[], none⟩
  | step :: steps, before =>
      match (scene.carryOut step : StateM σ _) before with
      | (.error _, _) => ⟨[], some step.1⟩
      | (.ok next, after) =>
          let later := next.progress steps after
          { later with done := step.1 :: later.done }

theorem progress_cons_of_ok
    (h : (scene.carryOut step : StateM σ _) before = (.ok next, after)) :
    scene.progress (step :: steps) before =
      ⟨step.1 :: (next.progress steps after).done,
        (next.progress steps after).failing⟩ := by
  rw [progress, h]

theorem progress_cons_of_error
    (h : (scene.carryOut step : StateM σ _) before = (.error e, after)) :
    scene.progress (step :: steps) before = ⟨[], some step.1⟩ := by
  rw [progress, h]

/-- A run stops at the command that fails, and without one it carries out all of them. -/
theorem perform_eq_progress (scene : Scene) (steps : List (Command × Nat)) (before : σ) :
    let run := ((scene.perform steps : StateM σ _) before).1
    let p := scene.progress steps before
    (p.failing = none ∧ p.done = steps.map Prod.fst ∧
      run = .ok (scene.updateAll p.done)) ∨
      ∃ command e rest, p.failing = some command ∧
        steps.map Prod.fst = p.done ++ command :: rest ∧
        run = .error e := by
  induction steps generalizing scene before with
  | nil => exact .inl ⟨rfl, rfl, rfl⟩
  | cons step steps ih =>
      match hstep : (scene.carryOut step : StateM σ _) before with
      | (.error e, after) =>
          rw [perform_cons_of_error hstep, progress_cons_of_error hstep]
          exact .inr ⟨step.1, e, steps.map Prod.fst, rfl, rfl, rfl⟩
      | (.ok next, after) =>
          obtain rfl := eq_update_of_carryOut hstep
          rw [perform_cons_of_ok hstep, progress_cons_of_ok hstep]
          rcases ih (scene.update step.1) after with ⟨hfailing, hdone, hrun⟩ |
            ⟨command, e, rest, hfailing, hsplit, hrun⟩
          · exact .inl ⟨hfailing, congrArg (step.1 :: ·) hdone, hrun⟩
          · exact .inr ⟨command, e, rest, hfailing, congrArg (step.1 :: ·) hsplit, hrun⟩

end Scene

def progress {σ : Type} [Host (StateM σ)] (lines : List String) (before : σ) : Progress :=
  Scene.empty.progress (Reader.ofLines lines).transcript.steps before

theorem evaluate_eq_progress {σ : Type} [Host (StateM σ)] (lines : List String)
    (before : σ) :
    let t := (Reader.ofLines lines).transcript
    let run := ((evaluate lines : StateM σ _) before).1
    let p := progress lines before
    (p.failing = none ∧ p.done = t.commands ∧
      run = t.conclude (.ok (Scene.empty.updateAll p.done))) ∨
      ∃ command e rest, p.failing = some command ∧
        t.commands = p.done ++ command :: rest ∧
        run = .error (.picture e) := by
  intro t run p
  have hrun : run = t.conclude ((Scene.empty.perform t.steps : StateM σ _) before).1 := by
    simp only [run, evaluate_apply, t]
  rcases Scene.perform_eq_progress Scene.empty t.steps before with
    ⟨hfailing, hdone, hperform⟩ | ⟨command, e, rest, hfailing, hsplit, hperform⟩
  · exact .inl ⟨hfailing, hdone, by rw [hrun, hperform]; rfl⟩
  · exact .inr ⟨command, e, rest, hfailing, hsplit, by rw [hrun, hperform]; rfl⟩

theorem progress_of_evaluate {σ : Type} [Host (StateM σ)] {lines : List String}
    {start finish : σ} {scene : Scene}
    (h : (evaluate lines : StateM σ _) start = (.ok scene, finish)) :
    progress lines start = ⟨(Reader.ofLines lines).transcript.commands, none⟩ := by
  rcases evaluate_eq_progress lines start with
    ⟨hfailing, hdone, -⟩ | ⟨command, e, rest, -, -, hrun⟩
  · rw [← hdone, ← hfailing]
  · rw [h] at hrun
    cases hrun

end Wireframe
