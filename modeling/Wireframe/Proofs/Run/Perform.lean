import Wireframe.Proofs.Script.Transcript
import Wireframe.Run

/-!
A run taken apart: reading a script, and carrying out the commands that have been read. A
run does both in turn, and comes to the same as one after the other.
-/

namespace Wireframe

variable {m : Type → Type} [Monad m] [Host m]

namespace Scene

def carryOut (scene : Scene) (step : Command × Nat) : m (Except PictureError Scene) := do
  Host.log (.commandRead step.2 step.1)
  scene.execute step.1

/-- Carries out commands in order, up to the first that fails. -/
def perform (scene : Scene) : List (Command × Nat) → m (Except PictureError Scene)
  | [] => pure (.ok scene)
  | step :: steps => do
      match ← scene.carryOut step with
      | .error e => return .error e
      | .ok scene => scene.perform steps

def updateAll (scene : Scene) (commands : List Command) : Scene :=
  commands.foldl update scene

@[simp] theorem updateAll_concat (scene : Scene) (commands : List Command)
    (command : Command) :
    scene.updateAll (commands ++ [command]) =
      (scene.updateAll commands).update command := by
  simp [updateAll]

end Scene

def Transcript.conclude (t : Transcript) :
    Except PictureError Scene → Except RunError Scene
  | .error e => .error (.picture e)
  | .ok scene =>
      match t.failure with
      | some e => .error (.script e)
      | none => .ok scene

@[simp] theorem Transcript.conclude_prepend (t : Transcript) (command : Command)
    (cursor : Nat) :
    (t.prepend command cursor).conclude = t.conclude := rfl

theorem Transcript.conclude_of_failure_eq_none {t : Transcript} (h : t.failure = none)
    (scene : Scene) :
    t.conclude (.ok scene) = .ok scene := by
  simp only [conclude, h]

theorem evaluateFrom_eq_perform [LawfulMonad m] (reader : Reader) (scene : Scene) :
    (evaluateFrom reader scene : m (Except RunError Scene)) =
      reader.transcript.conclude <$> scene.perform reader.transcript.steps := by
  induction reader using Reader.transcript.induct generalizing scene with
  | case1 reader after hnext =>
      rw [evaluateFrom_finished hnext, Reader.transcript_finished hnext]
      simp [Scene.perform, Transcript.conclude]
  | case2 reader e after hnext =>
      rw [evaluateFrom_failed hnext, Reader.transcript_failed hnext]
      simp [Scene.perform, Transcript.conclude]
  | case3 reader command after hnext ih =>
      rw [evaluateFrom_command hnext, Reader.transcript_command hnext]
      simp only [Transcript.conclude_prepend, Transcript.steps_prepend, Scene.perform,
        Scene.carryOut, map_bind, bind_assoc]
      congr
      funext _
      congr
      funext result
      cases result with
      | error e => simp [Transcript.conclude]
      | ok next => exact ih next

/-! Carrying out commands in surroundings that have a state. -/

namespace Scene

variable {σ : Type}

theorem bind_apply {α β : Type} (x : StateM σ α) (f : α → StateM σ β) (before : σ) :
    (x >>= f) before = f (x before).1 (x before).2 := rfl

variable [Host (StateM σ)] {scene next : Scene} {before after : σ} {step : Command × Nat}
  {steps : List (Command × Nat)} {e : PictureError}

theorem execute_of_ok {command : Command}
    (h : (scene.publish command : StateM σ _) before = (.ok (), after)) :
    (scene.execute command : StateM σ _) before =
      (.ok (scene.update command), after) := by
  rw [execute, bind_apply, h]
  rfl

theorem execute_of_error {command : Command}
    (h : (scene.publish command : StateM σ _) before = (.error e, after)) :
    (scene.execute command : StateM σ _) before = (.error e, after) := by
  rw [execute, bind_apply, h]
  rfl

theorem eq_update_of_execute {command : Command}
    (h : (scene.execute command : StateM σ _) before = (.ok next, after)) :
    next = scene.update command := by
  match hpublish : (scene.publish command : StateM σ _) before with
  | (.error e, failed) =>
      rw [execute_of_error hpublish] at h
      cases h
  | (.ok _, published) =>
      rw [execute_of_ok hpublish] at h
      cases h
      rfl

theorem carryOut_of_ok
    (h : (scene.publish step.1 : StateM σ _)
      ((Host.log (.commandRead step.2 step.1) : StateM σ _) before).2 = (.ok (), after)) :
    (scene.carryOut step : StateM σ _) before = (.ok (scene.update step.1), after) :=
  execute_of_ok h

theorem carryOut_of_error
    (h : (scene.publish step.1 : StateM σ _)
      ((Host.log (.commandRead step.2 step.1) : StateM σ _) before).2 =
        (.error e, after)) :
    (scene.carryOut step : StateM σ _) before = (.error e, after) :=
  execute_of_error h

theorem eq_update_of_carryOut
    (h : (scene.carryOut step : StateM σ _) before = (.ok next, after)) :
    next = scene.update step.1 :=
  eq_update_of_execute h

theorem perform_cons_of_ok
    (h : (scene.carryOut step : StateM σ _) before = (.ok next, after)) :
    (scene.perform (step :: steps) : StateM σ _) before =
      (next.perform steps : StateM σ _) after := by
  rw [perform, bind_apply, h]

theorem perform_cons_of_error
    (h : (scene.carryOut step : StateM σ _) before = (.error e, after)) :
    (scene.perform (step :: steps) : StateM σ _) before = (.error e, after) := by
  rw [perform, bind_apply, h]
  rfl

theorem perform_cases (scene : Scene) (steps : List (Command × Nat)) (before : σ) :
    (∃ after, (scene.perform steps : StateM σ _) before =
      (.ok (scene.updateAll (steps.map Prod.fst)), after)) ∨
    ∃ done failing undone reached e after,
      steps = done ++ failing :: undone ∧
      (scene.perform done : StateM σ _) before =
        (.ok (scene.updateAll (done.map Prod.fst)), reached) ∧
      ((scene.updateAll (done.map Prod.fst)).carryOut failing : StateM σ _) reached =
        (.error e, after) ∧
      (scene.perform steps : StateM σ _) before = (.error e, after) := by
  induction steps generalizing scene before with
  | nil => exact .inl ⟨before, rfl⟩
  | cons step steps ih =>
      match hstep : (scene.carryOut step : StateM σ _) before with
      | (.error e, after) =>
          refine .inr ⟨[], step, steps, before, e, after, rfl, rfl, hstep, ?_⟩
          exact perform_cons_of_error hstep
      | (.ok next, middle) =>
          obtain rfl := eq_update_of_carryOut hstep
          rcases ih (scene.update step.1) middle with ⟨after, hafter⟩ |
            ⟨done, failing, undone, reached, e, after, rfl, hdone, hfailing, hafter⟩
          · exact .inl ⟨after, (perform_cons_of_ok hstep).trans hafter⟩
          · refine .inr ⟨step :: done, failing, undone, reached, e, after, rfl, ?_,
              hfailing, ?_⟩
            · exact (perform_cons_of_ok hstep).trans hdone
            · exact (perform_cons_of_ok hstep).trans hafter

end Scene

/-- A picture is written and then reported, or nothing is reported: its file could not be
written, or all that its format has for it is an empty file. -/
theorem Picture.saveAs_cases {σ : Type} [Host (StateM σ)] (image : Image) (path : String)
    (format : ImageFormat) (before : σ) :
    let saved := (saveAs image path format : StateM σ _) before
    (∃ content written, format.content image = .ok content ∧
      (writeFile path content : StateM σ _) before = (.ok (), written) ∧
      saved = (.ok (), ((Host.log (.pictureSaved path) : StateM σ _) written).2)) ∨
    (∃ reason emptied, format.content image = .error reason ∧
      (writeFile path (.text "") : StateM σ _) before = (.ok (), emptied) ∧
      saved = (.error reason, emptied)) ∨
    ∃ content e failed, (writeFile path content : StateM σ _) before =
      (.error e, failed) ∧
      saved = (.error e, failed) := by
  intro saved
  cases hcontent : format.content image with
  | ok content =>
      match hwrite : (writeFile path content : StateM σ _) before with
      | (.ok _, written) =>
          refine .inl ⟨content, written, rfl, hwrite, ?_⟩
          simp only [saved, saveAs, hcontent, Scene.bind_apply, hwrite]
          rfl
      | (.error e, failed) =>
          refine .inr (.inr ⟨content, e, failed, hwrite, ?_⟩)
          simp only [saved, saveAs, hcontent, Scene.bind_apply, hwrite]
          rfl
  | error reason =>
      match hwrite : (writeFile path (.text "") : StateM σ _) before with
      | (.ok _, emptied) =>
          refine .inr (.inl ⟨reason, emptied, rfl, rfl, ?_⟩)
          simp only [saved, saveAs, hcontent, Scene.bind_apply, hwrite]
          rfl
      | (.error e, failed) =>
          refine .inr (.inr ⟨.text "", e, failed, hwrite, ?_⟩)
          simp only [saved, saveAs, hcontent, Scene.bind_apply, hwrite]
          rfl

theorem evaluate_apply {σ : Type} [Host (StateM σ)] (lines : List String) (before : σ) :
    let t := (Reader.ofLines lines).transcript
    let performed := (Scene.empty.perform t.steps : StateM σ _) before
    (evaluate lines : StateM σ _) before = (t.conclude performed.1, performed.2) := by
  rw [evaluate, evaluateFrom_eq_perform]
  rfl

theorem eq_updateAll_of_evaluate {σ : Type} [Host (StateM σ)] {lines : List String}
    {before after : σ} {scene : Scene}
    (h : (evaluate lines : StateM σ _) before = (.ok scene, after)) :
    let t := (Reader.ofLines lines).transcript
    t.failure = none ∧ scene = Scene.empty.updateAll t.commands := by
  intro t
  rw [evaluate_apply] at h
  rcases Scene.perform_cases Scene.empty t.steps before with ⟨reached, hall⟩ |
    ⟨done, failing, undone, reached, e, stopped, -, -, -, hstop⟩
  · rw [hall, Transcript.conclude] at h
    cases hfailure : t.failure with
    | some e =>
        rw [hfailure] at h
        cases h
    | none =>
        rw [hfailure] at h
        cases h
        exact ⟨rfl, rfl⟩
  · rw [hstop] at h
    cases h

end Wireframe
