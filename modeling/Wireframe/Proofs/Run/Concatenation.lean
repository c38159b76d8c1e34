import Wireframe.Proofs.Run.Perform
import Wireframe.Proofs.Script.Concatenation
import Wireframe.World

/-!
Running a script that goes on behind the end of another. The run takes up the scene and
the surroundings that the first script has left.
-/

namespace Wireframe

section

variable {σ : Type} [Host (StateM σ)] {scene next : Scene} {before after : σ}

theorem Scene.perform_append_of_ok {steps : List (Command × Nat)}
    (h : (scene.perform steps : StateM σ _) before = (.ok next, after))
    (more : List (Command × Nat)) :
    (scene.perform (steps ++ more) : StateM σ _) before =
      (next.perform more : StateM σ _) after := by
  induction steps generalizing scene before with
  | nil =>
      cases h
      rfl
  | cons step steps ih =>
      match hstep : (scene.carryOut step : StateM σ _) before with
      | (.error e, failed) =>
          rw [perform_cons_of_error hstep] at h
          cases h
      | (.ok moved, middle) =>
          rw [perform_cons_of_ok hstep] at h
          rw [List.cons_append, perform_cons_of_ok hstep]
          exact ih h

theorem perform_of_evaluate {lines : List String}
    (h : (evaluate lines : StateM σ _) before = (.ok scene, after)) :
    let t := (Reader.ofLines lines).transcript
    t.failure = none ∧ (Scene.empty.perform t.steps : StateM σ _) before =
      (.ok scene, after) := by
  intro t
  have hfailure : t.failure = none := (eq_updateAll_of_evaluate h).1
  refine ⟨hfailure, ?_⟩
  rw [evaluate_apply] at h
  match hperformed : (Scene.empty.perform t.steps : StateM σ _) before with
  | (.error e, stopped) =>
      rw [hperformed] at h
      cases h
  | (.ok reached, stopped) =>
      rw [hperformed, Transcript.conclude, hfailure] at h
      cases h
      rfl

end

/-- A script that goes on behind its end. If it could be read to its end, what comes
behind is read as it would be alone, except that lines are counted from the first; if
a line was refused, what comes behind is not read; if an argument line was missing,
the keyword at the end is read together with what comes behind. If the script also
runs to its end, the commands behind it are carried out in the scene and the
surroundings that it leaves. -/
theorem script_append_composes (lines more : List String) :
    let t := (Reader.ofLines lines).transcript
    ((Reader.ofLines (lines ++ more)).transcript =
      match t.failure with
      | none => ((Reader.ofLines more).transcript.shift lines.length).behind t.steps
      | some (.invalidCommand ..) => t
      | some (.malformedArguments ..) => t
      | some (.truncatedScript _ keyword) =>
          ((Reader.ofLines (keyword.name :: more)).transcript.shift
            (lines.length - 1)).behind t.steps) ∧
      ∀ {σ : Type} [Host (StateM σ)] {before middle : σ} {scene : Scene},
        (evaluate lines : StateM σ _) before = (.ok scene, middle) →
          let later := (Reader.ofLines more).transcript.shift lines.length
          let performed := (scene.perform later.steps : StateM σ _) middle
          (evaluate (lines ++ more) : StateM σ _) before =
            (later.conclude performed.1, performed.2) := by
  intro t
  have hwhole := Reader.transcript_ofLines_append lines more
  refine ⟨hwhole, fun {σ} _ {before middle scene} hrun => ?_⟩
  intro later performed
  obtain ⟨hfailure, hperformed⟩ := perform_of_evaluate hrun
  simp only [Transcript.continued, hfailure] at hwhole
  have hmore := Scene.perform_append_of_ok hperformed later.steps
  rw [evaluate_apply, hwhole]
  exact congrArg (fun run => (later.conclude run.1, run.2)) hmore

/-- The keyword at the end of the first script gets its argument line from the second. The
run takes the scene of its first script on to an error on the fifth line. -/
theorem script_append_composes_at_error :
    let lines := ["line", "0 0 0 4 2 0", "apply"]
    let start : World := .start .empty [] ⟨[], none⟩
    (Reader.ofLines (["ident", "save"] ++ ["a.png", "quit"])).transcript =
        ⟨[(.ident, 1), (.save "a.png", 3)], some (.invalidCommand 4 "quit"), 3⟩ ∧
      ((evaluate (lines ++ ["scale", "2 2"]) : StateM World _) start).1 =
        .error (.script (.malformedArguments 5 .scale "2 2" (.fieldCount 3 2))) := by
  intro lines start
  obtain ⟨hread, -⟩ := script_append_composes ["ident", "save"] ["a.png", "quit"]
  obtain ⟨-, hrun⟩ := script_append_composes lines ["scale", "2 2"]
  let scene : Scene := ⟨#[#v[0, 0, 0, 1], #v[4, 2, 0, 1]], .identity⟩
  have hfirst : ((evaluate lines : StateM World _) start).1 = .ok scene := by
    decide +kernel
  have hfirst' : (evaluate lines : StateM World _) start =
    (.ok scene, ((evaluate lines : StateM World _) start).2) := Prod.ext hfirst rfl
  constructor
  · rw [hread]
    decide +kernel
  · rw [hrun hfirst']
    decide +kernel

end Wireframe
