import Mathlib.Data.List.DropRight
import Mathlib.Data.List.Induction
import Wireframe.Proofs.Run.Perform
import Wireframe.World

/-!
What a list of commands means, said of the list as a whole: the transformation
that it gathers and the edges that it draws. Carrying the commands out one by
one arrives at just these.
-/

namespace Wireframe

namespace Command

/-- The transformation that a command adds to those gathered before. -/
def elementary? : Command → Option (Matrix Single)
  | scale factors => some (.dilation factors)
  | move offset => some (.displacement offset)
  | rotate axis degrees => some (.rotation axis degrees)
  | _ => none

def points : Command → List (Row Single)
  | line start finish => [start.row, finish.row]
  | _ => []

def isLine : Command → Bool
  | line .. => true
  | _ => false

def publishes : Command → Bool
  | display => true
  | save _ => true
  | _ => false

theorem length_points (command : Command) :
    command.points.length = if command.isLine then 2 else 0 := by
  cases command <;> rfl

end Command

namespace Commands

/-- The transformations since the last `ident`, composed from the oldest to the newest. -/
def gathered (commands : List Command) : Matrix Single :=
  ((commands.rtakeWhile (· ≠ .ident)).filterMap Command.elementary?).foldl Matrix.andThen
    .identity

/-- What the `apply` commands behind the one at place `i` put its
points through, in order. -/
def appliedAfter (commands : List Command) (i : Nat) : List (Matrix Single) :=
  ((List.range commands.length).filter fun j => i < j ∧ commands[j]? = some .apply).map
    fun j => gathered (commands.take j)

/-- The points of every `line`, each moved by what has been applied after it. -/
def drawn (commands : List Command) : List (Row Single) :=
  (List.range commands.length).flatMap fun i =>
    (commands[i]?.elim [] Command.points).map fun point =>
      (appliedAfter commands i).foldl Row.times point

variable (commands : List Command)

@[simp] theorem gathered_concat_ident : gathered (commands ++ [.ident]) = .identity := by
  rw [gathered, List.rtakeWhile_concat_neg _ _ _ (by simp)]
  rfl

theorem gathered_concat {command : Command} (h : command ≠ .ident) :
    gathered (commands ++ [command]) =
      command.elementary?.elim (gathered commands) (gathered commands).andThen := by
  rw [gathered, List.rtakeWhile_concat_pos _ _ _ (by simpa using h),
    List.filterMap_append, List.foldl_append]
  cases helementary : command.elementary? <;> simp [helementary, gathered]

theorem appliedAfter_concat (command : Command) {i : Nat} (h : i < commands.length) :
    appliedAfter (commands ++ [command]) i =
      appliedAfter commands i ++
        if command = .apply then [gathered commands] else [] := by
  unfold appliedAfter
  rw [List.length_append, List.length_singleton, List.range_succ, List.filter_append,
    List.map_append]
  congr 1
  · have hplaces : (List.range commands.length).filter
          (fun j => i < j ∧ (commands ++ [command])[j]? = some .apply) =
        (List.range commands.length).filter fun j => i < j ∧
            commands[j]? = some .apply := by
      refine List.filter_congr fun j hj => ?_
      rw [List.getElem?_append_left (List.mem_range.mp hj)]
    rw [hplaces]
    refine List.map_congr_left fun j hj => ?_
    have hlength : j ≤ commands.length :=
      Nat.le_of_lt (List.mem_range.mp (List.mem_of_mem_filter hj))
    rw [List.take_append_of_le_length hlength]
  · by_cases happly : command = .apply <;> simp [happly, h]

theorem appliedAfter_eq_nil {i : Nat} (h : commands.length ≤ i + 1) :
    appliedAfter commands i = [] := by
  rw [appliedAfter, List.map_eq_nil_iff, List.filter_eq_nil_iff]
  intro j hj
  have hbound := List.mem_range.mp hj
  simp only [decide_eq_true_eq, not_and]
  omega

theorem drawn_concat (command : Command) :
    drawn (commands ++ [command]) =
      (if command = .apply then (drawn commands).map fun point =>
        point.times (gathered commands)
        else drawn commands) ++ command.points := by
  have hlast : ((commands ++ [command])[commands.length]?.elim [] Command.points).map
      (fun point =>
        (appliedAfter (commands ++ [command]) commands.length).foldl Row.times point) =
        command.points := by
    simp [appliedAfter_eq_nil]
  -- The points of the earlier commands are put through one more matrix if the
  -- new command is `apply`.
  have hearlier : ∀ i ∈ List.range commands.length,
      ((commands ++ [command])[i]?.elim [] Command.points).map
          (fun point => (appliedAfter (commands ++ [command]) i).foldl Row.times point) =
        if command = .apply then
          ((commands[i]?.elim [] Command.points).map fun point =>
            (appliedAfter commands i).foldl Row.times point).map
              fun point => point.times (gathered commands)
        else
          (commands[i]?.elim [] Command.points).map fun point =>
            (appliedAfter commands i).foldl Row.times point := by
    intro i hi
    have hbound := List.mem_range.mp hi
    rw [List.getElem?_append_left hbound, appliedAfter_concat commands command hbound]
    by_cases happly : command = .apply
    · simp [happly, Function.comp_def]
    · simp [happly]
  rw [drawn, List.length_append, List.length_singleton, List.range_succ,
    List.flatMap_append, List.flatMap_singleton, hlast, List.flatMap_congr hearlier]
  by_cases happly : command = .apply
  · simp [happly, drawn, List.map_flatMap]
  · simp [happly, drawn]

theorem length_drawn : (drawn commands).length = 2 * commands.countP Command.isLine := by
  induction commands using List.reverseRecOn with
  | nil => rfl
  | append_singleton commands command ih =>
      have hearlier : (if command = .apply then
          (drawn commands).map fun point => point.times (gathered commands)
        else drawn commands).length = 2 * commands.countP Command.isLine := by
        split <;> simp [ih]
      rw [drawn_concat, List.length_append, hearlier, Command.length_points,
        List.countP_append, List.countP_singleton]
      split <;> omega

theorem updateAll_empty :
    Scene.empty.updateAll commands = ⟨(drawn commands).toArray, gathered commands⟩ := by
  induction commands using List.reverseRecOn with
  | nil => rfl
  | append_singleton commands command ih =>
      rw [Scene.updateAll_concat, ih, drawn_concat]
      cases command with
      | ident => simp [Scene.update, Command.points]
      | line start finish =>
          rw [gathered_concat commands (by simp)]
          simp [Scene.update, Command.points, Command.elementary?, EdgeList.addEdge,
            EdgeList.addPoint]
      | apply =>
          rw [gathered_concat commands (by simp)]
          simp [Scene.update, Command.points, Command.elementary?, EdgeList.transform]
      | _ =>
          rw [gathered_concat commands (by simp)]
          simp [Scene.update, Scene.addTransform, Command.points, Command.elementary?]

theorem updateAll_filter_publishes (scene : Scene) :
    scene.updateAll (commands.filter fun command => !command.publishes) =
      scene.updateAll commands := by
  induction commands generalizing scene with
  | nil => rfl
  | cons command commands ih =>
      cases command with
      | display => exact ih scene
      | save path => exact ih scene
      | _ => exact ih _

theorem gathered_filter_apply :
    gathered (commands.filter (· ≠ .apply)) = gathered commands := by
  induction commands using List.reverseRecOn with
  | nil => rfl
  | append_singleton commands command ih =>
      rw [List.filter_append]
      by_cases happly : command = .apply
      · rw [happly, gathered_concat commands (by simp)]
        simpa [Command.elementary?] using ih
      · have hkeep : [command].filter (· ≠ .apply) = [command] := by simp [happly]
        rw [hkeep]
        by_cases hident : command = .ident
        · rw [hident, gathered_concat_ident, gathered_concat_ident]
        · rw [gathered_concat _ hident, gathered_concat _ hident, ih]

theorem drawn_append_of_notMem {later : List Command} (h : .apply ∉ later) :
    drawn (commands ++ later) = drawn commands ++ later.flatMap Command.points := by
  induction later using List.reverseRecOn with
  | nil => simp
  | append_singleton later command ih =>
      have hcommand : command ≠ .apply := fun heq => h (by simp [heq])
      rw [← List.append_assoc, drawn_concat, if_neg hcommand,
        ih fun hmem => h (List.mem_append_left _ hmem)]
      simp

end Commands

open Commands (gathered drawn)

/-- A script that runs to its end leaves the transformation that its commands gather and
the edges that they draw. There are two points to a line; `apply` leaves the
transformation alone and does not move what is drawn behind it, and commands that publish
the picture count for nothing. -/
theorem evaluate_scene_eq_meaning {σ : Type} [Host (StateM σ)] {lines : List String}
    {before after : σ} {scene : Scene}
    (h : (evaluate lines : StateM σ _) before = (.ok scene, after)) :
    let t := (Reader.ofLines lines).transcript
    let unpublished := t.commands.filter fun command => !command.publishes
    t.failure = none ∧
      scene.transform = gathered t.commands ∧
      scene.edges.toList = drawn t.commands ∧
      scene.edges.size = 2 * t.commands.countP Command.isLine ∧
      gathered (t.commands.filter (· ≠ .apply)) = gathered t.commands ∧
      (∀ earlier later, t.commands = earlier ++ later → .apply ∉ later →
        scene.edges.toList = drawn earlier ++ later.flatMap Command.points) ∧
      gathered unpublished = gathered t.commands ∧
      drawn unpublished = drawn t.commands := by
  intro t unpublished
  obtain ⟨hfailure, rfl⟩ := eq_updateAll_of_evaluate h
  have hunpublished := Commands.updateAll_filter_publishes t.commands Scene.empty
  rw [Commands.updateAll_empty, Commands.updateAll_empty] at hunpublished
  rw [Commands.updateAll_empty]
  refine ⟨hfailure, rfl, rfl, ?_, Commands.gathered_filter_apply _, ?_, ?_, ?_⟩
  · exact Commands.length_drawn t.commands
  · intro earlier later hsplit hlater
    rw [hsplit]
    exact Commands.drawn_append_of_notMem earlier hlater
  · exact congrArg Scene.transform hunpublished
  · exact congrArg (fun scene => scene.edges.toList) hunpublished

theorem evaluate_scene_two_applies :
    let lines := ["line", "1 0 0 0 1 0", "move", "1 0 0", "apply", "line", "0 0 0 0 0 2",
      "scale", "2 2 2", "apply"]
    let run := (evaluate lines : StateM World _) (.start .empty [] ⟨[], none⟩)
    let commands := (Reader.ofLines lines).transcript.commands
    run = (.ok ⟨(drawn commands).toArray, gathered commands⟩, run.2) ∧
      drawn commands = [#v[6, 0, 0, 1], #v[4, 2, 0, 1], #v[2, 0, 0, 1], #v[2, 0, 4, 1]] ∧
      gathered commands =
        #v[#v[2, 0, 0, 0], #v[0, 2, 0, 0], #v[0, 0, 2, 0], #v[2, 0, 0, 1]] := by
  intro lines run commands
  let scene : Scene := ⟨#[#v[6, 0, 0, 1], #v[4, 2, 0, 1], #v[2, 0, 0, 1], #v[2, 0, 4, 1]],
    #v[#v[2, 0, 0, 0], #v[0, 2, 0, 0], #v[0, 0, 2, 0], #v[2, 0, 0, 1]]⟩
  have hresult : run.1 = .ok scene := by decide +kernel
  have hrun : run = (.ok scene, run.2) := Prod.ext hresult rfl
  obtain ⟨-, htransform, hedges, -⟩ := evaluate_scene_eq_meaning hrun
  refine ⟨?_, hedges.symm, htransform.symm⟩
  calc
    run = (.ok scene, run.2) := hrun
    _ = (.ok ⟨(drawn commands).toArray, gathered commands⟩, run.2) := by
      rw [← hedges, ← htransform]

end Wireframe
