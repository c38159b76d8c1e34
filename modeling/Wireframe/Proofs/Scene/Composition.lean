import Wireframe.Proofs.Geometry.Exact
import Wireframe.Proofs.Scene.Meaning

/-!
Transformations gathered and applied at once, against the same ones applied one
after another. As long as no number outgrows the significand of a single, the
points come out the same.
-/

namespace Wireframe

open List (Forall₂)

def Row.Agrees (row other : Row Single) : Prop :=
  ∀ k : Fin 4, (row.get k).IsFinite ∧ (other.get k).IsFinite ∧
    (row.get k).toRat = (other.get k).toRat

theorem Row.IsInt.agrees {row other : Row Single} {whole : Row Int}
    (hrow : row.IsInt whole) (hother : other.IsInt whole) : row.Agrees other :=
  fun k => ⟨(hrow k).finite, (hother k).finite,
    (hrow k).toRat_eq.trans (hother k).toRat_eq.symm⟩

section

variable {rows others : List (Row Single)} {wholes : List (Row Int)}

theorem forall₂_agrees (hrows : Forall₂ Row.IsInt rows wholes)
    (hothers : Forall₂ Row.IsInt others wholes) :
    Forall₂ Row.Agrees rows others := by
  induction hrows generalizing others with
  | nil =>
      cases hothers
      exact .nil
  | cons hrow _ ih =>
      cases hothers with
      | cons hother hothers => exact .cons (hrow.agrees hother) (ih hothers)

theorem forall₂_isInt_map {f : Row Single → Row Single} {g : Row Int → Row Int}
    (hrows : Forall₂ Row.IsInt rows wholes)
    (h : ∀ row whole, whole ∈ wholes → row.IsInt whole → (f row).IsInt (g whole)) :
    Forall₂ Row.IsInt (rows.map f) (wholes.map g) := by
  induction hrows with
  | nil => exact .nil
  | cons hrow _ ih =>
      refine .cons (h _ _ (by simp) hrow) (ih fun row whole hmem =>
        h row whole (by simp [hmem]))

end

/-- Nothing comes up that is beyond two to the power 24: not when the matrices are
composed, not when the rows are put through the composition, and not when they are put
through the matrices one after another. -/
structure Bounded (ms : List (Matrix Int)) (rows : List (Row Int)) : Prop where
  compose : Matrix.identity.ComposeFits ms
  once : ∀ row ∈ rows, row.Fits (Matrix.composed ms)
  each : ∀ row ∈ rows, row.EachFits ms

namespace Bounded

variable {ms : List (Matrix Single)} {wholes : List (Matrix Int)}
  {rows : List (Row Single)}
  {wholeRows : List (Row Int)}

theorem isInt_composed (h : Bounded wholes wholeRows)
    (hms : Forall₂ Matrix.IsInt ms wholes) (hrows : Forall₂ Row.IsInt rows wholeRows) :
    Forall₂ Row.IsInt (rows.map fun row => row.times (Matrix.composed ms))
      (wholeRows.map fun row => wholes.foldl Row.times row) := by
  have hcomposed : (Matrix.composed ms).IsInt (Matrix.composed wholes) :=
    Matrix.isInt_identity.foldl_andThen hms h.compose
  refine forall₂_isInt_map hrows fun row whole hmem hrow => ?_
  rw [← Row.times_composed]
  exact hrow.times hcomposed (h.once whole hmem)

theorem isInt_each (h : Bounded wholes wholeRows) (hms : Forall₂ Matrix.IsInt ms wholes)
    (hrows : Forall₂ Row.IsInt rows wholeRows) :
    Forall₂ Row.IsInt (rows.map fun row => ms.foldl Row.times row)
      (wholeRows.map fun row => wholes.foldl Row.times row) :=
  forall₂_isInt_map hrows fun _ whole hmem hrow =>
    hrow.foldl_times hms (h.each whole hmem)

end Bounded

namespace Command

def Adds (command : Command) (whole : Matrix Int) : Prop :=
  ∃ m, command.elementary? = some m ∧ m.IsInt whole

variable {t : Triple} {entries : Row Int}

theorem adds_scale (h : t.row.IsInt entries) : (scale t).Adds (.diagonal entries) :=
  ⟨_, rfl, Matrix.isInt_diagonal h⟩

theorem adds_move (h : t.row.IsInt entries) : (move t).Adds (.displacing entries) :=
  ⟨_, rfl, Matrix.isInt_displacing h⟩

end Command

namespace Scene

variable {moves : List Command} {ms : List (Matrix Single)}

theorem update_of_elementary? {command : Command} {m : Matrix Single}
    (h : command.elementary? = some m) (scene : Scene) :
    scene.update command = scene.addTransform m := by
  cases command <;> cases h <;> rfl

theorem updateAll_append (scene : Scene) (first second : List Command) :
    scene.updateAll (first ++ second) = (scene.updateAll first).updateAll second :=
  List.foldl_append

theorem updateAll_gather
    (h : Forall₂ (fun command m => command.elementary? = some m) moves ms)
      (scene : Scene) :
    scene.updateAll moves =
      { scene with transform := ms.foldl Matrix.andThen scene.transform } := by
  induction h generalizing scene with
  | nil => rfl
  | cons hmove _ ih =>
      rw [updateAll, List.foldl_cons, update_of_elementary? hmove]
      exact ih _

theorem toList_transform (edges : EdgeList) (m : Matrix Single) :
    (edges.transform m).toList = edges.toList.map fun row => row.times m :=
  Array.toList_map

theorem edges_gather
    (h : Forall₂ (fun command m => command.elementary? = some m) moves ms) {scene : Scene}
    (htransform : scene.transform = .identity) :
    (scene.updateAll (moves ++ [.apply])).edges.toList =
      scene.edges.toList.map fun row => row.times (Matrix.composed ms) := by
  rw [updateAll_concat, updateAll_gather h, htransform]
  exact toList_transform _ _

theorem edges_separate
    (h : Forall₂ (fun command m => command.elementary? = some m) moves ms)
      (scene : Scene) :
    (scene.updateAll (moves.flatMap fun command =>
      [.ident, command, .apply])).edges.toList =
      scene.edges.toList.map fun row =>
        (ms.map Matrix.identity.andThen).foldl Row.times row := by
  induction h generalizing scene with
  | nil => exact (List.map_id _).symm
  | @cons command m moves ms hmove _ ih =>
      have hfirst : (scene.updateAll [.ident, command, .apply]).edges.toList =
          scene.edges.toList.map fun row => row.times (Matrix.identity.andThen m) := by
        change (((scene.update .ident).update command).update .apply).edges.toList = _
        rw [update_of_elementary? hmove]
        exact toList_transform _ _
      rw [List.flatMap_cons, updateAll_append, ih, hfirst, List.map_map]
      rfl

end Scene

theorem Command.exists_matrices {moves : List Command} {wholes : List (Matrix Int)}
    (h : Forall₂ Command.Adds moves wholes) :
    ∃ ms, Forall₂ (fun command m => command.elementary? = some m) moves ms ∧
      Forall₂ Matrix.IsInt ms wholes := by
  induction h with
  | nil => exact ⟨[], .nil, .nil⟩
  | cons hmove _ ih =>
      obtain ⟨m, helementary, hm⟩ := hmove
      obtain ⟨ms, hmoves, hms⟩ := ih
      exact ⟨m :: ms, .cons helementary hmoves, .cons hm hms⟩

theorem Command.not_publishes_of_adds {moves : List Command} {wholes : List (Matrix Int)}
    (h : Forall₂ Command.Adds moves wholes) :
    ∀ command ∈ moves, command.publishes = false := by
  induction h with
  | nil => simp
  | cons hmove _ ih =>
      obtain ⟨m, helementary, -⟩ := hmove
      refine List.forall_mem_cons.mpr ⟨?_, ih⟩
      rename_i command _ _ _ _
      cases command <;> first | rfl | cases helementary

theorem Scene.gather_agrees_separate {scene : Scene} {moves : List Command}
    {wholes : List (Matrix Int)} {wholeRows : List (Row Int)}
    (htransform : scene.transform = .identity)
    (hmoves : Forall₂ Command.Adds moves wholes)
    (hrows : Forall₂ Row.IsInt scene.edges.toList wholeRows)
    (h : Bounded wholes wholeRows) :
    Forall₂ Row.Agrees (scene.updateAll (moves ++ [.apply])).edges.toList
      (scene.updateAll (moves.flatMap fun command =>
        [.ident, command, .apply])).edges.toList := by
  obtain ⟨ms, helementary, hms⟩ := Command.exists_matrices hmoves
  have hidentity : Forall₂ Matrix.IsInt (ms.map Matrix.identity.andThen) wholes :=
    List.forall₂_map_left_iff.mpr (hms.imp fun _ _ hm => hm.identity_andThen)
  rw [edges_gather helementary htransform, edges_separate helementary]
  exact forall₂_agrees (h.isInt_composed hms hrows) (h.isInt_each hidentity hrows)

/-! Scripts that neither show nor save anything. -/

section

variable {σ : Type} [Host (StateM σ)]

theorem Scene.carryOut_of_not_publishes {step : Command × Nat}
    (h : step.1.publishes = false) (scene : Scene) (before : σ) :
    ((scene.carryOut step : StateM σ _) before).1 = .ok (scene.update step.1) := by
  obtain ⟨command, cursor⟩ := step
  cases command <;> first | rfl | cases h

theorem exists_evaluate_of_not_publishes {lines : List String} {commands : List Command}
    (hfailure : (Reader.ofLines lines).transcript.failure = none)
    (hcommands : (Reader.ofLines lines).transcript.commands = commands)
    (h : ∀ command ∈ commands, command.publishes = false) (start : σ) :
    ∃ scene, ((evaluate lines : StateM σ _) start).1 = .ok scene := by
  rw [evaluate_apply]
  have hsteps : ∀ step ∈ (Reader.ofLines lines).transcript.steps,
      step.1.publishes = false :=
    fun step hstep => h step.1 (hcommands ▸ List.mem_map_of_mem hstep)
  generalize hread : (Reader.ofLines lines).transcript = t at hfailure hsteps
  rcases Scene.perform_cases Scene.empty t.steps start with ⟨after, hall⟩ |
    ⟨done, failing, undone, reached, e, after, hsplit, -, hfailing, -⟩
  · exact ⟨_, by rw [hall, Transcript.conclude, hfailure]⟩
  · have hok := Scene.carryOut_of_not_publishes (hsteps failing (by simp [hsplit]))
      (Scene.empty.updateAll (done.map Prod.fst)) reached
    rw [hfailing] at hok
    cases hok

end

/-- As long as no integer on the way is beyond two to the power 24, rows of integers
put through a composition of matrices of integers come out exact, and as they do when
they are put through the matrices one after another, the first first. So a script that
gathers transformations and applies them once moves its points to the same places as
one that applies each of them in turn, from the identity on; scaling and moving by
integers is of this kind. -/
theorem composed_transforms_act_in_order :
    (∀ (ms : List (Matrix Single)) (wholes : List (Matrix Int)) (rows : List (Row Single))
      (wholeRows : List (Row Int)),
      Forall₂ Matrix.IsInt ms wholes → Forall₂ Row.IsInt rows wholeRows →
        Bounded wholes wholeRows →
        let once := rows.map fun row => row.times (Matrix.composed ms)
        let each := rows.map fun row => ms.foldl Row.times row
        let exact := wholeRows.map fun row => wholes.foldl Row.times row
        (wholeRows.map fun row => row.times (Matrix.composed wholes)) = exact ∧
          Forall₂ Row.IsInt once exact ∧ Forall₂ Row.IsInt each exact ∧
            Forall₂ Row.Agrees once each) ∧
      (∀ (t : Triple) (entries : Row Int), t.row.IsInt entries →
        (Command.scale t).Adds (.diagonal entries) ∧
          (Command.move t).Adds (.displacing entries)) ∧
      ∀ (lines otherLines : List String) (earlier moves : List Command)
        (wholes : List (Matrix Int)) (wholeRows : List (Row Int)),
        (Reader.ofLines lines).transcript.commands = earlier ++ (moves ++ [.apply]) →
          (Reader.ofLines otherLines).transcript.commands =
            earlier ++ moves.flatMap (fun command => [.ident, command, .apply]) →
          (Scene.empty.updateAll earlier).transform = .identity →
          Forall₂ Row.IsInt (Scene.empty.updateAll earlier).edges.toList wholeRows →
          Forall₂ Command.Adds moves wholes → Bounded wholes wholeRows →
          ∀ {σ : Type} [Host (StateM σ)] (start otherStart : σ),
            let result := ((evaluate lines : StateM σ _) start).1
            let otherResult := ((evaluate otherLines : StateM σ _) otherStart).1
            (∀ scene other, result = .ok scene → otherResult = .ok other →
              Forall₂ Row.Agrees scene.edges.toList other.edges.toList) ∧
              ((∀ command ∈ earlier, command.publishes = false) →
                (Reader.ofLines lines).transcript.failure = none →
                (Reader.ofLines otherLines).transcript.failure = none →
                  (∃ scene, result = .ok scene) ∧ ∃ other, otherResult = .ok other) := by
  refine ⟨fun ms wholes rows wholeRows hms hrows h => ?_,
    fun t entries ht => ⟨Command.adds_scale ht, Command.adds_move ht⟩, ?_⟩
  · intro once each exact
    have honce : Forall₂ Row.IsInt once exact := h.isInt_composed hms hrows
    have heach : Forall₂ Row.IsInt each exact := h.isInt_each hms hrows
    exact ⟨List.map_congr_left fun row _ => row.times_composed wholes, honce, heach,
      forall₂_agrees honce heach⟩
  · intro lines otherLines earlier moves wholes wholeRows hlines hother htransform hrows
        hmoves h σ _ start
      otherStart result otherResult
    refine ⟨fun scene other hrun hotherRun => ?_,
      fun hearlier hfailure hotherFailure => ?_⟩
    · obtain ⟨-, rfl⟩ := eq_updateAll_of_evaluate (Prod.ext hrun rfl)
      obtain ⟨-, rfl⟩ := eq_updateAll_of_evaluate (Prod.ext hotherRun rfl)
      rw [hlines, hother, Scene.updateAll_append _ earlier (moves ++ [Command.apply]),
        Scene.updateAll_append _ earlier]
      exact Scene.gather_agrees_separate htransform hmoves hrows h
    · have hquiet : ∀ command ∈ moves, command.publishes = false :=
        Command.not_publishes_of_adds hmoves
      refine ⟨exists_evaluate_of_not_publishes hfailure hlines ?_ start,
        exists_evaluate_of_not_publishes hotherFailure hother ?_ otherStart⟩
      · simp only [List.forall_mem_append, List.forall_mem_singleton]
        exact ⟨hearlier, hquiet, rfl⟩
      · refine List.forall_mem_append.mpr ⟨hearlier, fun command hcommand => ?_⟩
        obtain ⟨move, hmove, hmem⟩ := List.mem_flatMap.mp hcommand
        simp only [List.mem_cons, List.not_mem_nil, or_false] at hmem
        rcases hmem with rfl | rfl | rfl
        · rfl
        · exact hquiet _ hmove
        · rfl

theorem composed_transforms_act_in_order_two :
    let lines := ["line", "3 4 0 5 5 5", "move", "1 0 0", "scale", "2 2 2", "apply"]
    let otherLines :=
      ["line", "3 4 0 5 5 5", "ident", "move", "1 0 0", "apply", "ident", "scale",
        "2 2 2", "apply"]
    let start : World := .start .empty [] ⟨[], none⟩
    ∃ scene other : Scene, ((evaluate lines : StateM World _) start).1 = .ok scene ∧
      ((evaluate otherLines : StateM World _) start).1 = .ok other ∧
      Forall₂ Row.Agrees scene.edges.toList other.edges.toList ∧
      scene.edges = #[#v[8, 8, 0, 1], #v[12, 10, 10, 1]] := by
  intro lines otherLines start
  let earlier : List Command :=
    [.line ⟨(3 : Int), (4 : Int), (0 : Int)⟩ ⟨(5 : Int), (5 : Int), (5 : Int)⟩]
  let moves : List Command :=
    [.move ⟨(1 : Int), (0 : Int), (0 : Int)⟩, .scale ⟨(2 : Int), (2 : Int), (2 : Int)⟩]
  let wholes : List (Matrix Int) := [.displacing #v[1, 0, 0, 1], .diagonal #v[2, 2, 2, 1]]
  let wholeRows : List (Row Int) := [#v[3, 4, 0, 1], #v[5, 5, 5, 1]]
  have hrows : Forall₂ Row.IsInt (Scene.empty.updateAll earlier).edges.toList wholeRows :=
    .cons (Triple.isInt_row (by decide) (by decide) (by decide))
      (.cons (Triple.isInt_row (by decide) (by decide) (by decide)) .nil)
  have hmoves : Forall₂ Command.Adds moves wholes :=
    .cons (Command.adds_move (Triple.isInt_row (by decide) (by decide) (by decide)))
      (.cons (Command.adds_scale (Triple.isInt_row (by decide) (by decide) (by decide)))
        .nil)
  have hbounded : Bounded wholes wholeRows :=
    ⟨by decide +kernel, by decide +kernel, by decide +kernel⟩
  obtain ⟨-, -, hscripts⟩ := composed_transforms_act_in_order
  have hedges : ((evaluate lines : StateM World _) start).1.toOption.map Scene.edges =
      some #[#v[8, 8, 0, 1], #v[12, 10, 10, 1]] := by decide +kernel
  obtain ⟨hagrees, hsucceed⟩ :=
    hscripts lines otherLines earlier moves wholes wholeRows (by decide +kernel)
      (by decide +kernel) rfl hrows hmoves hbounded start start
  obtain ⟨⟨scene, hscene⟩, other, hother⟩ :=
    hsucceed (by decide) (by decide +kernel) (by decide +kernel)
  rw [hscene] at hedges
  exact ⟨scene, other, hscene, hother, hagrees scene other hscene hother,
    Option.some.inj hedges⟩

end Wireframe
