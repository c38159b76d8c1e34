import Mathlib.Data.List.Perm.Basic
import Mathlib.Logic.Relation
import Wireframe.Proofs.Run.Interleaving
import Wireframe.Proofs.Scene.Meaning
import Wireframe.Proofs.Script.Grammar

/-!
Scripts with their blocks in another order. A line is drawn where it is told to be,
whatever has been gathered by then, so it can change places with a command next to it that
only changes the transformation.
-/

namespace Wireframe

open Relation (ReflTransGen)

/-! Lists in which some elements are free to pass some others. -/

section

variable {α : Type}

/-- An element with `p` and one with `q`, next to each other, change places. -/
inductive Swaps (p q : α → Bool) : List α → List α → Prop
  | forth (front back : List α) {a b : α} (ha : p a) (hb : q b) :
      Swaps p q (front ++ a :: b :: back) (front ++ b :: a :: back)
  | back (front back : List α) {a b : α} (ha : p a) (hb : q b) :
      Swaps p q (front ++ b :: a :: back) (front ++ a :: b :: back)

variable {p q : α → Bool} {xs ys : List α}

namespace Swaps

theorem cons (x : α) (h : Swaps p q xs ys) : Swaps p q (x :: xs) (x :: ys) := by
  cases h with
  | forth front back ha hb => exact .forth (x :: front) back ha hb
  | back front back ha hb => exact .back (x :: front) back ha hb

theorem symm (h : Swaps p q xs ys) : Swaps p q ys xs := by
  cases h with
  | forth front back ha hb => exact .back front back ha hb
  | back front back ha hb => exact .forth front back ha hb

theorem comm (h : Swaps p q xs ys) : Swaps q p xs ys := by
  cases h with
  | forth front back ha hb => exact .back front back hb ha
  | back front back ha hb => exact .forth front back hb ha

theorem perm (h : Swaps p q xs ys) : xs.Perm ys := by
  cases h with
  | forth front back _ _ => exact (List.Perm.swap _ _ _).append_left front
  | back front back _ _ => exact (List.Perm.swap _ _ _).append_left front

theorem filter_eq (h : Swaps p q xs ys) :
    (xs.filter fun a => !q a) = ys.filter fun a => !q a := by
  cases h with
  | forth front back _ hb => simp [List.filter_cons, hb]
  | back front back _ hb => simp [List.filter_cons, hb]

theorem map {β : Type} {xs ys : List β} (f : β → α)
    (h : Swaps (fun b => p (f b)) (fun b => q (f b)) xs ys) :
    Swaps p q (xs.map f) (ys.map f) := by
  cases h with
  | forth front back ha hb =>
      rw [List.map_append, List.map_append]
      exact .forth _ _ ha hb
  | back front back ha hb =>
      rw [List.map_append, List.map_append]
      exact .back _ _ ha hb

end Swaps

/-- Elements with `p` move past neighbours with `q`, any number of times. -/
def Rearranges (p q : α → Bool) : List α → List α → Prop :=
  ReflTransGen (Swaps p q)

namespace Rearranges

theorem cons (x : α) (h : Rearranges p q xs ys) : Rearranges p q (x :: xs) (x :: ys) :=
  h.lift (x :: ·) fun _ _ hswap => hswap.cons x

theorem symm (h : Rearranges p q xs ys) : Rearranges p q ys xs := by
  induction h with
  | refl => exact .refl
  | tail _ hswap ih => exact .head hswap.symm ih

theorem comm (h : Rearranges p q xs ys) : Rearranges q p xs ys := by
  induction h with
  | refl => exact .refl
  | tail _ hswap ih => exact ih.tail hswap.comm

theorem perm (h : Rearranges p q xs ys) : xs.Perm ys := by
  induction h with
  | refl => exact .refl _
  | tail _ hswap ih => exact ih.trans hswap.perm

theorem filter_eq (h : Rearranges p q xs ys) :
    (xs.filter fun a => !q a) = ys.filter fun a => !q a := by
  induction h with
  | refl => rfl
  | tail _ hswap ih => exact ih.trans hswap.filter_eq

theorem map {β : Type} {xs ys : List β} (f : β → α)
    (h : Rearranges (fun b => p (f b)) (fun b => q (f b)) xs ys) :
    Rearranges p q (xs.map f) (ys.map f) := by
  induction h with
  | refl => exact .refl
  | tail _ hswap ih => exact ih.tail (hswap.map f)

theorem toFront {front : List α} {a : α} (ha : p a) (hfront : ∀ b ∈ front, q b)
    (back : List α) :
    Rearranges p q (front ++ a :: back) (a :: (front ++ back)) := by
  induction front with
  | nil => exact .refl
  | cons b front ih =>
      obtain ⟨hb, hrest⟩ := List.forall_mem_cons.mp hfront
      exact ((ih hrest).cons b).tail (.back [] (front ++ back) ha hb)

theorem exists_toFront {x : α} (hx : p x) (hnot : ¬ q x)
    (hkept : ((x :: xs).filter fun a => !q a) = ys.filter fun a => !q a)
    (hother : ((x :: xs).filter fun a => !p a) = ys.filter fun a => !p a) :
    ∃ rest, Rearranges p q ys (x :: rest) ∧
      ((xs.filter fun a => !q a) = rest.filter fun a => !q a) ∧
      (xs.filter fun a => !p a) = rest.filter fun a => !p a := by
  rw [List.filter_cons_of_pos (by simpa using hnot), eq_comm, List.filter_eq_cons_iff]
    at hkept
  obtain ⟨front, back, rfl, hfront, -, hback⟩ := hkept
  have hfront : ∀ b ∈ front, q b := fun b hb => by simpa using hfront b hb
  have hdropped : (front.filter fun a => !q a) = [] := by
    simpa using hfront
  refine ⟨front ++ back, toFront hx hfront back, ?_, ?_⟩
  · rw [List.filter_append, hdropped, hback, List.nil_append]
  · rwa [List.filter_cons_of_neg (by simpa using hx), List.filter_append,
      List.filter_cons_of_neg (by simpa using hx), ← List.filter_append] at hother

variable (hdisjoint : ∀ a, p a → ¬ q a)
include hdisjoint

theorem exists_cons {x : α} (hp : ¬ p x) (hq : ¬ q x)
    (hkept : ((x :: xs).filter fun a => !q a) = ys.filter fun a => !q a)
    (hother : ((x :: xs).filter fun a => !p a) = ys.filter fun a => !p a) :
    ∃ rest, ys = x :: rest ∧ ((xs.filter fun a => !q a) = rest.filter fun a => !q a) ∧
      (xs.filter fun a => !p a) = rest.filter fun a => !p a := by
  rw [List.filter_cons_of_pos (by simpa using hq)] at hkept
  rw [List.filter_cons_of_pos (by simpa using hp)] at hother
  cases ys with
  | nil => cases hkept
  | cons y rest =>
      have heq : x = y := by
        by_cases hy : q y
        · have hy' : ¬ p y := fun h => hdisjoint y h hy
          rw [List.filter_cons_of_pos (by simpa using hy')] at hother
          exact (List.cons.inj hother).1
        · rw [List.filter_cons_of_pos (by simpa using hy)] at hkept
          exact (List.cons.inj hkept).1
      subst heq
      rw [List.filter_cons_of_pos (by simpa using hq)] at hkept
      rw [List.filter_cons_of_pos (by simpa using hp)] at hother
      exact ⟨rest, rfl, (List.cons.inj hkept).2, (List.cons.inj hother).2⟩

theorem of_filter_eq (hkept : (xs.filter fun a => !q a) = ys.filter fun a => !q a)
    (hother : (xs.filter fun a => !p a) = ys.filter fun a => !p a) :
    Rearranges p q xs ys := by
  induction xs generalizing ys with
  | nil =>
      have hnone : ys = [] := by
        refine List.eq_nil_iff_forall_not_mem.mpr fun y hy => ?_
        have hq : q y := by simpa using List.filter_eq_nil_iff.mp hkept.symm y hy
        have hp : p y := by simpa using List.filter_eq_nil_iff.mp hother.symm y hy
        exact hdisjoint y hp hq
      rw [hnone]
      exact .refl
  | cons x xs ih =>
      by_cases hp : p x
      · obtain ⟨rest, hmove, hkept, hother⟩ :=
          exists_toFront hp (hdisjoint x hp) hkept hother
        exact ((ih hkept hother).cons x).trans hmove.symm
      · by_cases hq : q x
        · obtain ⟨rest, hmove, hother, hkept⟩ := exists_toFront hq hp hother hkept
          exact ((ih hkept hother).cons x).trans hmove.comm.symm
        · obtain ⟨rest, rfl, hkept, hother⟩ := exists_cons hdisjoint hp hq hkept hother
          exact (ih hkept hother).cons x

/-- What stays is the order of the elements with `p` and of those with `q`, among
themselves and to all others. -/
theorem iff_filter_eq :
    Rearranges p q xs ys ↔ ((xs.filter fun a => !q a) = ys.filter fun a => !q a) ∧
      (xs.filter fun a => !p a) = ys.filter fun a => !p a :=
  ⟨fun h => ⟨h.filter_eq, h.comm.filter_eq⟩, fun h => of_filter_eq hdisjoint h.1 h.2⟩

end Rearranges

end

/-! Commands that can change places. -/

namespace Command

def transforms : Command → Bool
  | ident => true
  | scale _ => true
  | move _ => true
  | rotate .. => true
  | _ => false

variable {command other : Command}

theorem not_transforms_of_isLine (h : command.isLine) : ¬ command.transforms := by
  cases command <;> cases h
  exact Bool.false_ne_true

theorem publishes_of_isLine (h : command.isLine) : command.publishes = false := by
  cases command <;> cases h
  rfl

theorem publishes_of_transforms (h : command.transforms) : command.publishes = false := by
  cases command <;> first | rfl | cases h

end Command

namespace Scene

variable {command other : Command}

theorem update_comm (hcommand : command.isLine) (hother : other.transforms)
    (scene : Scene) :
    (scene.update command).update other = (scene.update other).update command := by
  cases command <;> cases hcommand
  cases other <;> first | rfl | cases hother

section

variable {m : Type → Type} [Monad m] [LawfulMonad m] [Host m]

theorem executeAll_cons_of_not_publishes (h : command.publishes = false) (scene : Scene)
    (commands : List Command) :
    (scene.executeAll (command :: commands) : m (Except PictureError Scene)) =
      (scene.update command).executeAll commands := by
  have hquiet : (scene.publish command : m (Except PictureError Unit)) =
      pure (.ok ()) := by
    cases command <;> first | rfl | cases h
  simp only [executeAll, execute, hquiet, pure_bind]

theorem executeAll_swap (hcommand : command.isLine) (hother : other.transforms)
    (scene : Scene) (commands : List Command) :
    (scene.executeAll (command :: other :: commands) : m (Except PictureError Scene)) =
      scene.executeAll (other :: command :: commands) := by
  have hquiet := Command.publishes_of_isLine hcommand
  have hquiet' := Command.publishes_of_transforms hother
  rw [executeAll_cons_of_not_publishes hquiet, executeAll_cons_of_not_publishes hquiet',
    executeAll_cons_of_not_publishes hquiet', executeAll_cons_of_not_publishes hquiet,
    update_comm hcommand hother]

omit [LawfulMonad m] in
theorem executeAll_append_congr {commands others : List Command} (front : List Command)
    (h : ∀ scene : Scene, (scene.executeAll commands : m (Except PictureError Scene)) =
      scene.executeAll others)
    (scene : Scene) :
    (scene.executeAll (front ++ commands) : m (Except PictureError Scene)) =
      scene.executeAll (front ++ others) := by
  induction front generalizing scene with
  | nil => exact h scene
  | cons command front ih => simp only [List.cons_append, executeAll, ih]

theorem executeAll_of_swaps {commands others : List Command}
    (h : Swaps Command.isLine Command.transforms commands others) (scene : Scene) :
    (scene.executeAll commands : m (Except PictureError Scene)) =
      scene.executeAll others := by
  cases h with
  | forth front back hline htransform =>
      exact executeAll_append_congr front (fun scene =>
        executeAll_swap hline htransform scene back) scene
  | back front back hline htransform =>
      exact executeAll_append_congr front
        (fun scene => (executeAll_swap hline htransform scene back).symm) scene

theorem executeAll_of_rearranges {commands others : List Command}
    (h : Rearranges Command.isLine Command.transforms commands others) (scene : Scene) :
    (scene.executeAll commands : m (Except PictureError Scene)) =
      scene.executeAll others := by
  induction h with
  | refl => rfl
  | tail _ hswap ih => exact ih.trans (executeAll_of_swaps hswap scene)

end

end Scene

/-! Whole scripts. -/

def RearrangesBlocks (blocks others : List (List String × Command)) : Prop :=
  Rearranges (fun b => b.2.isLine) (fun b => b.2.transforms) blocks others

theorem RearrangesBlocks.cut {lines : List String}
    {blocks others : List (List String × Command)} (h : RearrangesBlocks blocks others)
    (hcut : Cut lines blocks) :
    Cut (others.map Prod.fst).flatten others :=
  ⟨rfl, fun b hb => hcut.block b (h.perm.mem_iff.mpr hb)⟩

theorem evaluate_of_cut {lines : List String} {blocks : List (List String × Command)}
    (hcut : Cut lines blocks) (world : World) :
    let run := (evaluate lines : StateM World _) world
    let executed := (Scene.empty.executeAll (blocks.map Prod.snd) : StateM World _) world
    run.1 = executed.1.mapError .picture ∧ run.2.Alike executed.2 := by
  intro run executed
  let t := (Reader.ofLines lines).transcript
  have hread : t.failure = none ∧ t.commands = blocks.map Prod.snd ∧ _ :=
    Reader.transcript_of_cut hcut 0
  obtain ⟨hfailure, hcommands, -⟩ := hread
  have hperformed := Scene.perform_alike_executeAll Scene.empty t.steps world world rfl
  rw [show t.steps.map Prod.fst = blocks.map Prod.snd from hcommands] at hperformed
  obtain ⟨hresult, halike⟩ := hperformed
  have hrun : run = (t.conclude _, _) := evaluate_apply lines world
  rw [hrun]
  refine ⟨?_, halike⟩
  rw [hresult]
  change t.conclude executed.1 = _
  cases executed.1 with
  | error e => rfl
  | ok scene => simp only [Transcript.conclude, hfailure, Except.mapError]

theorem exists_cut_of_evaluate {lines : List String} {world : World} {scene : Scene}
    (h : ((evaluate lines : StateM World _) world).1 = .ok scene) :
    ∃ blocks, Cut lines blocks :=
  Reader.exists_cut_of_transcript (Reader.ofLines lines)
    (eq_updateAll_of_evaluate (Prod.ext h rfl)).1

/-- Blocks of a script that draw lines can move past neighbours that change the
transformation; all that has to stay is the order of either kind among themselves and to
all other blocks. The commands then do the same in whatever surroundings, and the script
ends as before, with the same scene if it succeeds, and leaves the same files, windows and
reports of saved pictures. -/
theorem rearranged_script_runs_alike :
    (∀ blocks others : List (List String × Command), RearrangesBlocks blocks others ↔
      ((blocks.filter fun b => !b.2.transforms) =
        others.filter fun b => !b.2.transforms) ∧
        (blocks.filter fun b => !b.2.isLine) = others.filter fun b => !b.2.isLine) ∧
    (∀ (lines : List String) (world : World) (scene : Scene),
      ((evaluate lines : StateM World _) world).1 = .ok scene →
        ∃ blocks, Cut lines blocks) ∧
    ∀ {lines : List String} {blocks others : List (List String × Command)},
      Cut lines blocks → RearrangesBlocks blocks others →
        (∀ {m : Type → Type} [Monad m] [LawfulMonad m] [Host m],
          (Scene.empty.executeAll (others.map Prod.snd) : m (Except PictureError Scene)) =
            Scene.empty.executeAll (blocks.map Prod.snd)) ∧
        ∀ world : World,
          let run := (evaluate lines : StateM World _) world
          let other := (evaluate (others.map Prod.fst).flatten : StateM World _) world
          other.1 = run.1 ∧ other.2.files = run.2.files ∧
            other.2.windows = run.2.windows ∧
            other.2.Alike run.2 := by
  refine ⟨fun blocks others => ?_, fun lines world scene => exists_cut_of_evaluate, ?_⟩
  · exact Rearranges.iff_filter_eq fun b hline => Command.not_transforms_of_isLine hline
  · intro lines blocks others hcut h
    have hcommands := h.map Prod.snd
    refine ⟨(Scene.executeAll_of_rearranges hcommands .empty).symm, ?_⟩
    intro world run other
    obtain ⟨hresult, halike⟩ := evaluate_of_cut hcut world
    obtain ⟨hresult', halike'⟩ := evaluate_of_cut (h.cut hcut) world
    rw [← Scene.executeAll_of_rearranges hcommands] at hresult' halike'
    have hsame : other.2.Alike run.2 := halike'.trans halike.symm
    obtain ⟨hfiles, -, -, hwindows, -⟩ := World.alike_iff.mp hsame
    exact ⟨hresult'.trans hresult.symm, hfiles, hwindows, hsame⟩

theorem rearranged_script_runs_alike_two_lines :
    let blocks : List (List String × Command) :=
      [(["line", "1 0 0 0 1 0"], .line ⟨1, 0, 0⟩ ⟨0, 1, 0⟩),
        (["move", "1 0 0"], .move ⟨1, 0, 0⟩), (["apply"], .apply),
        (["scale", "2 2 2"], .scale ⟨2, 2, 2⟩),
        (["line", "0 0 0 0 0 2"], .line ⟨0, 0, 0⟩ ⟨0, 0, 2⟩), (["apply"], .apply)]
    let lines :=
      ["move", "1 0 0", "line", "1 0 0 0 1 0", "apply", "line", "0 0 0 0 0 2",
        "scale", "2 2 2", "apply"]
    let start : World := .start .empty [] ⟨[], none⟩
    ∃ scene,
      ((evaluate (blocks.map Prod.fst).flatten : StateM World _) start).1 = .ok scene ∧
      ((evaluate lines : StateM World _) start).1 = .ok scene ∧
      scene.edges =
        #[#v[6, 0, 0, 1], #v[4, 2, 0, 1], #v[2, 0, 0, 1], #v[2, 0, 4, 1]] := by
  intro blocks lines start
  let others : List (List String × Command) :=
    [(["move", "1 0 0"], .move ⟨1, 0, 0⟩),
      (["line", "1 0 0 0 1 0"], .line ⟨1, 0, 0⟩ ⟨0, 1, 0⟩),
      (["apply"], .apply), (["line", "0 0 0 0 0 2"], .line ⟨0, 0, 0⟩ ⟨0, 0, 2⟩),
      (["scale", "2 2 2"], .scale ⟨2, 2, 2⟩), (["apply"], .apply)]
  obtain ⟨horder, hcut, hruns⟩ := rearranged_script_runs_alike
  have hrearranges : RearrangesBlocks blocks others :=
    (horder blocks others).mpr (by decide +kernel)
  have hresult : ∃ scene,
    ((evaluate (blocks.map Prod.fst).flatten : StateM World _) start).1 = .ok scene ∧
      scene.edges = #[#v[6, 0, 0, 1], #v[4, 2, 0, 1], #v[2, 0, 0, 1], #v[2, 0, 4, 1]] :=
    ⟨Scene.empty.updateAll (blocks.map Prod.snd), by decide +kernel, by decide +kernel⟩
  obtain ⟨scene, hscene, hedges⟩ := hresult
  obtain ⟨found, hfound⟩ := hcut _ start scene hscene
  have hblocks : Cut (blocks.map Prod.fst).flatten blocks := by decide +kernel
  obtain rfl := hfound.unique hblocks
  obtain ⟨-, hworlds⟩ := hruns hfound hrearranges
  refine ⟨scene, hscene, ?_, hedges⟩
  rw [← hscene]
  exact (hworlds start).1

end Wireframe
