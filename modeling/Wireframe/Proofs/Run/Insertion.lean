import Wireframe.Proofs.Run.Deliveries
import Wireframe.Proofs.Script.Grammar

/-!
Blocks that show or save pictures, added to a script or taken out of it. They only look at
the scene, so the rest of the script does what it does without them.
-/

namespace Wireframe

structure Piece where
  block : List String × Command
  /-- It is not one of those that were there before. -/
  added : Bool

def Piece.command (piece : Piece) : Command :=
  piece.block.2

namespace Piece

def kept (pieces : List Piece) : List Piece :=
  pieces.filter fun piece => !piece.added

variable {piece : Piece}

theorem kept_cons_of_added (h : piece.added) (pieces : List Piece) :
    kept (piece :: pieces) = kept pieces :=
  List.filter_cons_of_neg (by simpa using h)

theorem kept_cons_of_not_added (h : ¬ piece.added) (pieces : List Piece) :
    kept (piece :: pieces) = piece :: kept pieces :=
  List.filter_cons_of_pos (by simpa using h)

end Piece

/-- A script to which blocks have been added that show or save pictures. -/
structure Insertion where
  pieces : List Piece
  block : ∀ piece ∈ pieces, Block piece.block.1 piece.block.2
  publishes : ∀ piece ∈ pieces, piece.added → piece.command.publishes

/-! What is handed over at each block. -/

namespace Scene

variable {pieces : List Piece} {command : Command}

theorem update_of_publishes (h : command.publishes) (scene : Scene) :
    scene.update command = scene := by
  cases command with
  | display => rfl
  | save path => rfl
  | _ => cases h

def handed (scene : Scene) : List Piece → List (Piece × List Delivery)
  | [] => []
  | piece :: pieces =>
      (piece, scene.delivery piece.command) :: (scene.update piece.command).handed pieces

theorem map_fst_handed (scene : Scene) (pieces : List Piece) :
    (scene.handed pieces).map Prod.fst = pieces := by
  induction pieces generalizing scene with
  | nil => rfl
  | cons piece pieces ih => exact congrArg (piece :: ·) (ih _)

theorem flatMap_snd_handed (scene : Scene) (pieces : List Piece) :
    (scene.handed pieces).flatMap Prod.snd =
      scene.deliveries (pieces.map Piece.command) := by
  induction pieces generalizing scene with
  | nil => rfl
  | cons piece pieces ih =>
      rw [handed, List.flatMap_cons, ih]
      rfl

theorem delivers_of_mem_handed (h : ∀ piece ∈ pieces, piece.command.Encodes)
    (scene : Scene) :
    ∀ entry ∈ scene.handed pieces, entry.1.command.Delivers entry.2 := by
  induction pieces generalizing scene with
  | nil => exact List.forall_mem_nil _
  | cons piece pieces ih =>
      obtain ⟨hpiece, hpieces⟩ := List.forall_mem_cons.mp h
      exact List.forall_mem_cons.mpr ⟨scene.delivers_delivery hpiece, ih hpieces _⟩

section

variable (h : ∀ piece ∈ pieces, piece.added → piece.command.publishes)
include h

theorem updateAll_kept (scene : Scene) :
    scene.updateAll ((Piece.kept pieces).map Piece.command) =
      scene.updateAll (pieces.map Piece.command) := by
  induction pieces generalizing scene with
  | nil => rfl
  | cons piece pieces ih =>
      obtain ⟨hpiece, hpieces⟩ := List.forall_mem_cons.mp h
      by_cases hadded : piece.added
      · rw [Piece.kept_cons_of_added hadded, ih hpieces]
        exact congrArg (updateAll · _) (update_of_publishes (hpiece hadded) scene).symm
      · rw [Piece.kept_cons_of_not_added hadded]
        exact ih hpieces (scene.update piece.command)

theorem handed_kept (scene : Scene) :
    scene.handed (Piece.kept pieces) = (scene.handed pieces).filter fun entry =>
      !entry.1.added := by
  induction pieces generalizing scene with
  | nil => rfl
  | cons piece pieces ih =>
      obtain ⟨hpiece, hpieces⟩ := List.forall_mem_cons.mp h
      by_cases hadded : piece.added
      · rw [Piece.kept_cons_of_added hadded, handed, update_of_publishes (hpiece hadded),
          List.filter_cons_of_neg (by simpa using hadded), ih hpieces]
      · rw [Piece.kept_cons_of_not_added hadded, handed, handed,
          List.filter_cons_of_pos (by simpa using hadded), ih hpieces]

end

end Scene

theorem exists_last_of_exists_mem {α : Type} {p : α → Prop} {xs : List α}
    (h : ∃ x ∈ xs, p x) :
    ∃ front x back, xs = front ++ x :: back ∧ p x ∧ ∀ y ∈ back, ¬ p y := by
  induction xs with
  | nil =>
      obtain ⟨x, hx, -⟩ := h
      cases hx
  | cons x xs ih =>
      by_cases hlater : ∃ y ∈ xs, p y
      · obtain ⟨front, y, back, rfl, hy, hback⟩ := ih hlater
        exact ⟨x :: front, y, back, rfl, hy, hback⟩
      · obtain ⟨y, hy, hp⟩ := h
        rcases List.mem_cons.mp hy with rfl | hy
        · exact ⟨[], y, xs, rfl, hp, fun z hz hpz => hlater ⟨z, hz, hpz⟩⟩
        · exact absurd ⟨y, hy, hp⟩ hlater

/-! What is left of a picture on disk. -/

def Piece.Saves (piece : Piece) (disk : Disk) (location : Location) : Prop :=
  ∃ path, piece.command = .save path ∧ disk.Names path location

namespace Disk

variable {disk other before after : Disk} {location : Location} {path : String}
  {image : Image} {scene : Scene}

section

variable {pieces : List Piece}
  (h : before.Kept after scene ⟨pieces.map Piece.command, none⟩)
include h

theorem Kept.holds_last {front back : List Piece} {piece : Piece}
    (hpieces : pieces = front ++ piece :: back) (hcommand : piece.command = .save path)
    (hnames : before.Names path location)
    (hlast : ∀ later ∈ back, ¬ later.Saves before location) :
    after.Holds location path
      (scene.updateAll (front.map Piece.command)).render.image := by
  have hdone : pieces.map Piece.command = front.map Piece.command ++
      .save path :: back.map Piece.command := by
    rw [hpieces, List.map_append, List.map_cons, hcommand]
  obtain ⟨place, hplace, hholds⟩ := h.saved _ path _ hdone
  obtain rfl := hplace.unique hnames
  refine (hholds fun other hother hnames => ?_).resolve_right ?_
  · obtain ⟨later, hlater, hcommand⟩ := List.mem_map.mp hother
    exact hlast later hlater ⟨other, hcommand, hnames⟩
  · rintro ⟨other, -, hemptied⟩
    cases hemptied.failing

theorem Kept.get?_of_not_saves (hnone : ∀ piece ∈ pieces, ¬ piece.Saves before location) :
    after.get? location = before.get? location := by
  have hothers : ∀ path, .save path ∈ pieces.map Piece.command →
      ¬ before.Names path location := by
    intro path hpath hnames
    obtain ⟨piece, hpiece, hcommand⟩ := List.mem_map.mp hpath
    exact hnone piece hpiece ⟨path, hcommand, hnames⟩
  rcases h.others location hothers with heq | ⟨path, hemptied⟩
  · exact heq
  · cases hemptied.failing

end

end Disk

namespace Insertion

def whole (i : Insertion) : List String :=
  (i.pieces.map fun piece => piece.block.1).flatten

def original (i : Insertion) : List String :=
  ((Piece.kept i.pieces).map fun piece => piece.block.1).flatten

/-- The run of the whole script does not end at a block that has been added. -/
def Succeeds (i : Insertion) (world : World) : Prop :=
  ∀ piece, i.pieces[(progress i.whole world).done.length]? = some piece → ¬ piece.added

def Spares (i : Insertion) (disk : Disk) (location : Location) : Prop :=
  ∀ piece ∈ i.pieces, piece.added → ¬ piece.Saves disk location

variable (i : Insertion)

theorem cut_whole : Cut i.whole (i.pieces.map Piece.block) where
  flatten_eq := by
    rw [List.map_map]
    rfl
  block := List.forall_mem_map.mpr i.block

theorem cut_original : Cut i.original ((Piece.kept i.pieces).map Piece.block) where
  flatten_eq := by
    rw [List.map_map]
    rfl
  block := List.forall_mem_map.mpr fun piece hpiece =>
    i.block piece (List.mem_of_mem_filter hpiece)

theorem transcript_whole :
    let t := (Reader.ofLines i.whole).transcript
    t.failure = none ∧ t.commands = i.pieces.map Piece.command := by
  obtain ⟨hfailure, hcommands, -⟩ := Reader.transcript_of_cut i.cut_whole 0
  rw [List.map_map] at hcommands
  exact ⟨hfailure, hcommands⟩

theorem transcript_original :
    let t := (Reader.ofLines i.original).transcript
    t.failure = none ∧ t.commands = (Piece.kept i.pieces).map Piece.command := by
  obtain ⟨hfailure, hcommands, -⟩ := Reader.transcript_of_cut i.cut_original 0
  rw [List.map_map] at hcommands
  exact ⟨hfailure, hcommands⟩

theorem succeeds_iff (world : World) (scene : Scene) :
    ((evaluate i.whole : StateM World _) world).1 = .ok scene ↔
      ((evaluate i.original : StateM World _) world).1 = .ok scene ∧
      i.Succeeds world := by
  have hwhole := World.evaluate_cases i.transcript_whole.1 world
  have horiginal := World.evaluate_cases i.transcript_original.1 world
  simp only [i.transcript_whole.2] at hwhole
  simp only [i.transcript_original.2] at horiginal
  rcases hwhole with ⟨hallowed, hdone, hrun⟩ | ⟨command, e, hat, hnot, hrun⟩
  · have hsucceeds : i.Succeeds world := by
      intro piece hpiece
      rw [hdone, List.length_map, List.getElem?_length] at hpiece
      cases hpiece
    rcases horiginal with ⟨-, -, horiginal⟩ | ⟨command, e, hat, hnot, -⟩
    · rw [hrun, horiginal, Scene.updateAll_kept i.publishes]
      exact (and_iff_left hsucceeds).symm
    · obtain ⟨piece, hpiece, rfl⟩ := List.mem_map.mp (List.mem_of_getElem? hat)
      exact absurd (hallowed _ (List.mem_map_of_mem (List.mem_of_mem_filter hpiece))) hnot
  · refine iff_of_false (by rw [hrun]; exact nofun) fun ⟨hok, hsucceeds⟩ => ?_
    rcases horiginal with ⟨hallowed, -, -⟩ | ⟨_, e', -, -, horiginal⟩
    · rw [List.getElem?_map, Option.map_eq_some_iff] at hat
      obtain ⟨piece, hpiece, rfl⟩ := hat
      have hkept : piece ∈ Piece.kept i.pieces :=
        List.mem_filter.mpr ⟨List.mem_of_getElem? hpiece,
          by simpa using hsucceeds piece hpiece⟩
      exact hnot (hallowed _ (List.mem_map_of_mem hkept))
    · rw [horiginal] at hok
      cases hok

theorem get?_of_kept {before after other : Disk} {location : Location}
    (hwhole : before.Kept after .empty ⟨i.pieces.map Piece.command, none⟩)
    (horiginal : before.Kept other .empty ⟨(Piece.kept i.pieces).map Piece.command, none⟩)
    (hspares : i.Spares before location) : after.get? location = other.get? location := by
  by_cases hnamed : ∃ piece ∈ i.pieces, piece.Saves before location
  -- The last block that saves in the file has not been added, so it is the
  -- last in both scripts.
  · obtain ⟨front, piece, back, hpieces, ⟨path, hcommand, hnames⟩, hlast⟩ :=
      exists_last_of_exists_mem hnamed
    have hpiece : piece ∈ i.pieces := hpieces ▸ List.mem_append_right front (.head _)
    have hadded : ¬ piece.added := fun hadded =>
      hspares piece hpiece hadded ⟨path, hcommand, hnames⟩
    have hkept : Piece.kept i.pieces = Piece.kept front ++ piece :: Piece.kept back := by
      rw [hpieces, Piece.kept, List.filter_append, ← Piece.kept, ← Piece.kept,
        Piece.kept_cons_of_not_added hadded]
    have hpublishes : ∀ earlier ∈ front, earlier.added → earlier.command.publishes :=
      fun earlier hearlier =>
        i.publishes earlier (hpieces ▸ List.mem_append_left _ hearlier)
    have hholds := hwhole.holds_last hpieces hcommand hnames hlast
    have hholds' := horiginal.holds_last hkept hcommand hnames fun later hlater =>
      hlast later (List.mem_of_mem_filter hlater)
    rw [Scene.updateAll_kept hpublishes] at hholds'
    exact hholds.get?_eq hholds'
  · have hnone : ∀ piece ∈ i.pieces, ¬ piece.Saves before location :=
      fun piece hpiece hsaves =>
        hnamed ⟨piece, hpiece, hsaves⟩
    rw [hwhole.get?_of_not_saves hnone,
      horiginal.get?_of_not_saves fun piece hpiece =>
        hnone piece (List.mem_of_mem_filter hpiece)]

section

variable {σ : Type} [Host (StateM σ)] {i : Insertion} {start finish finish' : σ}
  {scene scene' : Scene}
  (h : (evaluate i.original : StateM σ _) start = (.ok scene, finish))
  (h' : (evaluate i.whole : StateM σ _) start = (.ok scene', finish'))
include h h'

theorem scene_eq : scene' = scene := by
  rw [(eq_updateAll_of_evaluate h).2, (eq_updateAll_of_evaluate h').2,
    i.transcript_whole.2, i.transcript_original.2, Scene.updateAll_kept i.publishes]

theorem exists_handed :
    ∃ handed : List (Piece × List Delivery), handed.map Prod.fst = i.pieces ∧
      (∀ entry ∈ handed, entry.1.command.Delivers entry.2) ∧
      deliveries i.whole start = handed.flatMap Prod.snd ∧
      deliveries i.original start =
        (handed.filter fun entry => !entry.1.added).flatMap Prod.snd := by
  obtain ⟨hencodes, hwhole⟩ := deliveries_of_evaluate h'
  obtain ⟨-, horiginal⟩ := deliveries_of_evaluate h
  rw [i.transcript_whole.2] at hencodes hwhole
  rw [i.transcript_original.2] at horiginal
  refine ⟨Scene.empty.handed i.pieces, Scene.map_fst_handed _ _, ?_, ?_, ?_⟩
  · exact Scene.delivers_of_mem_handed (List.forall_mem_map.mp hencodes) _
  · rw [hwhole, Scene.flatMap_snd_handed]
  · rw [horiginal, ← Scene.handed_kept i.publishes, Scene.flatMap_snd_handed]

theorem get?_eq {disk : σ → Disk} (hdisk : KeepsDisk disk) {location : Location}
    (hspares : i.Spares (disk start) location) :
    (disk finish').get? location = (disk finish).get? location := by
  have hwhole := hdisk.kept_evaluate i.whole start
  have horiginal := hdisk.kept_evaluate i.original start
  rw [h', progress_of_evaluate h', i.transcript_whole.2] at hwhole
  rw [h, progress_of_evaluate h, i.transcript_original.2] at horiginal
  exact i.get?_of_kept hwhole horiginal hspares

end

end Insertion

/-- Blocks that show or save a picture can be added to a script that succeeds, or taken
out of it. If both scripts succeed, in whatever surroundings, they end with the same
scene, and at the blocks that they share the same images are shown and the same pictures
written, one at each block that is to publish one; files that no added save names hold the
same. In a world, the whole script succeeds with a scene exactly if the original does and
the run does not end at a block that has been added. -/
theorem publishing_only_observes :
    (∀ {σ : Type} [Host (StateM σ)] (lines : List String) (start : σ),
      (∀ (scene : Scene) (finish : σ),
        (evaluate lines : StateM σ _) start = (.ok scene, finish) →
        ∃ blocks, Cut lines blocks) ∧
      let traced := (evaluate lines : StateM (Traced σ) _) ⟨start, []⟩
      (traced.1, traced.2.outside) = (evaluate lines : StateM σ _) start) ∧
    ∀ i : Insertion,
      (∀ {σ : Type} [Host (StateM σ)] (start finish finish' : σ) (scene scene' : Scene),
        (evaluate i.original : StateM σ _) start = (.ok scene, finish) →
          (evaluate i.whole : StateM σ _) start = (.ok scene', finish') →
            scene' = scene ∧
            (∃ handed : List (Piece × List Delivery), handed.map Prod.fst = i.pieces ∧
              (∀ entry ∈ handed, entry.1.command.Delivers entry.2) ∧
              deliveries i.whole start = handed.flatMap Prod.snd ∧
              deliveries i.original start =
                (handed.filter fun entry => !entry.1.added).flatMap Prod.snd) ∧
            ∀ {disk : σ → Disk}, KeepsDisk disk →
              ∀ location, i.Spares (disk start) location →
              (disk finish').get? location = (disk finish).get? location) ∧
      ∀ (world : World) (scene : Scene),
        ((evaluate i.whole : StateM World _) world).1 = .ok scene ↔
          ((evaluate i.original : StateM World _) world).1 = .ok scene ∧
          i.Succeeds world := by
  refine ⟨fun lines start => ⟨fun scene finish h => ?_,
    Traced.evaluate_traced lines start []⟩, fun i => ⟨?_, ?_⟩⟩
  · exact Reader.exists_cut_of_transcript (Reader.ofLines lines)
      (eq_updateAll_of_evaluate h).1
  · intro σ _ start finish finish' scene scene' h h'
    refine ⟨Insertion.scene_eq h h', Insertion.exists_handed h h',
      fun hdisk location hspares => ?_⟩
    exact Insertion.get?_eq h h' hdisk hspares
  · exact i.succeeds_iff

theorem publishing_only_observes_around_line :
    let pieces : List Piece :=
      [⟨(["save", "b.png"], .save "b.png"), true⟩,
        ⟨(["line", "0 0 0 4 2 0"], .line ⟨0, 0, 0⟩ ⟨4, 2, 0⟩), false⟩,
        ⟨(["display"], .display), true⟩, ⟨(["save", "a.png"], .save "a.png"), false⟩]
    let whole := ["save", "b.png", "line", "0 0 0 4 2 0", "display", "save", "a.png"]
    let original := ["line", "0 0 0 4 2 0", "save", "a.png"]
    let start : World := .start .empty [] ⟨[], none⟩
    let scene : Scene := ⟨#[#v[0, 0, 0, 1], #v[4, 2, 0, 1]], .identity⟩
    let run := (evaluate whole : StateM World _) start
    let other := (evaluate original : StateM World _) start
    other.1 = .ok scene ∧ run.1 = .ok scene ∧
      run.2.disk.get? ["a.png"] = other.2.disk.get? ["a.png"] ∧
      ∃ handed : List (Piece × List Delivery), handed.map Prod.fst = pieces ∧
        deliveries whole start = handed.flatMap Prod.snd ∧
        deliveries original start =
          (handed.filter fun entry => !entry.1.added).flatMap Prod.snd := by
  intro pieces whole original start scene run other
  let i : Insertion := ⟨pieces, by decide +kernel, by decide +kernel⟩
  have hother : other.1 = .ok scene := by decide +kernel
  have hsucceeds : i.Succeeds start := by
    intro piece hpiece
    have hdone : (progress i.whole start).done.length = 4 := by decide +kernel
    rw [hdone] at hpiece
    cases hpiece
  have hspares : i.Spares start.disk ["a.png"] := by
    have hother : ¬ start.disk.Names "b.png" ["a.png"] := by decide +kernel
    rintro piece hpiece hadded ⟨path, hcommand, hnames⟩
    rcases List.mem_cons.mp hpiece with rfl | hpiece
    · cases hcommand
      exact hother hnames
    · have hlater : ∀ piece ∈ pieces.tail, piece.added → piece.command = .display := by
        decide +kernel
      rw [hlater piece hpiece hadded] at hcommand
      cases hcommand
  obtain ⟨-, hscripts⟩ := publishing_only_observes
  obtain ⟨hhosts, hworlds⟩ := hscripts i
  have hrun : run.1 = .ok scene := (hworlds start scene).mpr ⟨hother, hsucceeds⟩
  obtain ⟨-, ⟨handed, hpieces, -, hwhole, horiginal⟩, hfiles⟩ :=
    hhosts start other.2 run.2 scene scene (Prod.ext hother rfl) (Prod.ext hrun rfl)
  exact ⟨hother, hrun, hfiles World.keepsDisk ["a.png"] hspares, handed, hpieces, hwhole,
    horiginal⟩

end Wireframe
