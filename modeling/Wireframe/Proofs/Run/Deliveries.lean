import Wireframe.Proofs.Run.Concatenation
import Wireframe.Proofs.Run.Success
import Wireframe.Proofs.Scene.Meaning

/-!
What a run hands over to its surroundings, in order: images for windows, and files. A run
that succeeds hands over one of them for each command to publish a picture, and it is the
picture that the scene has at this moment.
-/

namespace Wireframe

inductive Delivery where
  | shown (name : String) (image : Image)
  | written (path : String) (content : FileContent)
  deriving DecidableEq

namespace Command

/-- What a command can hand over that succeeds: one picture, if it is told to publish
it, and else nothing. -/
inductive Delivers : Command → List Delivery → Prop
  | display (image : Image) : Delivers .display [.shown Picture.imageName image]
  | save (path : String) (encoding : Encoding) (image : Image) :
      Delivers (.save path) [.written path (.image encoding image)]
  | quiet {command : Command} (h : command.publishes = false) : Delivers command []

end Command

namespace Scene

variable {command : Command}

def delivery (scene : Scene) : Command → List Delivery
  | .display => [.shown Picture.imageName scene.render.image]
  | .save path =>
      match ImageFormat.encodingOf? path with
      | none => []
      | some encoding => [.written path (.image encoding scene.render.image)]
  | _ => []

theorem delivers_delivery (scene : Scene) (h : command.Encodes) :
    command.Delivers (scene.delivery command) := by
  cases command with
  | display => exact .display _
  | save path =>
      obtain ⟨encoding, hencoding⟩ := Option.isSome_iff_exists.mp h
      rw [delivery, hencoding]
      exact .save path encoding _
  | _ => exact .quiet rfl

def deliveries (scene : Scene) : List Command → List Delivery
  | [] => []
  | command :: commands =>
      scene.delivery command ++ (scene.update command).deliveries commands

end Scene

/-- Surroundings with all that has been handed over to them, in order. -/
structure Traced (σ : Type) where
  outside : σ
  deliveries : List Delivery

namespace Traced

variable {σ α : Type}

def deliver (new : List Delivery) (f : StateM σ α) : StateM (Traced σ) α :=
  fun t => ((f t.outside).1, ⟨(f t.outside).2, t.deliveries ++ new⟩)

instance [Host (StateM σ)] : Host (StateM (Traced σ)) where
  readText path := deliver [] (Host.readText path)
  writeFile path content := deliver [.written path content] (Host.writeFile path content)
  createWindow title := deliver [] (Host.createWindow title)
  setWindowImage name image :=
    deliver [.shown name image] (Host.setWindowImage name image)
  listen := deliver [] Host.listen
  awaitLeave := deliver [] Host.awaitLeave
  log record := deliver [] (Host.log record)

def Follows (traced : Traced σ) (outside : σ) : Prop :=
  traced.outside = outside

theorem deliver_matches (new : List Delivery) (f : StateM σ α) :
    Matches Follows (deliver new f) f := by
  rintro traced _ rfl
  exact ⟨rfl, rfl⟩

theorem deliveries_of_deliver {new : List Delivery} {f : StateM σ α} {t t' : Traced σ}
    {a : α} (h : deliver new f t = (a, t')) : t'.deliveries = t.deliveries ++ new := by
  cases h
  rfl

variable [Host (StateM σ)]

theorem follows_hostsMatch : HostsMatch (@Follows σ) where
  readText _ := deliver_matches _ _
  writeFile _ _ := deliver_matches _ _
  createWindow _ := deliver_matches _ _
  setWindowImage _ _ := deliver_matches _ _
  listen := deliver_matches _ _
  awaitLeave := deliver_matches _ _
  log _ := deliver_matches _ _

theorem evaluate_traced (lines : List String) (start : σ) (before : List Delivery) :
    let traced := (evaluate lines : StateM (Traced σ) _) ⟨start, before⟩
    (traced.1, traced.2.outside) = (evaluate lines : StateM σ _) start := by
  obtain ⟨hresult, houtside⟩ :=
    follows_hostsMatch.evaluate lines ⟨start, before⟩ start rfl
  exact Prod.ext hresult houtside

variable {scene reached : Scene} {t t' : Traced σ} {command : Command}

theorem deliveries_of_display
    (h : (Picture.display scene.render.image : StateM (Traced σ) _) t = (.ok (), t')) :
    t'.deliveries = t.deliveries ++ scene.delivery .display := by
  obtain ⟨created, hcreate, shown, hshow, heard, hlisten, hleave⟩ :=
    Picture.display_eq_ok_iff.mp h
  rw [deliveries_of_deliver hleave, deliveries_of_deliver hlisten,
    deliveries_of_deliver hshow, deliveries_of_deliver hcreate, scene.inWords_render,
      List.append_nil, List.append_nil, List.append_nil]
  rfl

theorem deliveries_of_publish
    (h : (scene.publish command : StateM (Traced σ) _) t = (.ok (), t')) :
    command.Encodes ∧ t'.deliveries = t.deliveries ++ scene.delivery command := by
  cases command with
  | display => exact ⟨trivial, deliveries_of_display h⟩
  | save path =>
      obtain ⟨encoding, hencoding, written, hwrite, hlog⟩ := Picture.save_eq_ok_iff.mp h
      refine ⟨Option.isSome_iff_exists.mpr ⟨encoding, hencoding⟩, ?_⟩
      rw [deliveries_of_deliver hlog, deliveries_of_deliver hwrite, List.append_nil,
        Scene.delivery, hencoding]
  | _ =>
      cases h
      exact ⟨trivial, (List.append_nil _).symm⟩

theorem deliveries_of_perform {steps : List (Command × Nat)}
    (h : (scene.perform steps : StateM (Traced σ) _) t = (.ok reached, t')) :
    (∀ step ∈ steps, step.1.Encodes) ∧
      t'.deliveries = t.deliveries ++ scene.deliveries (steps.map Prod.fst) := by
  induction steps generalizing scene t with
  | nil =>
      cases h
      exact ⟨List.forall_mem_nil _, (List.append_nil _).symm⟩
  | cons step steps ih =>
      let logged := ((Host.log (.commandRead step.2 step.1) : StateM (Traced σ) _) t).2
      have hlogged : logged.deliveries = t.deliveries := List.append_nil _
      match hpublish : (scene.publish step.1 : StateM (Traced σ) _) logged with
      | (.error e, failed) =>
          rw [Scene.perform_cons_of_error (Scene.carryOut_of_error hpublish)] at h
          cases h
      | (.ok _, published) =>
          rw [Scene.perform_cons_of_ok (Scene.carryOut_of_ok hpublish)] at h
          obtain ⟨hencodes, hdelivered⟩ := deliveries_of_publish hpublish
          obtain ⟨hrest, hdeliveries⟩ := ih h
          refine ⟨List.forall_mem_cons.mpr ⟨hencodes, hrest⟩, ?_⟩
          rw [hdeliveries, hdelivered, hlogged, List.append_assoc]
          rfl

end Traced

def deliveries {σ : Type} [Host (StateM σ)] (lines : List String) (start : σ) :
    List Delivery :=
  ((evaluate lines : StateM (Traced σ) _) ⟨start, []⟩).2.deliveries

theorem deliveries_of_evaluate {σ : Type} [Host (StateM σ)] {lines : List String}
    {start finish : σ} {scene : Scene}
    (h : (evaluate lines : StateM σ _) start = (.ok scene, finish)) :
    let t := (Reader.ofLines lines).transcript
    (∀ command ∈ t.commands, command.Encodes) ∧
    deliveries lines start = Scene.empty.deliveries t.commands := by
  intro t
  let traced := (evaluate lines : StateM (Traced σ) _) ⟨start, []⟩
  have hresult : traced.1 = .ok scene :=
    (congrArg Prod.fst (Traced.evaluate_traced lines start [])).trans
      (congrArg Prod.fst h)
  obtain ⟨-, hperformed⟩ :=
    perform_of_evaluate (show traced = (.ok scene, traced.2) from Prod.ext hresult rfl)
  obtain ⟨hencodes, hdeliveries⟩ := Traced.deliveries_of_perform hperformed
  exact ⟨List.forall_mem_map.mpr hencodes, hdeliveries⟩

end Wireframe
