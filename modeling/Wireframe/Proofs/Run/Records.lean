import Wireframe.Proofs.Run.Interleaving

/-!
What a run logs, the reports of commands apart: a record for each save
that succeeds, in order.
-/

namespace Wireframe

def Command.savedPath? : Command → Option String
  | save path => some path
  | _ => none

def Progress.saved (p : Progress) : List String :=
  p.done.filterMap Command.savedPath?

theorem Progress.saved_cons (command : Command) (p : Progress) :
    Progress.saved ⟨command :: p.done, p.failing⟩ =
      command.savedPath?.toList ++ p.saved := by
  rw [saved, saved, List.filterMap_cons]
  cases command.savedPath? <;> rfl

namespace World

variable {scene : Scene} {command : Command} {world after : World} {e : PictureError}

theorem leaves_records_write (path : String) (content : FileContent) :
    Leaves World.records (Host.writeFile path content) :=
  World.leaves_writeFile (fun _ _ => rfl) path content

theorem leaves_records_writeFile (path : String) (content : FileContent) :
    Leaves World.records (Picture.writeFile path content) :=
  (leaves_records_write path content).bindExcept (fun _ => .pure _) fun _ => .pure _

theorem records_save (image : Image) (path : String) (world : World) :
    let saved := (Picture.save image path : StateM World _) world
    (saved.1 = .ok () ∧ saved.2.records = .pictureSaved path :: world.records) ∨
      ∃ e, saved.1 = .error e ∧ saved.2.records = world.records := by
  rw [Picture.save]
  cases ImageFormat.ofPath path with
  | error e => exact .inr ⟨e, rfl, rfl⟩
  | ok format =>
      dsimp only
      have hkeeps := fun content => leaves_records_writeFile path content world
      rcases Picture.saveAs_cases image.inWords path format world with
        ⟨content, written, -, hwrite, hsaved⟩ | ⟨reason, emptied, -, hwrite, hsaved⟩ |
        ⟨content, e, failed, hwrite, hsaved⟩
      · have hrecords := hkeeps content
        rw [hwrite] at hrecords
        rw [hsaved]
        exact .inl ⟨rfl, congrArg (_ :: ·) hrecords⟩
      · have hrecords := hkeeps (.text "")
        rw [hwrite] at hrecords
        rw [hsaved]
        exact .inr ⟨reason, rfl, hrecords⟩
      · have hrecords := hkeeps content
        rw [hwrite] at hrecords
        rw [hsaved]
        exact .inr ⟨e, rfl, hrecords⟩

theorem records_publish (scene : Scene) (command : Command) (world : World) :
    let published := (scene.publish command : StateM World _) world
    (published.1 = .ok () ∧
      published.2.records = (command.savedPath?.map LogRecord.pictureSaved).toList ++
        world.records) ∨
      ∃ e, published.1 = .error e ∧ published.2.records = world.records := by
  cases command with
  | save path => exact records_save _ path world
  | display =>
      intro published
      have hleaves : Leaves World.records (Picture.display scene.render.image) :=
        leaves_display (fun _ _ => rfl) _
      have hrecords := hleaves world
      cases hresult : published.1 with
      | error e => exact .inr ⟨e, rfl, hrecords⟩
      | ok _ => exact .inl ⟨rfl, hrecords⟩
  | _ => exact .inl ⟨rfl, rfl⟩

def tellings (world : World) : List LogRecord :=
  world.records.filter fun record => !record.announces

theorem tellings_perform (scene : Scene) (steps : List (Command × Nat)) (world : World) :
    ((scene.perform steps : StateM World _) world).2.tellings =
      ((scene.progress steps world).saved.map LogRecord.pictureSaved).reverse ++
        world.tellings := by
  induction steps generalizing scene world with
  | nil => rfl
  | cons step steps ih =>
      let logged := world.log (.commandRead step.2 step.1)
      have hlogged : logged.tellings = world.tellings := by
        simp [logged, tellings, World.log, LogRecord.announces]
      -- The report itself is not told, and after it at most one save is.
      rcases hpublish : (scene.publish step.1 : StateM World _) logged with
        ⟨result, after⟩
      have hrecords := records_publish scene step.1 logged
      rw [hpublish] at hrecords
      rcases hrecords with ⟨rfl, hrecords⟩ | ⟨e, rfl, hrecords⟩
      · have hstep := Scene.carryOut_of_ok hpublish
        have hafter : after.tellings =
            (step.1.savedPath?.map LogRecord.pictureSaved).toList ++ world.tellings := by
          rw [← hlogged, tellings, show after.records = _ from hrecords,
            List.filter_append]
          cases step.1.savedPath? <;> rfl
        rw [Scene.perform_cons_of_ok hstep, Scene.progress_cons_of_ok hstep, ih, hafter,
          Progress.saved_cons]
        cases step.1.savedPath? <;> simp
      · have hstep := Scene.carryOut_of_error hpublish
        rw [Scene.perform_cons_of_error hstep, Scene.progress_cons_of_error hstep,
          ← hlogged]
        exact congrArg (List.filter _) hrecords

theorem tellings_evaluate (lines : List String) (world : World) :
    ((evaluate lines : StateM World _) world).2.tellings =
      ((progress lines world).saved.map LogRecord.pictureSaved).reverse ++
        world.tellings := by
  rw [evaluate_apply]
  exact tellings_perform .empty _ world

end World

end Wireframe
