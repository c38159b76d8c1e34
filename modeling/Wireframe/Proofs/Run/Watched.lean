import Wireframe.Proofs.Run.Perform
import Wireframe.Proofs.Scene.Meaning
import Wireframe.Proofs.Scene.Render

/-!
Runs whose images are watched on their way out, into files and windows. Each of them shows
the edges that the scene has at that moment, and nothing else.
-/

namespace Wireframe

def FileContent.images : FileContent → List Image
  | .image _ picture => [picture]
  | _ => []

/-- Surroundings with the images that have been handed over to them, the newest first. -/
structure Watched (σ : Type) where
  outside : σ
  images : List Image

namespace Watched

variable {σ α β ε : Type}

def hand (images : List Image) (f : StateM σ α) : StateM (Watched σ) α :=
  fun w => ((f w.outside).1, ⟨(f w.outside).2, images ++ w.images⟩)

instance [Host (StateM σ)] : Host (StateM (Watched σ)) where
  readText path := hand [] (Host.readText path)
  writeFile path content := hand content.images (Host.writeFile path content)
  createWindow title := hand [] (Host.createWindow title)
  setWindowImage name image := hand [image] (Host.setWindowImage name image)
  listen := hand [] Host.listen
  awaitLeave := hand [] Host.awaitLeave
  log record := hand [] (Host.log record)

/-- Watched, the computation does what it does unwatched, and all images that
it hands over have `P`. -/
structure Hands (P : Image → Prop) (f : StateM (Watched σ) α) (g : StateM σ α) :
    Prop where
  result_eq : ∀ w, (f w).1 = (g w.outside).1
  outside_eq : ∀ w, (f w).2.outside = (g w.outside).2
  images : ∀ w, ∀ image ∈ (f w).2.images, image ∈ w.images ∨ P image

namespace Hands

variable {P Q : Image → Prop} {f : StateM (Watched σ) α} {g : StateM σ α}

theorem mono (h : Hands P f g) (hPQ : ∀ image, P image → Q image) : Hands Q f g where
  result_eq := h.result_eq
  outside_eq := h.outside_eq
  images := fun w image hmem => (h.images w image hmem).imp_right (hPQ image)

theorem pure (a : α) : Hands P (Pure.pure a : StateM (Watched σ) α) (Pure.pure a) where
  result_eq := fun _ => rfl
  outside_eq := fun _ => rfl
  images := fun _ _ hmem => .inl hmem

theorem hand {images : List Image} (g : StateM σ α) (h : ∀ image ∈ images, P image) :
    Hands P (Watched.hand images g) g where
  result_eq := fun _ => rfl
  outside_eq := fun _ => rfl
  images := by
    intro w image hmem
    rcases List.mem_append.mp hmem with hnew | hold
    · exact .inr (h image hnew)
    · exact .inl hold

theorem unseen (g : StateM σ α) : Hands P (Watched.hand [] g) g :=
  hand g (by simp)

theorem bind {next : α → StateM (Watched σ) β} {next' : α → StateM σ β} (h : Hands P f g)
    (hnext : ∀ a, Hands P (next a) (next' a)) : Hands P (f >>= next) (g >>= next') where
  result_eq := by
    intro w
    rw [Scene.bind_apply, Scene.bind_apply, ← h.result_eq w, ← h.outside_eq w]
    exact (hnext _).result_eq _
  outside_eq := by
    intro w
    rw [Scene.bind_apply, Scene.bind_apply, ← h.result_eq w, ← h.outside_eq w]
    exact (hnext _).outside_eq _
  images := by
    intro w image hmem
    rw [Scene.bind_apply] at hmem
    rcases (hnext _).images _ image hmem with hearlier | hnew
    · exact h.images w image hearlier
    · exact .inr hnew

theorem bindExcept {f : StateM (Watched σ) (Except ε α)} {g : StateM σ (Except ε α)}
    {next : Except ε α → StateM (Watched σ) β} {next' : Except ε α → StateM σ β}
    (h : Hands P f g) (herror : ∀ e, Hands P (next (.error e)) (next' (.error e)))
    (hok : ∀ a, Hands P (next (.ok a)) (next' (.ok a))) :
    Hands P (f >>= next) (g >>= next') := by
  refine h.bind fun result => ?_
  cases result with
  | error e => exact herror e
  | ok a => exact hok a

variable [Host (StateM σ)]

theorem pictureWriteFile (path : String) {content : FileContent}
    (h : ∀ image ∈ content.images, P image) :
    Hands (σ := σ) P (Picture.writeFile path content) (Picture.writeFile path content) :=
  bindExcept (hand _ h) (fun _ => pure _) fun _ => pure _

theorem pictureSaveAs (path : String) (format : ImageFormat) {image : Image}
    (h : ∀ encoding : Encoding, P (encoding.keep image)) :
    Hands (σ := σ) P (Picture.saveAs image path format)
      (Picture.saveAs image path format) := by
  unfold Picture.saveAs
  cases hcontent : format.content image with
  | error reason =>
      have hempty : ∀ image ∈ (FileContent.text "").images, P image := by
        simp [FileContent.images]
      exact bindExcept (pictureWriteFile path hempty) (fun _ => pure _) fun _ => pure _
  | ok content =>
      have himages : ∀ image ∈ content.images, P image := by
        unfold ImageFormat.content at hcontent
        split at hcontent
        · cases hcontent
        · split at hcontent
          · cases hcontent
            simpa [FileContent.images] using h _
          · cases hcontent
      refine bindExcept (pictureWriteFile path himages) (fun _ => pure _) fun _ => ?_
      exact bind (unseen _) fun _ => pure _

theorem pictureSave (path : String) {image : Image}
    (h : ∀ encoding : Encoding, P (encoding.keep image.inWords)) :
    Hands (σ := σ) P (Picture.save image path) (Picture.save image path) := by
  unfold Picture.save
  cases ImageFormat.ofPath path with
  | error e => exact pure _
  | ok format => exact pictureSaveAs path format h

theorem pictureDisplay {image : Image} (h : P image.inWords) :
    Hands (σ := σ) P (Picture.display image) (Picture.display image) := by
  have himage : ∀ shown ∈ [image.inWords], P shown := by simpa using h
  refine bindExcept (unseen _) (fun _ => pure _) fun _ => ?_
  refine bindExcept (hand _ himage) (fun _ => pure _) fun _ => ?_
  refine bindExcept (unseen _) (fun _ => pure _) fun _ => ?_
  exact bind (unseen _) fun _ => pure _

theorem publish (scene : Scene) (command : Command) :
    Hands (σ := σ) (fun image => command.publishes ∧ image = scene.render.image)
      (scene.publish command) (scene.publish command) := by
  cases command with
  | display => exact pictureDisplay ⟨rfl, scene.inWords_render⟩
  | save path =>
      refine pictureSave path fun encoding => ⟨rfl, ?_⟩
      rw [scene.inWords_render, scene.keep_render]
  | _ => exact pure _

end Hands

end Watched

namespace Scene

end Scene

end Wireframe
