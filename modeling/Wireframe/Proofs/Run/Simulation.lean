import Wireframe.Proofs.Run.Progress
import Wireframe.World

/-!
One computation in two surroundings. If everything that it asks of them is answered alike
and keeps their states related, it ends alike in both. And computations that leave a part
of their surroundings alone.
-/

namespace Wireframe

variable {σ τ : Type} {R : σ → τ → Prop}

/-- From related states, the computations have the same result and
reach related states. -/
def Matches {α : Type} (R : σ → τ → Prop) (f : StateM σ α) (g : StateM τ α) : Prop :=
  ∀ s t, R s t → (f s).1 = (g t).1 ∧ R (f s).2 (g t).2

/-- What a run asks of its surroundings is answered alike. -/
structure HostsMatch (R : σ → τ → Prop) [Host (StateM σ)] [Host (StateM τ)] : Prop where
  readText : ∀ path, Matches R (Host.readText path) (Host.readText path)
  writeFile : ∀ path content,
    Matches R (Host.writeFile path content) (Host.writeFile path content)
  createWindow : ∀ title, Matches R (Host.createWindow title) (Host.createWindow title)
  setWindowImage : ∀ name image,
    Matches R (Host.setWindowImage name image) (Host.setWindowImage name image)
  listen : Matches R Host.listen Host.listen
  awaitLeave : Matches R Host.awaitLeave Host.awaitLeave
  log : ∀ record, Matches R (Host.log record) (Host.log record)

namespace Matches

variable {α β ε : Type}

theorem pure (a : α) : Matches R (Pure.pure a) (Pure.pure a) :=
  fun _ _ h => ⟨rfl, h⟩

theorem bind {f : StateM σ α} {f' : StateM τ α} {g : α → StateM σ β} {g' : α → StateM τ β}
    (hf : Matches R f f') (hg : ∀ a, Matches R (g a) (g' a)) :
    Matches R (f >>= g) (f' >>= g') := by
  intro s t h
  obtain ⟨hresult, hreached⟩ := hf s t h
  rw [Scene.bind_apply, Scene.bind_apply, hresult]
  exact hg _ _ _ hreached

theorem bindExcept {f : StateM σ (Except ε α)} {f' : StateM τ (Except ε α)}
    {g : Except ε α → StateM σ β} {g' : Except ε α → StateM τ β} (hf : Matches R f f')
    (herror : ∀ e, Matches R (g (.error e)) (g' (.error e)))
    (hok : ∀ a, Matches R (g (.ok a)) (g' (.ok a))) :
    Matches R (f >>= g) (f' >>= g') := by
  refine hf.bind fun result => ?_
  cases result with
  | error e => exact herror e
  | ok a => exact hok a

theorem of_exists {ι : Type} {S : ι → σ → τ → Prop} {f : StateM σ α} {g : StateM τ α}
    (hR : ∀ s t, R s t ↔ ∃ i, S i s t) (h : ∀ i, Matches (S i) f g) : Matches R f g := by
  intro s t hst
  obtain ⟨i, hi⟩ := (hR s t).mp hst
  obtain ⟨hresult, hreached⟩ := h i s t hi
  exact ⟨hresult, (hR _ _).mpr ⟨i, hreached⟩⟩

end Matches

namespace HostsMatch

variable [Host (StateM σ)] [Host (StateM τ)]

theorem of_exists {ι : Type} {S : ι → σ → τ → Prop} (hR : ∀ s t, R s t ↔ ∃ i, S i s t)
    (h : ∀ i, HostsMatch (S i)) : HostsMatch R where
  readText path := .of_exists hR fun i => (h i).readText path
  writeFile path content := .of_exists hR fun i => (h i).writeFile path content
  createWindow title := .of_exists hR fun i => (h i).createWindow title
  setWindowImage name image := .of_exists hR fun i => (h i).setWindowImage name image
  listen := .of_exists hR fun i => (h i).listen
  awaitLeave := .of_exists hR fun i => (h i).awaitLeave
  log record := .of_exists hR fun i => (h i).log record

theorem pictureWriteFile (h : HostsMatch R) (path : String) (content : FileContent) :
    Matches R (Picture.writeFile path content) (Picture.writeFile path content) :=
  (h.writeFile path content).bindExcept (fun _ => .pure _) fun _ => .pure _

theorem pictureSaveAs (h : HostsMatch R) (image : Image) (path : String)
    (format : ImageFormat) :
    Matches R (Picture.saveAs image path format) (Picture.saveAs image path format) := by
  unfold Picture.saveAs
  cases format.content image with
  | error reason =>
      exact (h.pictureWriteFile path (.text "")).bindExcept (fun _ => .pure _) fun _ =>
        .pure _
  | ok content =>
      refine (h.pictureWriteFile path content).bindExcept (fun _ => .pure _) fun _ => ?_
      exact (h.log _).bind fun _ => .pure _

theorem pictureSave (h : HostsMatch R) (image : Image) (path : String) :
    Matches R (Picture.save image path) (Picture.save image path) := by
  unfold Picture.save
  cases ImageFormat.ofPath path with
  | error e => exact .pure _
  | ok format => exact h.pictureSaveAs image.inWords path format

theorem pictureDisplay (h : HostsMatch R) (image : Image) :
    Matches R (Picture.display image) (Picture.display image) := by
  refine (h.createWindow _).bindExcept (fun _ => .pure _) fun _ => ?_
  refine (h.setWindowImage _ _).bindExcept (fun _ => .pure _) fun _ => ?_
  refine h.listen.bindExcept (fun _ => .pure _) fun _ => ?_
  exact h.awaitLeave.bind fun _ => .pure _

theorem publish (h : HostsMatch R) (scene : Scene) (command : Command) :
    Matches R (scene.publish command) (scene.publish command) := by
  cases command with
  | display => exact h.pictureDisplay _
  | save path => exact h.pictureSave _ path
  | _ => exact .pure _

theorem execute (h : HostsMatch R) (scene : Scene) (command : Command) :
    Matches R (scene.execute command) (scene.execute command) :=
  (h.publish scene command).bindExcept (fun _ => .pure _) fun _ => .pure _

theorem carryOut (h : HostsMatch R) (scene : Scene) (step : Command × Nat) :
    Matches R (scene.carryOut step) (scene.carryOut step) :=
  (h.log _).bind fun _ => h.execute scene step.1

theorem perform (h : HostsMatch R) (scene : Scene) (steps : List (Command × Nat)) :
    Matches R (scene.perform steps) (scene.perform steps) := by
  induction steps generalizing scene with
  | nil => exact .pure _
  | cons step steps ih => exact (h.carryOut scene step).bindExcept (fun _ => .pure _) ih

theorem evaluate (h : HostsMatch R) (lines : List String) :
    Matches R (evaluate lines) (evaluate lines) := by
  intro s t hstart
  obtain ⟨hresult, hreached⟩ :=
    h.perform .empty (Reader.ofLines lines).transcript.steps s t hstart
  rw [evaluate_apply, evaluate_apply]
  exact ⟨congrArg (Reader.ofLines lines).transcript.conclude hresult, hreached⟩

theorem runScript (h : HostsMatch R) (path : String) :
    Matches R (runScript path) (runScript path) := by
  refine (h.readText path).bindExcept (fun _ => .pure _) fun text => ?_
  exact (h.evaluate _).bindExcept (fun _ => .pure _) fun _ => .pure _

theorem progress_eq (h : HostsMatch R) (scene : Scene) (steps : List (Command × Nat))
    {s : σ} {t : τ} (hstart : R s t) :
    scene.progress steps s = scene.progress steps t := by
  induction steps generalizing scene s t with
  | nil => rfl
  | cons step steps ih =>
      obtain ⟨hresult, hreached⟩ := h.carryOut scene step s t hstart
      match hs : (scene.carryOut step : StateM σ _) s with
      | (.error e, s') =>
          match ht : (scene.carryOut step : StateM τ _) t with
          | (result, t') =>
              rw [hs, ht] at hresult
              obtain rfl : Except.error e = result := hresult
              rw [Scene.progress_cons_of_error hs, Scene.progress_cons_of_error ht]
      | (.ok next, s') =>
          match ht : (scene.carryOut step : StateM τ _) t with
          | (result, t') =>
              rw [hs, ht] at hresult hreached
              obtain rfl : Except.ok next = result := hresult
              rw [Scene.progress_cons_of_ok hs, Scene.progress_cons_of_ok ht,
                ih next hreached]

end HostsMatch

/-- Whatever the computation does, what is seen of the state stays as it is. -/
def Leaves {α γ : Type} (view : σ → γ) (f : StateM σ α) : Prop :=
  ∀ s, view (f s).2 = view s

namespace Leaves

variable {α β γ ε : Type} {view : σ → γ}

theorem pure (a : α) : Leaves view (Pure.pure a : StateM σ α) :=
  fun _ => rfl

theorem bind {f : StateM σ α} {g : α → StateM σ β} (hf : Leaves view f)
    (hg : ∀ a, Leaves view (g a)) : Leaves view (f >>= g) := by
  intro s
  rw [Scene.bind_apply]
  exact (hg _ _).trans (hf s)

theorem bindExcept {f : StateM σ (Except ε α)} {g : Except ε α → StateM σ β}
    (hf : Leaves view f) (herror : ∀ e, Leaves view (g (.error e)))
    (hok : ∀ a, Leaves view (g (.ok a))) :
    Leaves view (f >>= g) := by
  refine hf.bind fun result => ?_
  cases result with
  | error e => exact herror e
  | ok a => exact hok a

variable [Host (StateM σ)]

theorem pictureDisplay (hcreate : ∀ title, Leaves view (Host.createWindow title))
    (hshow : ∀ name image, Leaves view (Host.setWindowImage name image))
    (hlisten : Leaves view Host.listen) (hleave : Leaves view Host.awaitLeave)
    (image : Image) : Leaves view (Picture.display image) := by
  refine (hcreate _).bindExcept (fun _ => .pure _) fun _ => ?_
  refine (hshow _ _).bindExcept (fun _ => .pure _) fun _ => ?_
  refine hlisten.bindExcept (fun _ => .pure _) fun _ => ?_
  exact hleave.bind fun _ => .pure _

section

variable (hwrite : ∀ path content, Leaves view (Host.writeFile path content))
  (hlog : ∀ record, Leaves view (Host.log record))
include hwrite hlog

theorem pictureSaveAs (image : Image) (path : String) (format : ImageFormat) :
    Leaves view (Picture.saveAs image path format) := by
  have hfile : ∀ content, Leaves view (Picture.writeFile path content) := fun content =>
    (hwrite path content).bindExcept (fun _ => .pure _) fun _ => .pure _
  unfold Picture.saveAs
  cases format.content image with
  | error reason =>
      exact (hfile (.text "")).bindExcept (fun _ => .pure _) fun _ => .pure _
  | ok content =>
      refine (hfile content).bindExcept (fun _ => .pure _) fun _ => ?_
      exact (hlog _).bind fun _ => .pure _

theorem pictureSave (image : Image) (path : String) :
    Leaves view (Picture.save image path) := by
  unfold Picture.save
  cases ImageFormat.ofPath path with
  | error e => exact .pure _
  | ok format => exact pictureSaveAs hwrite hlog image.inWords path format

end

end Leaves

namespace World

variable {directory : Location} {system : WindowSystem}
  {W : List Window → List Window → Prop}
  {L : List LogRecord → List LogRecord → Prop}

/-- Worlds at one place with the same files, whose windows and whose
records compare as they may. -/
structure Beside (directory : Location) (system : WindowSystem)
    (W : List Window → List Window → Prop)
    (L : List LogRecord → List LogRecord → Prop) (v w : World) : Prop where
  files_eq : v.files = w.files
  directory_left : v.directory = directory
  directory_right : w.directory = directory
  system_left : v.windowSystem = system
  system_right : w.windowSystem = system
  windows : W v.windows w.windows
  records : L v.records w.records

theorem Beside.readText_eq {v w : World} (h : Beside directory system W L v w)
    (path : String) :
    v.readText path = w.readText path := by
  unfold World.readText
  rw [h.files_eq, h.directory_left, h.directory_right]

theorem beside_hostsMatch
    (hcons : ∀ window vs ws, W vs ws → W (window :: vs) (window :: ws))
    (hchange : ∀ change vs ws, W vs ws → W (vs.modifyHead change) (ws.modifyHead change))
    (hrecord : ∀ record rs ss, L rs ss → L (record :: rs) (record :: ss)) :
    HostsMatch (Beside directory system W L) where
  readText path v w h := ⟨h.readText_eq path, h⟩
  writeFile path content v w h := by
    change (v.writeFile path content).1 = (w.writeFile path content).1 ∧
      Beside directory system W L (v.writeFile path content).2
        (w.writeFile path content).2
    unfold World.writeFile
    rw [h.files_eq, h.directory_left, h.directory_right]
    cases w.files.write directory path content with
    | error e => exact ⟨rfl, h⟩
    | ok files =>
        exact ⟨rfl, rfl, rfl, rfl, h.system_left, h.system_right, h.windows, h.records⟩
  createWindow title v w h := by
    change (v.createWindow title).1 = (w.createWindow title).1 ∧
      Beside directory system W L (v.createWindow title).2 (w.createWindow title).2
    unfold World.createWindow
    rw [h.system_left, h.system_right]
    cases system.reply .create with
    | error e => exact ⟨rfl, h⟩
    | ok _ =>
        exact ⟨rfl, h.files_eq, h.directory_left, h.directory_right, rfl, rfl,
          hcons _ _ _ h.windows, h.records⟩
  setWindowImage name image v w h := by
    change (v.setWindowImage name image).1 = (w.setWindowImage name image).1 ∧
      Beside directory system W L (v.setWindowImage name image).2
        (w.setWindowImage name image).2
    unfold World.setWindowImage
    rw [h.system_left, h.system_right]
    cases system.reply .setImage with
    | error e => exact ⟨rfl, h⟩
    | ok _ => exact ⟨rfl, { h with windows := hchange _ _ _ h.windows }⟩
  listen v w h := by
    refine ⟨?_, h⟩
    change v.windowSystem.reply .listen = w.windowSystem.reply .listen
    rw [h.system_left, h.system_right]
  awaitLeave v w h := by
    have hevents : v.windowSystem.events = w.windowSystem.events := by
      rw [h.system_left, h.system_right]
    refine ⟨rfl, { h with windows := ?_ }⟩
    change W (v.windows.modifyHead _) (w.windows.modifyHead _)
    rw [hevents]
    exact hchange _ _ _ h.windows
  log _ _ _ h := ⟨rfl, { h with records := hrecord _ _ _ h.records }⟩

section

variable {γ : Type} {view : World → γ}

/-! Displaying a picture changes nothing but the windows. -/

theorem leaves_createWindow
    (h : ∀ world windows, view { world with windows := windows } = view world)
    (title : String) : Leaves view (Host.createWindow title) := by
  intro world
  change view (world.createWindow title).2 = view world
  unfold createWindow
  cases world.windowSystem.reply .create with
  | error e => rfl
  | ok _ => exact h world _

theorem leaves_setWindowImage
    (h : ∀ world windows, view { world with windows := windows } = view world)
    (name : String) (image : Image) : Leaves view (Host.setWindowImage name image) := by
  intro world
  change view (world.setWindowImage name image).2 = view world
  unfold setWindowImage
  cases world.windowSystem.reply .setImage with
  | error e => rfl
  | ok _ => exact h world _

theorem leaves_awaitLeave
    (h : ∀ world windows, view { world with windows := windows } = view world) :
    Leaves view Host.awaitLeave :=
  fun world => h world _

theorem leaves_display
    (h : ∀ world windows, view { world with windows := windows } = view world)
    (image : Image) : Leaves view (Picture.display image) :=
  .pictureDisplay (leaves_createWindow h) (leaves_setWindowImage h) (fun _ => rfl)
    (leaves_awaitLeave h) image

/-! Writing a file changes nothing but the files. -/

theorem leaves_writeFile
    (h : ∀ world files, view { world with files := files } = view world) (path : String)
    (content : FileContent) : Leaves view (Host.writeFile path content) := by
  intro world
  change view (world.writeFile path content).2 = view world
  unfold writeFile
  cases world.files.write world.directory path content with
  | error e => rfl
  | ok files => exact h world files

end

end World

end Wireframe
