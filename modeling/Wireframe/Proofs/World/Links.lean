import Wireframe.Proofs.Run.SavedFiles

/-!
Worlds with links. A path that leads to a link names the file that the link leads to, so
paths of different formats can name one file, and a save that fails can reach a picture.
-/

namespace Wireframe

/-- Some locations are links, and lead to others. -/
structure LinkedWorld where
  world : World
  links : List (Location × Location)

namespace LinkedWorld

def follow (linked : LinkedWorld) (location : Location) : Location :=
  (linked.links.lookup location).getD location

/-- Where a path that is written to leads. What a link leads to has
to name a file as well. -/
def target (linked : LinkedWorld) (path : String) : Except FileError Location :=
  match linked.world.files.target linked.world.directory path with
  | .error e => .error e
  | .ok location =>
      let place := linked.follow location
      linked.world.files.lastStep place.dropLast (place.getLast?.getD ".") false

def readText (linked : LinkedWorld) (path : String) : Except ReadError String :=
  ReadError.ofContent <|
    match linked.world.files.resolve linked.world.directory path with
    | .error e => .error e
    | .ok location => linked.world.files.contentAt (linked.follow location)

def put (linked : LinkedWorld) (location : Location) (content : FileContent) :
    LinkedWorld :=
  { linked with world.files := linked.world.files.put location (.file content) }

def writeFile (linked : LinkedWorld) (path : String) (content : FileContent) :
    Except FileError Unit × LinkedWorld :=
  match linked.target path with
  | .error e => (.error e, linked)
  | .ok place => (.ok (), linked.put place content)

def inWorld {α : Type} (f : StateM World α) : StateM LinkedWorld α :=
  fun linked => ((f linked.world).1, { linked with world := (f linked.world).2 })

end LinkedWorld

instance : Host (StateM LinkedWorld) where
  readText path := fun linked => (linked.readText path, linked)
  writeFile path content := fun linked => linked.writeFile path content
  createWindow title := LinkedWorld.inWorld (Host.createWindow title)
  setWindowImage name image := LinkedWorld.inWorld (Host.setWindowImage name image)
  listen := LinkedWorld.inWorld Host.listen
  awaitLeave := LinkedWorld.inWorld Host.awaitLeave
  log record := LinkedWorld.inWorld (Host.log record)

namespace LinkedWorld

variable {linked : LinkedWorld} {path : String} {place : Location}

def disk (linked : LinkedWorld) : Disk :=
  ⟨linked.world.files.get?, fun path => (linked.target path).toOption⟩

theorem target_eq_ok_iff :
    linked.target path = .ok place ↔
      ∃ location, linked.world.files.target linked.world.directory path = .ok location ∧
        linked.world.files.lastStep (linked.follow location).dropLast
          ((linked.follow location).getLast?.getD ".") false = .ok place := by
  unfold target
  cases linked.world.files.target linked.world.directory path with
  | error e => exact iff_of_false nofun nofun
  | ok location =>
      exact ⟨fun h => ⟨location, rfl, h⟩, fun ⟨_, heq, h⟩ => Except.ok.inj heq ▸ h⟩

theorem get?_ne_directory (h : linked.target path = .ok place) :
    linked.world.files.get? place ≠ some .directory := by
  obtain ⟨location, -, hlast⟩ := target_eq_ok_iff.mp h
  obtain ⟨-, -, hfile, -⟩ := FileTree.lastStep_eq_ok_iff.mp hlast
  exact hfile

theorem disk_put (content : FileContent)
    (h : linked.world.files.get? place ≠ some .directory) :
    (linked.put place content).disk = linked.disk.put place content := by
  have hsame := FileTree.SameDirectories.put h content
  refine congr (congrArg Disk.mk (funext fun other => ?_)) (funext fun path => ?_)
  · exact FileTree.get?_put h content other
  · refine toOption_congr fun other => ?_
    rw [target_eq_ok_iff, target_eq_ok_iff]
    exact exists_congr fun location =>
      and_congr hsame.target_eq_ok_iff.symm hsame.lastStep_eq_ok_iff.symm

theorem leaves_disk {α : Type} {f : StateM World α}
    (h : ∀ links, Leaves (fun world => disk ⟨world, links⟩) f) :
    Leaves disk (inWorld f) :=
  fun linked => h linked.links linked.world

theorem keepsDisk : KeepsDisk disk where
  write_ok := by
    intro path content before after hwrite
    change before.writeFile path content = _ at hwrite
    rw [writeFile] at hwrite
    match htarget : before.target path with
    | .error e =>
        rw [htarget] at hwrite
        cases hwrite
    | .ok place =>
        rw [htarget] at hwrite
        cases hwrite
        refine ⟨place, ?_, disk_put content (get?_ne_directory htarget)⟩
        exact congrArg Except.toOption htarget
  write_error := by
    intro path content before e after hwrite
    change before.writeFile path content = _ at hwrite
    rw [writeFile] at hwrite
    match htarget : before.target path with
    | .error e =>
        rw [htarget] at hwrite
        cases hwrite
        rfl
    | .ok place =>
        rw [htarget] at hwrite
        cases hwrite
  createWindow title :=
    leaves_disk fun _ => World.leaves_createWindow (fun _ _ => rfl) title
  setWindowImage name image :=
    leaves_disk fun _ => World.leaves_setWindowImage (fun _ _ => rfl) name image
  listen := fun _ => rfl
  awaitLeave := leaves_disk fun _ => World.leaves_awaitLeave fun _ _ => rfl
  log := fun _ _ => rfl

end LinkedWorld

/-- A save to a link that has the extension of another format fails, and a picture is lost
that was saved before to the file that the link leads to. -/
theorem save_to_link_loses_picture :
    let lines := ["save", "b.pbm", "save", "a.png", "save", "c.jpg"]
    let start : LinkedWorld := ⟨.start .empty [] ⟨[], none⟩, [(["c.jpg"], ["a.png"])]⟩
    let picture := Scene.empty.render.image
    let after := ((evaluate lines : StateM LinkedWorld _) start).2.disk
    KeepsDisk LinkedWorld.disk ∧
      progress lines start = ⟨[.save "b.pbm", .save "a.png"], some (.save "c.jpg")⟩ ∧
      start.disk.Names "a.png" ["a.png"] ∧ start.disk.Names "c.jpg" ["a.png"] ∧
      after.get? ["a.png"] = some (.file (.text "")) ∧
      ¬ after.Holds ["a.png"] "a.png" picture ∧
      after.get? ["b.pbm"] = some (.file (.image .pnm picture)) := by
  intro lines start picture after
  have hprogress : progress lines start =
      ⟨[.save "b.pbm", .save "a.png"], some (.save "c.jpg")⟩ := by
    decide +kernel
  have hempty : after.get? ["a.png"] = some (.file (.text "")) := by decide +kernel
  have hlink : start.disk.Names "c.jpg" ["a.png"] := by decide +kernel
  have hkept := LinkedWorld.keepsDisk.kept_evaluate lines start
  rw [hprogress] at hkept
  refine ⟨LinkedWorld.keepsDisk, hprogress, by decide +kernel, hlink, hempty,
    fun hholds => hholds.not_emptied hempty, ?_⟩
  -- The earlier picture stays, for the link does not lead to its file.
  have hbitmap : start.disk.Names "b.pbm" ["b.pbm"] := by decide +kernel
  have hother : ¬ start.disk.Names "a.png" ["b.pbm"] := by decide +kernel
  obtain ⟨location, hnames, hlast⟩ := hkept.saved [] "b.pbm" [.save "a.png"] rfl
  obtain rfl := hbitmap.unique hnames
  rcases hlast (by simp [hother]) with ⟨format, encoding, hformat, hencoding, hfile⟩ |
    ⟨other, -, hfailing, hthere, -⟩
  · rw [show ImageFormat.ofPath "b.pbm" = .ok .pnm by decide] at hformat
    cases hformat
    cases hencoding
    exact hfile
  · cases hfailing
    exact absurd (hlink.unique hthere) (by decide)

end Wireframe
