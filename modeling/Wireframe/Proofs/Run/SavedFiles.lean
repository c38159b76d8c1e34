import Wireframe.Proofs.Run.Simulation
import Wireframe.Proofs.Scene.Render
import Wireframe.Proofs.World.Disk
import Wireframe.World

/-!
What a run leaves on disk. A picture that has been saved stays as it is until another is
saved in its place, whatever the run ends with.
-/

namespace Wireframe

namespace Disk

variable {disk after : Disk} {location place : Location} {path other : String}
  {image : Image}

/-- The save that failed was to the path, and has left the file empty. -/
structure Emptied (before after : Disk) (p : Progress) (location : Location)
    (path : String) :
    Prop where
  failing : p.failing = some (.save path)
  names : before.Names path location
  empties : after.Empties location path

/-- A disk before a run and after it. The run starts from the scene and
gets as far as `p` says. -/
structure Kept (before after : Disk) (scene : Scene) (p : Progress) : Prop where
  named?_eq : after.named? = before.named?
  /-- A save names a file, and the last that names it decides what the file holds. -/
  saved : ∀ earlier path later, p.done = earlier ++ .save path :: later →
    ∃ location, before.Names path location ∧
      ((∀ other, .save other ∈ later → ¬ before.Names other location) →
        after.Holds location path (scene.updateAll earlier).render.image ∨
          ∃ other, ImageFormat.ofPath path ≠ ImageFormat.ofPath other ∧
            before.Emptied after p location other)
  others : ∀ location, (∀ path, .save path ∈ p.done → ¬ before.Names path location) →
    after.get? location = before.get? location ∨
      ∃ path, before.Emptied after p location path

theorem Writes.emptied {last : Disk} {p : Progress} (h : disk.Writes path location after)
    (hemptied : after.Emptied last p place other) : disk.Emptied last p place other :=
  { hemptied with names := h.names_iff.mp hemptied.names }

theorem Emptied.cons {before : Disk} {p : Progress}
    (h : before.Emptied after p location path) (command : Command) :
    before.Emptied after ⟨command :: p.done, p.failing⟩ location path :=
  { h with }

namespace Kept

variable {before middle : Disk} {scene : Scene} {p : Progress} {command : Command}

theorem nil (disk : Disk) (scene : Scene) (failing : Option Command) :
    Kept disk disk scene ⟨[], failing⟩ where
  named?_eq := rfl
  saved := by simp
  others := fun _ _ => .inl rfl

theorem of_empties (hwrites : before.Writes path location after)
    (hempties : after.Empties location path) :
    Kept before after scene ⟨[], some (.save path)⟩ where
  named?_eq := hwrites.named?_eq
  saved := by simp
  others := by
    intro place _
    by_cases hplace : place = location
    · exact .inr ⟨path, rfl, hplace ▸ hwrites.1, hplace ▸ hempties⟩
    · exact .inl (hwrites.get?_of_ne hplace)

theorem cons_of_ne_save (hcommand : ∀ path, command ≠ .save path)
    (h : Kept before after (scene.update command) p) :
    Kept before after scene ⟨command :: p.done, p.failing⟩ where
  named?_eq := h.named?_eq
  saved := by
    intro earlier path later hdone
    cases earlier with
    | nil => exact absurd (List.cons.inj hdone).1 (hcommand path)
    | cons first earlier =>
        obtain ⟨rfl, hrest⟩ := List.cons.inj hdone
        obtain ⟨location, hnames, hlocation⟩ := h.saved earlier path later hrest
        refine ⟨location, hnames, fun hlast => ?_⟩
        exact (hlocation hlast).imp_right fun ⟨other, hformats, hemptied⟩ =>
          ⟨other, hformats, hemptied.cons _⟩
  others := by
    intro location hnone
    refine (h.others location fun path hpath => hnone path (.tail _ hpath)).imp_right ?_
    exact fun ⟨path, hemptied⟩ => ⟨path, hemptied.cons _⟩

theorem cons_save (hwrites : before.Writes path location middle)
    (hholds : middle.Holds location path scene.render.image)
    (h : Kept middle after scene p) :
    Kept before after scene ⟨.save path :: p.done, p.failing⟩ where
  named?_eq := h.named?_eq.trans hwrites.named?_eq
  saved := by
    intro earlier named later hdone
    cases earlier with
    | nil =>
        obtain ⟨hcommand, rfl⟩ := List.cons.inj hdone
        obtain rfl := Command.save.inj hcommand
        refine ⟨location, hwrites.1, fun hlast => ?_⟩
        -- Of what comes later, only the save that fails can have hit the file.
        refine (h.others location fun other hother => ?_).imp (fun heq => ?_) ?_
        · exact hwrites.names_iff.not.mpr (hlast other hother)
        · exact hholds.congr heq
        · rintro ⟨other, hemptied⟩
          exact ⟨other, fun hformats => hholds.not_empties hformats hemptied.empties,
            (hwrites.emptied hemptied).cons _⟩
    | cons first earlier =>
        obtain ⟨rfl, hrest⟩ := List.cons.inj hdone
        obtain ⟨place, hnames, hplace⟩ := h.saved earlier named later hrest
        refine ⟨place, hwrites.names_iff.mp hnames, fun hlast => ?_⟩
        refine (hplace fun other hother => ?_).imp_right ?_
        · exact hwrites.names_iff.not.mpr (hlast other hother)
        · rintro ⟨other, hformats, hemptied⟩
          exact ⟨other, hformats, (hwrites.emptied hemptied).cons _⟩
  others := by
    intro place hnone
    have hplace : place ≠ location := fun heq => hnone path (.head _) (heq ▸ hwrites.1)
    refine (h.others place fun other hother => ?_).imp (fun heq => ?_) ?_
    · exact hwrites.names_iff.not.mpr (hnone other (.tail _ hother))
    · exact heq.trans (hwrites.get?_of_ne hplace)
    · rintro ⟨other, hemptied⟩
      exact ⟨other, (hwrites.emptied hemptied).cons _⟩

end Kept

end Disk

section

variable {σ : Type} [Host (StateM σ)]

/-- The files on a disk change by writing alone, and a write that fails leaves them as
they are. A write that succeeds goes to the file that its path names, and changes no other
file and not what a path names. -/
structure KeepsDisk (disk : σ → Disk) : Prop where
  write_ok : ∀ {path content before after},
    (Host.writeFile path content : StateM σ _) before = (.ok (), after) →
      ∃ location, (disk before).Names path location ∧
        disk after = (disk before).put location content
  write_error : ∀ {path content before e after},
    (Host.writeFile path content : StateM σ _) before = (.error e, after) →
      disk after = disk before
  createWindow : ∀ title, Leaves disk (Host.createWindow title)
  setWindowImage : ∀ name image, Leaves disk (Host.setWindowImage name image)
  listen : Leaves disk Host.listen
  awaitLeave : Leaves disk Host.awaitLeave
  log : ∀ record, Leaves disk (Host.log record)

namespace KeepsDisk

variable {disk : σ → Disk} {scene : Scene} {before after : σ} {path : String}
  {content : FileContent}
  {e : PictureError}

theorem writes_of_writeFile (h : KeepsDisk disk)
    (hwrite : (Picture.writeFile path content : StateM σ _) before = (.ok (), after)) :
    ∃ location, (disk before).Writes path location (disk after) ∧
      (disk after).get? location = some (.file content) := by
  rw [Picture.writeFile, Scene.bind_apply] at hwrite
  match hhost : (Host.writeFile path content : StateM σ _) before with
  | (.error e, failed) =>
      rw [hhost] at hwrite
      cases hwrite
  | (.ok _, written) =>
      rw [hhost] at hwrite
      cases hwrite
      obtain ⟨location, hnames, hput⟩ := h.write_ok hhost
      exact ⟨location, ⟨hnames, content, hput⟩, by rw [hput, Disk.get?_put_self]⟩

theorem eq_of_writeFile_error (h : KeepsDisk disk)
    (hwrite : (Picture.writeFile path content : StateM σ _) before = (.error e, after)) :
    disk after = disk before := by
  rw [Picture.writeFile, Scene.bind_apply] at hwrite
  match hhost : (Host.writeFile path content : StateM σ _) before with
  | (.error e, failed) =>
      rw [hhost] at hwrite
      cases hwrite
      exact h.write_error hhost
  | (.ok _, written) =>
      rw [hhost] at hwrite
      cases hwrite

/-- A save writes the picture, or it fails and writes nothing, but for an empty file in
place of a picture whose format has no encoding. -/
theorem save_cases (h : KeepsDisk disk) (scene : Scene) (path : String) (before : σ) :
    let saved := (Picture.save scene.render.image path : StateM σ _) before
    (saved.1 = .ok () ∧ ∃ location, (disk before).Writes path location (disk saved.2) ∧
      (disk saved.2).Holds location path scene.render.image) ∨
    ∃ e, saved.1 = .error e ∧ (disk saved.2 = disk before ∨
      ∃ location, (disk before).Writes path location (disk saved.2) ∧
        (disk saved.2).Empties location path) := by
  rw [Picture.save]
  cases hformat : ImageFormat.ofPath path with
  | error e => exact .inr ⟨e, rfl, .inl rfl⟩
  | ok format =>
      dsimp only
      rw [scene.inWords_render]
      rcases Picture.saveAs_cases scene.render.image path format before with
        ⟨content, written, hcontent, hwrite, hsaved⟩
          | ⟨reason, emptied, hcontent, hwrite, hsaved⟩ |
        ⟨content, e, failed, hwrite, hsaved⟩
      · obtain ⟨location, hwrites, hfile⟩ := h.writes_of_writeFile hwrite
        obtain ⟨encoding, hencoding, rfl⟩ := scene.content_eq_ok_iff.mp hcontent
        rw [hsaved, h.log]
        exact .inl ⟨rfl, location, hwrites, format, encoding, hformat, hencoding, hfile⟩
      · obtain ⟨location, hwrites, hfile⟩ := h.writes_of_writeFile hwrite
        have hencoding := scene.encoding?_of_content_error hcontent
        rw [hsaved]
        exact .inr ⟨reason, rfl,
          .inr ⟨location, hwrites, format, hformat, hencoding, hfile⟩⟩
      · rw [hsaved]
        exact .inr ⟨e, rfl, .inl (h.eq_of_writeFile_error hwrite)⟩

theorem leaves_publish (h : KeepsDisk disk) (scene : Scene) {command : Command}
    (hcommand : ∀ path, command ≠ .save path) : Leaves disk (scene.publish command) := by
  cases command with
  | save path => exact absurd rfl (hcommand path)
  | display =>
      exact .pictureDisplay h.createWindow h.setWindowImage h.listen h.awaitLeave _
  | _ => exact .pure _

theorem publish_save (scene : Scene) (path : String) :
    (scene.publish (.save path) : StateM σ _) = Picture.save scene.render.image path :=
  rfl

theorem kept_of_publish_error (h : KeepsDisk disk) {command : Command}
    (hpublish : (scene.publish command : StateM σ _) before = (.error e, after)) :
    Disk.Kept (disk before) (disk after) scene ⟨[], some command⟩ := by
  by_cases hcommand : ∃ path, command = .save path
  · obtain ⟨path, rfl⟩ := hcommand
    have hsave := h.save_cases scene path before
    rw [← publish_save, hpublish] at hsave
    rcases hsave with ⟨hok, -⟩ | ⟨-, -, heq | ⟨location, hwrites, hempties⟩⟩
    · cases hok
    · rw [show disk after = disk before from heq]
      exact .nil _ _ _
    · exact .of_empties hwrites hempties
  · have hdisk := h.leaves_publish scene (not_exists.mp hcommand) before
    rw [hpublish] at hdisk
    rw [show disk after = disk before from hdisk]
    exact .nil _ _ _

theorem kept_of_publish_ok (h : KeepsDisk disk) {command : Command} {p : Progress}
    {last : Disk}
    (hpublish : (scene.publish command : StateM σ _) before = (.ok (), after))
    (hlater : Disk.Kept (disk after) last (scene.update command) p) :
    Disk.Kept (disk before) last scene ⟨command :: p.done, p.failing⟩ := by
  by_cases hcommand : ∃ path, command = .save path
  · obtain ⟨path, rfl⟩ := hcommand
    have hsave := h.save_cases scene path before
    rw [← publish_save, hpublish] at hsave
    rcases hsave with ⟨-, location, hwrites, hholds⟩ | ⟨e, herror, -⟩
    · exact .cons_save hwrites hholds hlater
    · cases herror
  · have hdisk := h.leaves_publish scene (not_exists.mp hcommand) before
    rw [hpublish] at hdisk
    rw [show disk after = disk before from hdisk] at hlater
    exact .cons_of_ne_save (not_exists.mp hcommand) hlater

theorem kept_perform (h : KeepsDisk disk) (scene : Scene) (steps : List (Command × Nat))
    (before : σ) :
    Disk.Kept (disk before) (disk ((scene.perform steps : StateM σ _) before).2) scene
      (scene.progress steps before) := by
  induction steps generalizing scene before with
  | nil => exact .nil _ _ _
  | cons step steps ih =>
      -- Reporting the command leaves the disk alone, so what counts is what
      -- publishing does to it.
      let logged := ((Host.log (.commandRead step.2 step.1) : StateM σ _) before).2
      have hlog : disk logged = disk before := h.log _ before
      match hpublish : (scene.publish step.1 : StateM σ _) logged with
      | (.error e, after) =>
          have hstep := Scene.carryOut_of_error hpublish
          rw [Scene.perform_cons_of_error hstep,
            Scene.progress_cons_of_error hstep, ← hlog]
          exact h.kept_of_publish_error hpublish
      | (.ok _, after) =>
          have hstep := Scene.carryOut_of_ok hpublish
          rw [Scene.perform_cons_of_ok hstep, Scene.progress_cons_of_ok hstep, ← hlog]
          exact h.kept_of_publish_ok hpublish (ih _ _)

theorem kept_evaluate (h : KeepsDisk disk) (lines : List String) (before : σ) :
    Disk.Kept (disk before) (disk ((evaluate lines : StateM σ _) before).2) .empty
      (progress lines before) := by
  rw [evaluate_apply]
  exact h.kept_perform .empty _ before

end KeepsDisk

end

namespace World

def disk (world : World) : Disk :=
  ⟨world.files.get?, fun path => (world.files.target world.directory path).toOption⟩

theorem names_iff {world : World} {path : String} {location : Location} :
    world.disk.Names path location ↔
      world.files.target world.directory path = .ok location := by
  change (world.files.target world.directory path).toOption = some location ↔ _
  cases world.files.target world.directory path <;> simp [Except.toOption]

theorem disk_put {world : World} {location : Location} (content : FileContent)
    (h : world.files.get? location ≠ some .directory) :
    disk { world with files := world.files.put location (.file content) } =
      world.disk.put location content :=
  congr (congrArg Disk.mk (funext fun place => FileTree.get?_put h content place))
    (funext fun path =>
      ((FileTree.SameDirectories.put h content).toOption_target _ path).symm)

theorem agreesOnFormats (world : World) : world.disk.AgreesOnFormats := by
  intro path other location hpath hother h h'
  have hext :=
    FileTree.extension?_eq_of_target hpath hother (names_iff.mp h) (names_iff.mp h')
  rw [ImageFormat.ofPath, hext, ImageFormat.ofPath]

theorem keepsDisk : KeepsDisk disk where
  write_ok := by
    intro path content before after hwrite
    change before.writeFile path content = _ at hwrite
    rw [writeFile, FileTree.write] at hwrite
    match htarget : before.files.target before.directory path with
    | .error e =>
        rw [htarget] at hwrite
        cases hwrite
    | .ok location =>
        rw [htarget] at hwrite
        cases hwrite
        exact ⟨location, names_iff.mpr htarget,
          disk_put content (FileTree.get?_ne_directory_of_target htarget)⟩
  write_error := by
    intro path content before e after hwrite
    change before.writeFile path content = _ at hwrite
    rw [writeFile] at hwrite
    match htree : before.files.write before.directory path content with
    | .error e =>
        rw [htree] at hwrite
        cases hwrite
        rfl
    | .ok files =>
        rw [htree] at hwrite
        cases hwrite
  createWindow := leaves_createWindow fun _ _ => rfl
  setWindowImage := leaves_setWindowImage fun _ _ => rfl
  listen := fun _ => rfl
  awaitLeave := leaves_awaitLeave fun _ _ => rfl
  log := fun _ _ => rfl

end World

/-- Whatever a run of a script ends with, the last picture that it has saved to a file
is what the file holds, and every other file is what it was before, unless the save
that ended the run has left the file empty. A file with a picture is left empty only
by a path that asks for another format, so never where all paths to a file ask for
one, as they do in a world. -/
theorem last_save_stays :
    (∀ {σ : Type} [Host (StateM σ)] {disk : σ → Disk}, KeepsDisk disk →
      ∀ (lines : List String) (start : σ),
        let run := (evaluate lines : StateM σ _) start
        let p := progress lines start
        let before := disk start
        let after := disk run.2
        p.done ++ p.failing.toList <+: (Reader.ofLines lines).transcript.commands ∧
          ((∃ e, run.1 = .error (.picture e)) ↔ p.failing.isSome) ∧
          (∀ earlier path later, p.done = earlier ++ .save path :: later →
            ∃ location, before.Names path location ∧
              ((∀ other, .save other ∈ later → ¬ before.Names other location) →
                let picture := (Scene.empty.updateAll earlier).render.image
                (after.Holds location path picture ∨
                  ∃ other, ImageFormat.ofPath path ≠ ImageFormat.ofPath other ∧
                    before.Emptied after p location other) ∧
                (before.AgreesOnFormats → after.Holds location path picture))) ∧
          (∀ location, (∀ path, .save path ∈ p.done → ¬ before.Names path location) →
            after.get? location = before.get? location ∨
              ∃ path, before.Emptied after p location path) ∧
          after.named? = before.named?) ∧
      KeepsDisk World.disk ∧ ∀ world : World, world.disk.AgreesOnFormats := by
  refine ⟨fun h lines start => ?_, World.keepsDisk, World.agreesOnFormats⟩
  intro run p before after
  have hkept := h.kept_evaluate lines start
  have hcommands : p.done ++ p.failing.toList <+:
      (Reader.ofLines lines).transcript.commands := by
    rcases evaluate_eq_progress lines start with ⟨hfailing, hdone, -⟩ |
      ⟨command, e, rest, hfailing, hsplit, -⟩
    · simp [p, hfailing, hdone]
    · simp [p, hfailing, hsplit]
  refine ⟨hcommands, ?_, ?_, hkept.others, hkept.named?_eq⟩
  · rcases evaluate_eq_progress lines start with ⟨hfailing, -, hrun⟩ |
      ⟨command, e, rest, hfailing, -, hrun⟩
    · have hnone : ∀ e, run.1 ≠ .error (.picture e) := by
        intro e
        rw [show run.1 = _ from hrun]
        exact Transcript.conclude_ne (by simp)
      simp [p, hfailing, hnone]
    · simp [p, hfailing, run, hrun]
  · intro earlier path later hdone
    obtain ⟨location, hnames, hlocation⟩ := hkept.saved earlier path later hdone
    refine ⟨location, hnames, fun hlast => ?_⟩
    have hheld := hlocation hlast
    refine ⟨hheld, fun hagrees => hheld.resolve_right ?_⟩
    rintro ⟨other, hformats, hemptied⟩
    have hpath : ∀ saved, .save saved ∈ p.done ++ p.failing.toList →
        Script.IsPath saved.toList := by
      intro saved hsaved
      obtain ⟨block, hblock⟩ :=
        Reader.exists_block_of_mem_commands (hcommands.subset hsaved)
      exact hblock.isPath_of_save
    refine hformats (hagrees (hpath path ?_) (hpath other ?_) hnames hemptied.names)
    · simp [hdone]
    · simp [show p.failing = _ from hemptied.failing]

/-- The second picture replaces the first through another spelling of its path, and stays
when the third save fails, which has emptied a file. -/
theorem last_save_stays_overwritten :
    let lines :=
      ["save", "a.png", "line", "0 0 0 2 0 0", "save", "./b/../a.png", "save",
        "c.jpg", "line"]
    let files : FileTree :=
      ⟨[(["b"], .directory), (["c.jpg"], .file (.text "old")),
        (["d.png"], .file (.text "kept"))]⟩
    let start : World := .start files [] ⟨[], none⟩
    let after := ((evaluate lines : StateM World _) start).2.disk
    let segment := Command.line ⟨0, 0, 0⟩ ⟨2, 0, 0⟩
    KeepsDisk World.disk ∧
      after.Holds ["a.png"] "./b/../a.png"
        (Scene.empty.updateAll [.save "a.png", segment]).render.image ∧
      after.get? ["d.png"] = some (.file (.text "kept")) ∧
      after.get? ["c.jpg"] = some (.file (.text "")) := by
  intro lines files start after segment
  have hprogress : progress lines start =
      ⟨[.save "a.png", segment, .save "./b/../a.png"], some (.save "c.jpg")⟩ := by
    decide +kernel
  obtain ⟨hruns, hkeeps, hagrees⟩ := last_save_stays
  obtain ⟨-, -, hsaved, hothers, -⟩ := hruns hkeeps lines start
  rw [hprogress] at hsaved hothers
  refine ⟨World.keepsDisk, ?_, ?_, by decide +kernel⟩
  · have hnames : start.disk.Names "./b/../a.png" ["a.png"] := by decide +kernel
    obtain ⟨location, hlocation, hholds⟩ :=
      hsaved [.save "a.png", segment] "./b/../a.png" [] rfl
    obtain rfl := hnames.unique hlocation
    exact (hholds (by simp)).2 (hagrees start)
  · have hfirst : ¬ start.disk.Names "a.png" ["d.png"] := by decide +kernel
    have hsecond : ¬ start.disk.Names "./b/../a.png" ["d.png"] := by decide +kernel
    have hfailing : ¬ start.disk.Names "c.jpg" ["d.png"] := by decide +kernel
    have hnone : ∀ path, .save path ∈ [.save "a.png", segment, .save "./b/../a.png"] →
        ¬ start.disk.Names path ["d.png"] := by
      simp [segment, hfirst, hsecond]
    rcases hothers ["d.png"] hnone with heq | ⟨path, hstop, hnames, -⟩
    · exact heq
    · cases hstop
      exact absurd hnames hfailing

end Wireframe
