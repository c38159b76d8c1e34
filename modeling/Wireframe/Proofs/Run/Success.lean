import Wireframe.Proofs.Run.SavedFiles
import Wireframe.Proofs.Scene.Render

/-!
When commands succeed. In a world that is settled before the run: nothing that a command
does decides whether another succeeds.
-/

namespace Wireframe

def ImageFormat.encodingOf? (path : String) : Option Encoding :=
  match ofPath path with
  | .error _ => none
  | .ok format => format.encoding?

def Command.Encodes : Command → Prop
  | save path => (ImageFormat.encodingOf? path).isSome
  | _ => True

/-! Computations that succeed. -/

section

variable {σ α δ ε : Type} {before after : σ}

theorem bindExcept_eq_ok_iff {x : StateM σ (Except ε Unit)}
    {next : Except ε Unit → StateM σ (Except δ α)}
    (herror : ∀ e, ∃ d, next (.error e) = pure (.error d)) {a : α} :
    (x >>= next) before = (.ok a, after) ↔
      ∃ middle, x before = (.ok (), middle) ∧ next (.ok ()) middle = (.ok a, after) := by
  rw [Scene.bind_apply]
  constructor
  · intro h
    match hx : x before with
    | (.error e, middle) =>
        obtain ⟨d, hd⟩ := herror e
        rw [hx, hd] at h
        cases h
    | (.ok _, middle) =>
        rw [hx] at h
        exact ⟨middle, rfl, h⟩
  · rintro ⟨middle, hx, hnext⟩
    rw [hx]
    exact hnext

theorem bind_return_eq_iff {x : StateM σ Unit} {a : α} :
    (x >>= fun _ => pure a) before = (a, after) ↔ x before = ((), after) := by
  rw [Scene.bind_apply]
  constructor
  · intro h
    cases h
    rfl
  · intro h
    rw [h]
    rfl

namespace Picture

variable [Host (StateM σ)] {path : String} {content : FileContent} {image : Image}
  {scene : Scene}

theorem writeFile_eq_ok_iff :
    (writeFile path content : StateM σ _) before = (.ok (), after) ↔
      (Host.writeFile path content : StateM σ _) before = (.ok (), after) := by
  unfold writeFile
  rw [bindExcept_eq_ok_iff fun e => ⟨.file e, rfl⟩]
  constructor
  · rintro ⟨written, hwrite, hreturn⟩
    cases hreturn
    exact hwrite
  · exact fun h => ⟨after, h, rfl⟩

theorem display_eq_ok_iff :
    (display image : StateM σ _) before = (.ok (), after) ↔
      ∃ created, (Host.createWindow windowTitle : StateM σ _) before = (.ok (), created) ∧
        ∃ shown, (Host.setWindowImage imageName image.inWords : StateM σ _) created =
          (.ok (), shown) ∧
          ∃ heard, (Host.listen : StateM σ _) shown = (.ok (), heard) ∧
            (Host.awaitLeave : StateM σ _) heard = ((), after) := by
  unfold display
  rw [bindExcept_eq_ok_iff fun reason => ⟨.window reason, rfl⟩]
  refine exists_congr fun created => and_congr_right fun _ => ?_
  dsimp only
  rw [bindExcept_eq_ok_iff fun reason => ⟨.window reason, rfl⟩]
  refine exists_congr fun shown => and_congr_right fun _ => ?_
  dsimp only
  rw [bindExcept_eq_ok_iff fun reason => ⟨.window reason, rfl⟩]
  exact exists_congr fun heard => and_congr_right fun _ => bind_return_eq_iff

theorem saveAs_eq_ok_iff {format : ImageFormat} :
    (saveAs scene.render.image path format : StateM σ _) before = (.ok (), after) ↔
      ∃ encoding, format.encoding? = some encoding ∧
        ∃ written,
          (Host.writeFile path (.image encoding scene.render.image) : StateM σ _) before =
            (.ok (), written) ∧
          (Host.log (.pictureSaved path) : StateM σ _) written = ((), after) := by
  unfold saveAs
  rw [scene.content_render]
  cases format.encoding? with
  | none =>
      dsimp only
      rw [bindExcept_eq_ok_iff ?fails]
      case fails => exact fun e => ⟨e, rfl⟩
      constructor
      · rintro ⟨emptied, -, hreturn⟩
        cases hreturn
      · exact nofun
  | some encoding =>
      dsimp only
      rw [bindExcept_eq_ok_iff ?fails]
      case fails => exact fun e => ⟨e, rfl⟩
      simp only [Option.some.injEq, exists_eq_left']
      refine exists_congr fun written => and_congr writeFile_eq_ok_iff ?_
      exact bind_return_eq_iff

theorem save_eq_ok_iff :
    (save scene.render.image path : StateM σ _) before = (.ok (), after) ↔
      ∃ encoding, ImageFormat.encodingOf? path = some encoding ∧
        ∃ written,
          (Host.writeFile path (.image encoding scene.render.image) : StateM σ _) before =
            (.ok (), written) ∧
          (Host.log (.pictureSaved path) : StateM σ _) written = ((), after) := by
  unfold save ImageFormat.encodingOf?
  cases ImageFormat.ofPath path with
  | error e =>
      constructor
      · intro h
        cases h
      · exact nofun
  | ok format =>
      dsimp only
      rw [scene.inWords_render]
      exact saveAs_eq_ok_iff

end Picture

end

/-! Commands that succeed in a world. -/

namespace World

variable {world after : World} {scene : Scene} {command other : Command}

def Allows (world : World) : Command → Prop
  | .display => world.windowSystem.failure = none
  | .save path =>
      (∃ location, world.disk.Names path location) ∧ Command.Encodes (.save path)
  | _ => True

theorem allows_congr {v w : World} (hsystem : v.windowSystem = w.windowSystem)
    (hnames : ∀ path location, v.disk.Names path location ↔ w.disk.Names path location) :
    v.Allows command ↔ w.Allows command := by
  cases command with
  | display => simp only [Allows, hsystem]
  | save path => simp only [Allows, hnames]
  | _ => rfl

theorem display_succeeds_iff (world : World) (image : Image) :
    ((Picture.display image : StateM World _) world).1 = .ok () ↔
    world.windowSystem.failure = none := by
  obtain ⟨files, directory, ⟨events, failure⟩, windows, records⟩ := world
  cases failure with
  | none => exact iff_of_true rfl rfl
  | some refusal =>
      obtain ⟨refused, reason⟩ := refusal
      cases refused <;> exact iff_of_false nofun nofun

theorem writeFile_eq_ok_iff {path : String} {content : FileContent} :
    (Host.writeFile path content : StateM World _) world = (.ok (), after) ↔
      ∃ location, world.disk.Names path location ∧
        after = { world with files := world.files.put location (.file content) } := by
  simp only [names_iff]
  change world.writeFile path content = _ ↔ _
  unfold writeFile FileTree.write
  cases world.files.target world.directory path with
  | error e => exact iff_of_false nofun nofun
  | ok location =>
      constructor
      · intro h
        cases h
        exact ⟨location, rfl, rfl⟩
      · rintro ⟨_, hlocation, rfl⟩
        cases hlocation
        rfl

/-- A save that succeeds changes nothing but the file that it names, and reports that. -/
theorem save_eq_ok_iff {path : String} :
    (Picture.save scene.render.image path : StateM World _) world = (.ok (), after) ↔
      ∃ encoding, ImageFormat.encodingOf? path = some encoding ∧
        ∃ location, world.disk.Names path location ∧
        after = { world with
          files := world.files.put location (.file (.image encoding scene.render.image))
          records := .pictureSaved path :: world.records } := by
  rw [Picture.save_eq_ok_iff]
  refine exists_congr fun encoding => and_congr_right fun _ => ?_
  constructor
  · rintro ⟨written, hwrite, hlog⟩
    obtain ⟨location, hnames, rfl⟩ := writeFile_eq_ok_iff.mp hwrite
    cases hlog
    exact ⟨location, hnames, rfl⟩
  · rintro ⟨location, hnames, rfl⟩
    exact ⟨_, writeFile_eq_ok_iff.mpr ⟨location, hnames, rfl⟩, rfl⟩

theorem publish_succeeds_iff (world : World) (scene : Scene) (command : Command) :
    ((scene.publish command : StateM World _) world).1 = .ok () ↔
    world.Allows command := by
  cases command with
  | display => exact display_succeeds_iff world _
  | save path =>
      have hsave : ((scene.publish (.save path) : StateM World _) world).1 = .ok () ↔
          ∃ after, (Picture.save scene.render.image path : StateM World _) world =
              (.ok (), after) :=
        ⟨fun h => ⟨_, Prod.ext h rfl⟩, fun ⟨_, h⟩ => congrArg Prod.fst h⟩
      rw [hsave]
      simp only [save_eq_ok_iff, Allows, Command.Encodes, Option.isSome_iff_exists]
      constructor
      · rintro ⟨after, encoding, hencoding, location, hnames, -⟩
        exact ⟨⟨location, hnames⟩, encoding, hencoding⟩
      · rintro ⟨⟨location, hnames⟩, encoding, hencoding⟩
        exact ⟨_, encoding, hencoding, location, hnames, rfl⟩
  | _ => exact iff_of_true rfl trivial

theorem allows_of_publish
    (h : (scene.publish command : StateM World _) world = (.ok (), after)) :
    after.Allows other ↔ world.Allows other := by
  cases command with
  | display =>
      have hshown : (Picture.display scene.render.image : StateM World _) world =
        (.ok (), after) := h
      have hsystem : Leaves windowSystem (Picture.display scene.render.image) :=
        leaves_display (fun _ _ => rfl) _
      have hdisk : Leaves disk (Picture.display scene.render.image) :=
        leaves_display (fun _ _ => rfl) _
      have hsystem := hsystem world
      have hdisk := hdisk world
      rw [hshown] at hsystem hdisk
      exact allows_congr hsystem fun path location =>
        iff_of_eq (congrArg (Disk.Names · path location) hdisk)
  | save path =>
      obtain ⟨encoding, -, location, hnames, rfl⟩ := save_eq_ok_iff.mp h
      have hfile := FileTree.get?_ne_directory_of_target (names_iff.mp hnames)
      have hwrites : world.disk.Writes path location _ :=
        ⟨hnames, .image encoding scene.render.image, disk_put _ hfile⟩
      exact allows_congr rfl fun _ _ => hwrites.names_iff
  | _ =>
      cases h
      rfl

/-- Whether a command succeeds is settled before the run. -/
theorem allows_of_progress (scene : Scene) (steps : List (Command × Nat))
    (world : World) :
    let p := scene.progress steps world
    (∀ command ∈ p.done, world.Allows command) ∧ ∀ command, p.failing = some command →
    ¬ world.Allows command := by
  induction steps generalizing scene world with
  | nil =>
      refine ⟨List.forall_mem_nil _, fun command hstop => ?_⟩
      cases hstop
  | cons step steps ih =>
      let logged := world.log (.commandRead step.2 step.1)
      have hlogged : ∀ command, logged.Allows command ↔ world.Allows command :=
        fun command =>
          allows_congr rfl fun _ _ => .rfl
      have hsucceeds := publish_succeeds_iff logged scene step.1
      match hpublish : (scene.publish step.1 : StateM World _) logged with
      | (.error e, failed) =>
          rw [Scene.progress_cons_of_error (Scene.carryOut_of_error hpublish)]
          refine ⟨List.forall_mem_nil _, fun command hfailing => ?_⟩
          obtain rfl := Option.some.inj hfailing
          rw [← hlogged, ← hsucceeds, hpublish]
          exact nofun
      | (.ok _, published) =>
          rw [Scene.progress_cons_of_ok (Scene.carryOut_of_ok hpublish)]
          have hallows : ∀ command, published.Allows command ↔ world.Allows command :=
            fun command =>
              (allows_of_publish hpublish).trans (hlogged command)
          obtain ⟨hdone, hfailing⟩ := ih (scene.update step.1) published
          refine ⟨List.forall_mem_cons.mpr ⟨?_, fun command hmem => ?_⟩,
            fun command hstop => ?_⟩
          · rw [← hlogged, ← hsucceeds, hpublish]
          · exact (hallows command).mp (hdone command hmem)
          · exact (hallows command).not.mp (hfailing command hstop)

theorem evaluate_cases {lines : List String}
    (hread : (Reader.ofLines lines).transcript.failure = none) (world : World) :
    let run := ((evaluate lines : StateM World _) world).1
    let commands := (Reader.ofLines lines).transcript.commands
    let p := progress lines world
    ((∀ command ∈ commands, world.Allows command) ∧ p.done = commands ∧
      run = .ok (Scene.empty.updateAll commands)) ∨
    ∃ command e, commands[p.done.length]? = some command ∧ ¬ world.Allows command ∧
      run = .error (.picture e) := by
  intro run commands p
  obtain ⟨hdone, hfailing⟩ :=
    allows_of_progress .empty (Reader.ofLines lines).transcript.steps world
  rcases evaluate_eq_progress lines world with
    ⟨-, hall, hrun⟩ | ⟨command, e, rest, hstop, hsplit, hrun⟩
  · refine .inl ⟨fun command hmem => hdone command (hall ▸ hmem), hall, ?_⟩
    rw [show commands = p.done from hall.symm]
    exact hrun.trans (Transcript.conclude_of_failure_eq_none hread _)
  · refine .inr ⟨command, e, ?_, hfailing command hstop, hrun⟩
    rw [show commands = p.done ++ command :: rest
      from hsplit, List.getElem?_append_right (Nat.le_refl _), Nat.sub_self]
    rfl

end World

end Wireframe
