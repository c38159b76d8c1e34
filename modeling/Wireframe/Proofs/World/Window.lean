import Wireframe.Proofs.Run.Simulation

/-!
What becomes of one window. And worlds in which the window system does
something else at each window.
-/

namespace Wireframe

namespace WindowEvent

/-- Of the events that arrive, those are read up to the first press of escape or request
to close, or all of them. -/
inductive ReadUntilLeft : List WindowEvent → List WindowEvent → Prop
  | never {events : List WindowEvent}
      (h : ∀ event ∈ events, event ≠ key (some .escape) true ∧ event ≠ closeRequested) :
      ReadUntilLeft events events
  | at {before after : List WindowEvent} {last : WindowEvent}
      (h : ∀ event ∈ before, event ≠ key (some .escape) true ∧ event ≠ closeRequested)
      (hlast : last = key (some .escape) true ∨ last = closeRequested) :
      ReadUntilLeft (before ++ last :: after) (before ++ [last])

variable {event last : WindowEvent} {events before after read : List WindowEvent}

theorem leaves_iff :
    event.leaves ↔ event = key (some .escape) true ∨ event = closeRequested := by
  cases event with
  | key key pressed => cases pressed <;> rcases key with - | - | - <;> simp [leaves]
  | closeRequested => simp [leaves]
  | focusChanged => simp [leaves]

theorem stays_iff :
    ¬ event.leaves ↔ event ≠ key (some .escape) true ∧ event ≠ closeRequested := by
  rw [leaves_iff, not_or]

theorem untilLeft_of_leaves (h : event.leaves) (events : List WindowEvent) :
    untilLeft (event :: events) = [event] := by
  rw [untilLeft, if_pos h]

theorem untilLeft_of_stays (h : ¬ event.leaves) (events : List WindowEvent) :
    untilLeft (event :: events) = event :: untilLeft events := by
  rw [untilLeft, if_neg h]

theorem untilLeft_eq_self (h : ∀ event ∈ events, ¬ event.leaves) :
    untilLeft events = events := by
  induction events with
  | nil => rfl
  | cons event events ih =>
      obtain ⟨hevent, hevents⟩ := List.forall_mem_cons.mp h
      rw [untilLeft_of_stays hevent, ih hevents]

theorem untilLeft_append (h : ∀ event ∈ before, ¬ event.leaves) (hlast : last.leaves)
    (after : List WindowEvent) :
    untilLeft (before ++ last :: after) = before ++ [last] := by
  induction before with
  | nil => exact untilLeft_of_leaves hlast after
  | cons event before ih =>
      obtain ⟨hevent, hbefore⟩ := List.forall_mem_cons.mp h
      rw [List.cons_append, untilLeft_of_stays hevent, ih hbefore, List.cons_append]

theorem ReadUntilLeft.cons (hevent : ¬ event.leaves) (h : ReadUntilLeft events read) :
    ReadUntilLeft (event :: events) (event :: read) := by
  rw [stays_iff] at hevent
  cases h with
  | never h => exact .never (List.forall_mem_cons.mpr ⟨hevent, h⟩)
  | «at» h hlast => exact .at (List.forall_mem_cons.mpr ⟨hevent, h⟩) hlast

theorem readUntilLeft_untilLeft (events : List WindowEvent) :
    ReadUntilLeft events (untilLeft events) := by
  induction events with
  | nil => exact .never (List.forall_mem_nil _)
  | cons event events ih =>
      by_cases hevent : event.leaves
      · rw [untilLeft_of_leaves hevent]
        exact .at (List.forall_mem_nil _) (leaves_iff.mp hevent)
      · rw [untilLeft_of_stays hevent]
        exact ih.cons hevent

theorem readUntilLeft_iff : ReadUntilLeft events read ↔ read = untilLeft events := by
  constructor
  · intro h
    cases h with
    | never h =>
        exact (untilLeft_eq_self fun event hevent => stays_iff.mpr (h event hevent)).symm
    | «at» h hlast =>
        exact (untilLeft_append (fun event hevent => stays_iff.mpr (h event hevent))
          (leaves_iff.mpr hlast) _).symm
  · rintro rfl
    exact readUntilLeft_untilLeft events

end WindowEvent

namespace WindowSystem

/-- The window that is left of an image that was to be shown. -/
def opened (system : WindowSystem) (image : Image) : Option Window :=
  match system.failure with
  | some (.create, _) => none
  | some (.setImage, _) => some ⟨Picture.windowTitle, none, []⟩
  | some (.listen, _) => some ⟨Picture.windowTitle, some (Picture.imageName, image), []⟩
  | none =>
      some ⟨Picture.windowTitle, some (Picture.imageName, image),
        WindowEvent.untilLeft system.events⟩

def outcome (system : WindowSystem) : Except PictureError Unit :=
  match system.failure with
  | some (_, reason) => .error (.window reason)
  | none => .ok ()

theorem outcome_eq_ok_iff {system : WindowSystem} :
    system.outcome = .ok () ↔ system.failure = none := by
  unfold outcome
  split <;> simp_all

theorem outcome_eq_error_iff {system : WindowSystem} {e : PictureError} :
    system.outcome = .error e ↔ ∃ request reason,
      system.failure = some (request, reason) ∧ e = .window reason := by
  obtain ⟨events, failure⟩ := system
  cases failure with
  | none => simp [outcome]
  | some refusal =>
      obtain ⟨request, reason⟩ := refusal
      constructor
      · intro h
        cases h
        exact ⟨request, reason, rfl, rfl⟩
      · rintro ⟨_, _, h, rfl⟩
        cases h
        rfl

end WindowSystem

/-- A display opens the one window that the window system lets it open, and
changes nothing else. -/
theorem World.display_apply (world : World) (image : Image) :
    (Picture.display image : StateM World _) world =
      (world.windowSystem.outcome,
        { world with windows := (world.windowSystem.opened image.inWords).toList ++
          world.windows }) := by
  obtain ⟨files, directory, ⟨events, failure⟩, windows, records⟩ := world
  cases failure with
  | none => rfl
  | some refusal =>
      obtain ⟨request, reason⟩ := refusal
      cases request <;> rfl

/-- A world with the window systems of the windows to come, the next of them first. -/
structure Desktop where
  world : World
  coming : Nat → WindowSystem

namespace Desktop

variable {α : Type}

def inWorld (f : StateM World α) : StateM Desktop α :=
  fun desktop => ((f desktop.world).1, { desktop with world := (f desktop.world).2 })

def advance (desktop : Desktop) : Desktop :=
  ⟨{ desktop.world with windowSystem := desktop.coming 0 },
    fun i => desktop.coming (i + 1)⟩

instance : Host (StateM Desktop) where
  readText path := inWorld (Host.readText path)
  writeFile path content := inWorld (Host.writeFile path content)
  createWindow title := fun desktop => inWorld (Host.createWindow title) desktop.advance
  setWindowImage name image := inWorld (Host.setWindowImage name image)
  listen := inWorld Host.listen
  awaitLeave := inWorld Host.awaitLeave
  log record := inWorld (Host.log record)

theorem inWorld_bind {β : Type} {f : StateM World α} {g : α → StateM World β}
    {g' : α → StateM Desktop β} (h : ∀ a, g' a = inWorld (g a)) :
    inWorld f >>= g' = inWorld (f >>= g) := by
  obtain rfl : g' = fun a => inWorld (g a) := funext h
  rfl

theorem createWindow_bind {β : Type} (title : String)
    (next : Except String Unit → StateM Desktop β) (desktop : Desktop) :
    (Host.createWindow title >>= next) desktop =
      (inWorld (Host.createWindow title) >>= next) desktop.advance :=
  rfl

theorem display_eq (image : Image) (desktop : Desktop) :
    (Picture.display image : StateM Desktop _) desktop =
      inWorld (Picture.display image) desktop.advance := by
  unfold Picture.display
  rw [createWindow_bind]
  refine congrFun (inWorld_bind fun created => ?_) desktop.advance
  cases created with
  | error reason => rfl
  | ok _ =>
      refine inWorld_bind fun shown => ?_
      cases shown with
      | error reason => rfl
      | ok _ =>
          refine inWorld_bind fun heard => ?_
          cases heard with
          | error reason => rfl
          | ok _ => rfl

def screen (desktop : Desktop) : List Window × (Nat → WindowSystem) :=
  (desktop.world.windows, desktop.coming)

theorem leaves_screen_save (image : Image) (path : String) :
    Leaves screen (Picture.save image path) := by
  refine .pictureSave (fun path content desktop => ?_) (fun record desktop => rfl)
    image path
  exact congrArg (·, desktop.coming)
    (World.leaves_writeFile (fun _ _ => rfl) path content desktop.world)

/-! Worlds in which nothing changes from window to window. -/

def steady (world : World) : Desktop :=
  ⟨world, fun _ => world.windowSystem⟩

theorem inWorld_matches {f : StateM World α} (h : Leaves World.windowSystem f) :
    Matches (fun world desktop => desktop = steady world) f (inWorld f) := by
  rintro world _ rfl
  exact ⟨rfl, congrArg (mk _) (funext fun _ => (h world).symm)⟩

theorem steady_hostsMatch : HostsMatch fun world desktop => desktop = steady world where
  readText _ := inWorld_matches fun _ => rfl
  writeFile path content :=
    inWorld_matches (World.leaves_writeFile (fun _ _ => rfl) path content)
  createWindow title := by
    rintro world _ rfl
    exact inWorld_matches (World.leaves_createWindow (fun _ _ => rfl) title) world
      (steady world) rfl
  setWindowImage name image :=
    inWorld_matches (World.leaves_setWindowImage (fun _ _ => rfl) name image)
  listen := inWorld_matches fun _ => rfl
  awaitLeave := inWorld_matches fun _ => rfl
  log _ := inWorld_matches fun _ => rfl

end Desktop

end Wireframe
