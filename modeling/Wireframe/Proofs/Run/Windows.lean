import Mathlib.Data.List.ReduceOption
import Wireframe.Proofs.Run.Progress
import Wireframe.Proofs.Scene.Render
import Wireframe.Proofs.World.Window

/-!
The windows of a run. There is one for each display that is carried out, in the order of
the script, and it shows the scene of that moment. A display holds up the run until its
window is left, and ends it only if the window system turns it down.
-/

namespace Wireframe

def Progress.executed (p : Progress) : List Command :=
  p.done ++ p.failing.toList

namespace Progress

variable {p : Progress} {command : Command} {before after commands : List Command}

inductive Of (p : Progress) (commands : List Command) : Prop
  | completed (hfailing : p.failing = none) (hdone : p.done = commands)
  | stopped {command : Command} {rest : List Command}
      (hfailing : p.failing = some command)
      (hsplit : commands = p.done ++ command :: rest)

theorem Of.executed_prefix (h : p.Of commands) : p.executed <+: commands := by
  unfold executed
  cases h with
  | completed hfailing hdone =>
      exact ⟨[],
        by rw [hfailing, hdone, Option.toList_none, List.append_nil, List.append_nil]⟩
  | @stopped command rest hfailing hsplit =>
      rw [hfailing, Option.toList_some]
      exact ⟨rest, by rw [hsplit, List.append_assoc, List.singleton_append]⟩

theorem Of.cases_at (h : p.Of (before ++ command :: after))
    (hbefore : before <+: p.done) :
    (before ++ [command] <+: p.done ∧ before ++ command :: after.take 1 <+: p.executed) ∨
      p = ⟨before, some command⟩ := by
  obtain ⟨more, hmore⟩ := hbefore
  obtain ⟨done, failing⟩ := p
  dsimp only at hmore
  subst hmore
  cases h with
  | completed hfailing hdone =>
      obtain rfl := List.append_cancel_left hdone
      obtain rfl : failing = none := hfailing
      refine .inl ⟨?_, ?_⟩
      · simp
      · simpa [executed] using List.take_prefix 1 after
  | @stopped last rest hfailing hsplit =>
      obtain rfl : failing = some last := hfailing
      rw [List.append_assoc] at hsplit
      have hafter := List.append_cancel_left hsplit
      cases more with
      | nil =>
          obtain ⟨rfl, rfl⟩ := List.cons.inj hafter
          exact .inr (by simp)
      | cons first more =>
          obtain ⟨rfl, rfl⟩ := List.cons.inj hafter
          refine .inl ⟨?_, ?_⟩
          · simp
          · cases more <;> simp [executed]

theorem Of.exists_executed_eq (h : p.Of (before ++ command :: after))
    (hbefore : before <+: p.done) :
    ∃ later, p.executed = before ++ command :: later := by
  rcases h.cases_at hbefore with ⟨-, later, hexecuted⟩ | rfl
  · exact ⟨after.take 1 ++ later,
      by rw [← hexecuted, List.append_assoc, List.cons_append]⟩
  · exact ⟨[], rfl⟩

end Progress

theorem progress_of {σ : Type} [Host (StateM σ)] (lines : List String) (start : σ) :
    (progress lines start).Of (Reader.ofLines lines).transcript.commands := by
  rcases evaluate_eq_progress lines start with
    ⟨hfailing, hdone, -⟩ | ⟨command, e, rest, hfailing, hsplit, -⟩
  · exact .completed hfailing hdone
  · exact .stopped hfailing hsplit

namespace Scene

def displayed (scene : Scene) : List Command → List Scene
  | [] => []
  | command :: commands =>
      let later := (scene.update command).displayed commands
      if command = .display then scene :: later else later

variable {command : Command}

theorem displayed_display (scene : Scene) (commands : List Command) :
    scene.displayed (.display :: commands) = scene :: scene.displayed commands := by
  simp only [displayed, if_true, update_display]

theorem displayed_of_ne (h : command ≠ .display) (scene : Scene)
    (commands : List Command) :
    scene.displayed (command :: commands) = (scene.update command).displayed commands :=
  if_neg h

theorem displayed_append (scene : Scene) (before after : List Command) :
    scene.displayed (before ++ after) = scene.displayed before ++
      (scene.updateAll before).displayed after := by
  induction before generalizing scene with
  | nil => rfl
  | cons command before ih =>
      by_cases h : command = .display
      · subst h
        rw [List.cons_append, displayed_display, displayed_display, ih]
        rfl
      · rw [List.cons_append, displayed_of_ne h, displayed_of_ne h, ih]
        rfl

theorem length_displayed (scene : Scene) (commands : List Command) :
    (scene.displayed commands).length = commands.count .display := by
  induction commands generalizing scene with
  | nil => rfl
  | cons command commands ih =>
      by_cases h : command = .display
      · subst h
        rw [displayed_display, List.length_cons, ih, List.count_cons_self]
      · rw [displayed_of_ne h, ih, List.count_cons_of_ne h]

theorem getElem?_displayed (scene : Scene) (before after : List Command) :
    (scene.displayed (before ++ .display :: after))[before.count .display]? =
      some (scene.updateAll before) := by
  rw [displayed_append, displayed_display, ← scene.length_displayed before,
    List.getElem?_append_right (Nat.le_refl _), Nat.sub_self]
  rfl

/-- What is left of the windows in which scenes are displayed, one after the other. -/
def windows (coming : Nat → WindowSystem) (scenes : List Scene) : List Window :=
  (scenes.mapIdx fun i scene => (coming i).opened scene.render.image).reduceOption

theorem windows_cons (coming : Nat → WindowSystem) (scene : Scene) (scenes : List Scene) :
    windows coming (scene :: scenes) =
      ((coming 0).opened scene.render.image).toList ++
        windows (fun i => coming (i + 1)) scenes := by
  rw [windows, List.mapIdx_cons]
  cases (coming 0).opened scene.render.image with
  | none => exact List.reduceOption_cons_of_none _
  | some window => exact List.reduceOption_cons_of_some window _

end Scene

namespace Desktop

variable {scene : Scene} {command : Command} {desktop : Desktop}

/-! One command. -/

theorem publish_display (scene : Scene) (desktop : Desktop) :
    let published := (scene.publish .display : StateM Desktop _) desktop
    published.1 = (desktop.coming 0).outcome ∧
      published.2.screen =
        (((desktop.coming 0).opened scene.render.image).toList ++ desktop.world.windows,
        fun i => desktop.coming (i + 1)) := by
  intro published
  have hpublished : published =
    inWorld (Picture.display scene.render.image) desktop.advance := display_eq _ _
  rw [hpublished, inWorld, World.display_apply, scene.inWords_render]
  exact ⟨rfl, rfl⟩

theorem leaves_screen_publish (h : command ≠ .display) (scene : Scene) :
    Leaves screen (scene.publish command) := by
  cases command with
  | display => exact absurd rfl h
  | save path => exact leaves_screen_save _ path
  | _ => exact .pure _

/-! A whole run. -/

/-- The windows that a run leaves, and what they have to do with the commands
that it has carried out. -/
structure Shows (start : Desktop) (scene : Scene) (p : Progress)
    (run : Except PictureError Scene × Desktop) :
    Prop where
  windows_eq : run.2.world.windows =
    (Scene.windows start.coming (scene.displayed p.executed)).reverse ++
      start.world.windows
  accepted : ∀ i < (scene.displayed p.done).length, (start.coming i).failure = none
  refused : p.failing = some .display → ∃ request reason,
    (start.coming (scene.displayed p.done).length).failure = some (request, reason) ∧
      run.1 = .error (.window reason)

namespace Shows

variable {start after : Desktop} {p : Progress}
  {run : Except PictureError Scene × Desktop} {e : PictureError}

theorem cons_display (hnone : (start.coming 0).failure = none)
    (hscreen : after.screen =
      (((start.coming 0).opened scene.render.image).toList ++ start.world.windows,
        fun i => start.coming (i + 1)))
    (h : Shows after scene p run) :
    Shows start scene ⟨.display :: p.done, p.failing⟩ run := by
  obtain ⟨hwindows, hcoming⟩ := Prod.mk.inj hscreen
  constructor
  · have hexecuted : Progress.executed ⟨.display :: p.done, p.failing⟩ =
      .display :: p.executed := rfl
    rw [hexecuted, Scene.displayed_display, Scene.windows_cons, h.windows_eq, hcoming,
      hwindows, List.reverse_append, List.append_assoc]
    cases (start.coming 0).opened scene.render.image <;> rfl
  · intro i hi
    rw [Scene.displayed_display, List.length_cons] at hi
    cases i with
    | zero => exact hnone
    | succ i =>
        have haccepted := h.accepted i (Nat.lt_of_succ_lt_succ hi)
        rwa [hcoming] at haccepted
  · intro hfailing
    have hrefused := h.refused hfailing
    rwa [hcoming] at hrefused

theorem cons_of_ne (hcommand : command ≠ .display) (hscreen : after.screen = start.screen)
    (h : Shows after (scene.update command) p run) :
    Shows start scene ⟨command :: p.done, p.failing⟩ run := by
  obtain ⟨hwindows, hcoming⟩ := Prod.mk.inj hscreen
  have hexecuted : Progress.executed ⟨command :: p.done, p.failing⟩ =
    command :: p.executed := rfl
  constructor
  · rw [hexecuted, Scene.displayed_of_ne hcommand, h.windows_eq, hcoming, hwindows]
  · intro i hi
    rw [Scene.displayed_of_ne hcommand] at hi
    have haccepted := h.accepted i hi
    rwa [hcoming] at haccepted
  · intro hfailing
    have hrefused := h.refused hfailing
    rwa [hcoming, ← Scene.displayed_of_ne hcommand] at hrefused

theorem refused_display (houtcome : (start.coming 0).outcome = .error e)
    (hwindows : after.world.windows =
      ((start.coming 0).opened scene.render.image).toList ++ start.world.windows) :
    Shows start scene ⟨[], some .display⟩ (.error e, after) := by
  obtain ⟨request, reason, hfailure, rfl⟩ := WindowSystem.outcome_eq_error_iff.mp houtcome
  refine ⟨?_, nofun, fun _ => ⟨request, reason, hfailure, rfl⟩⟩
  have hexecuted : Progress.executed ⟨[], some .display⟩ = [.display] := rfl
  rw [hexecuted, Scene.displayed_display, Scene.windows_cons, hwindows]
  cases (start.coming 0).opened scene.render.image <;> rfl

theorem failed_of_ne (hcommand : command ≠ .display)
    (hwindows : after.world.windows = start.world.windows) :
    Shows start scene ⟨[], some command⟩ (.error e, after) := by
  refine ⟨?_, nofun, fun hfailing => absurd (Option.some.inj hfailing) hcommand⟩
  have hexecuted : Progress.executed ⟨[], some command⟩ = [command] := rfl
  rw [hexecuted, Scene.displayed_of_ne hcommand, hwindows]
  rfl

end Shows

theorem shows_perform (scene : Scene) (steps : List (Command × Nat)) (start : Desktop) :
    Shows start scene (scene.progress steps start)
      ((scene.perform steps : StateM Desktop _) start) := by
  induction steps generalizing scene start with
  | nil => exact ⟨rfl, nofun, nofun⟩
  | cons step steps ih =>
      obtain ⟨command, cursor⟩ := step
      let logged := ((Host.log (.commandRead cursor command) : StateM Desktop _) start).2
      match hpublish : (scene.publish command : StateM Desktop _) logged with
      | (.error e, failed) =>
          have hstep : (scene.carryOut (command, cursor) : StateM Desktop _) start = _ :=
            Scene.carryOut_of_error hpublish
          rw [Scene.perform_cons_of_error hstep, Scene.progress_cons_of_error hstep]
          by_cases hcommand : command = .display
          · subst hcommand
            obtain ⟨houtcome, hscreen⟩ := publish_display scene logged
            rw [hpublish] at houtcome hscreen
            exact .refused_display houtcome.symm (congrArg Prod.fst hscreen)
          · have hscreen := leaves_screen_publish hcommand scene logged
            rw [hpublish] at hscreen
            exact .failed_of_ne hcommand (congrArg Prod.fst hscreen)
      | (.ok _, published) =>
          have hstep : (scene.carryOut (command, cursor) : StateM Desktop _) start = _ :=
            Scene.carryOut_of_ok hpublish
          rw [Scene.perform_cons_of_ok hstep, Scene.progress_cons_of_ok hstep]
          have hlater := ih (scene.update command) published
          -- Only a display moves on to another window system, and the later scenes
          -- are counted from there.
          by_cases hcommand : command = .display
          · subst hcommand
            obtain ⟨houtcome, hscreen⟩ := publish_display scene logged
            rw [hpublish] at houtcome hscreen
            exact hlater.cons_display
              (WindowSystem.outcome_eq_ok_iff.mp houtcome.symm) hscreen
          · have hscreen := leaves_screen_publish hcommand scene logged
            rw [hpublish] at hscreen
            exact hlater.cons_of_ne hcommand hscreen

theorem Shows.cases_at_display {start : Desktop} {p : Progress}
    {run : Except PictureError Scene × Desktop} {before after : List Command}
    (h : Shows start scene p run) (hp : p.Of (before ++ .display :: after))
    (hbefore : before <+: p.done) :
    let system := start.coming (before.count .display)
    (system.failure = none ∧ before ++ [.display] <+: p.done ∧
      before ++ .display :: after.take 1 <+: p.executed) ∨
      ∃ request reason, system.failure = some (request, reason) ∧
        p = ⟨before, some .display⟩ ∧
        run.1 = .error (.window reason) := by
  rcases hp.cases_at hbefore with ⟨hdone, hexecuted⟩ | rfl
  · refine .inl ⟨h.accepted _ ?_, hdone, hexecuted⟩
    obtain ⟨later, hlater⟩ := hdone
    rw [Scene.length_displayed, ← hlater, List.count_append, List.count_append,
      List.count_singleton_self]
    omega
  · obtain ⟨request, reason, hfailure, hrun⟩ := h.refused rfl
    rw [Scene.length_displayed] at hfailure
    exact .inr ⟨request, reason, hfailure, rfl, hrun⟩

theorem shows_evaluate (lines : List String) (start : Desktop) :
    let t := (Reader.ofLines lines).transcript
    let run := (evaluate lines : StateM Desktop _) start
    ∃ performed, run = (t.conclude performed.1, performed.2) ∧
    start.Shows .empty (progress lines start) performed :=
  ⟨_, evaluate_apply lines start, shows_perform .empty _ start⟩

end Desktop

/-- A run opens a window for each display that it carries out, in the order of the script,
and no other. Whatever is carried out before a display, it shows the scene that there is
then. If the window system turns nothing down, it reads the events of its own window up to
the first press of escape or request to close, and the run goes on with the next command,
if there is one. If a request is turned down, the display is the last command, and its
failure is that of the run; there is no window if it was not created, none with an image
if the image was not taken, and else one at which no event was read. In a world whose
window system is the same at each window, all this is a run of that world. -/
theorem windows_follow_displays :
    (∀ (lines : List String) (start : Desktop),
      let t := (Reader.ofLines lines).transcript
      let run := (evaluate lines : StateM Desktop _) start
      let p := progress lines start
      let shown := Scene.empty.displayed p.executed
      p.executed <+: t.commands ∧
      run.2.world.windows.reverse = start.world.windows.reverse ++
        (shown.mapIdx fun i scene =>
          (start.coming i).opened scene.render.image).reduceOption ∧
      ∀ before after, t.commands = before ++ .display :: after → before <+: p.done →
        let i := before.count .display
        shown[i]? = some (Scene.empty.updateAll before) ∧
        ((start.coming i).failure = none →
          before ++ [.display] <+: p.done ∧
            before ++ .display :: after.take 1 <+: p.executed) ∧
        ∀ request reason, (start.coming i).failure = some (request, reason) →
          p = ⟨before, some .display⟩ ∧ run.1 = .error (.picture (.window reason))) ∧
    (∀ (system : WindowSystem) (image : Image),
      (system.failure = none → ∃ read, WindowEvent.ReadUntilLeft system.events read ∧
        system.opened image = some ⟨"wireframe", some ("picture", image), read⟩) ∧
      ∀ reason,
        (system.failure = some (.create, reason) → system.opened image = none) ∧
        (system.failure = some (.setImage, reason) →
          system.opened image = some ⟨"wireframe", none, []⟩) ∧
        (system.failure = some (.listen, reason) →
          system.opened image = some ⟨"wireframe", some ("picture", image), []⟩)) ∧
    (∀ events read, WindowEvent.ReadUntilLeft events read ↔
      read = WindowEvent.untilLeft events) ∧
    ∀ (lines : List String) (world : World),
      let run := (evaluate lines : StateM Desktop _) (.steady world)
      (run.1, run.2.world) = (evaluate lines : StateM World _) world := by
  refine ⟨fun lines start => ?_, fun system image =>
    ⟨fun hnone => ?_, fun reason => ⟨?_, ?_, ?_⟩⟩,
      fun events read => WindowEvent.readUntilLeft_iff, fun lines world => ?_⟩
  · intro t run p shown
    obtain ⟨performed, hrun, hshows⟩ := Desktop.shows_evaluate lines start
    have hp : p.Of t.commands := progress_of lines start
    have hexecuted := hp.executed_prefix
    rw [show run = _ from hrun]
    refine ⟨hexecuted, ?_, fun before after hsplit hbefore => ⟨?_, ?_, ?_⟩⟩
    · rw [hshows.windows_eq, List.reverse_append, List.reverse_reverse]
      rfl
    · obtain ⟨later, hlater⟩ := (hsplit ▸ hp).exists_executed_eq hbefore
      rw [show shown = _ from congrArg _ hlater]
      exact Scene.empty.getElem?_displayed before later
    · intro hnone
      rcases (hshows.cases_at_display (hsplit ▸ hp) hbefore) with
        ⟨-, hgood⟩ | ⟨request, reason, hfailure, -⟩
      · exact hgood
      · rw [hnone] at hfailure
        cases hfailure
    · intro request reason hfailure
      rcases hshows.cases_at_display (hsplit ▸ hp) hbefore with
        ⟨hnone, -⟩ | ⟨_, _, hother, hprogress, hresult⟩
      · rw [hnone] at hfailure
        cases hfailure
      · obtain ⟨rfl, rfl⟩ := Prod.mk.inj (Option.some.inj (hother.symm.trans hfailure))
        exact ⟨hprogress, congrArg t.conclude hresult⟩
  · refine ⟨_, WindowEvent.readUntilLeft_untilLeft system.events, ?_⟩
    rw [WindowSystem.opened, hnone]
    rfl
  · intro h
    rw [WindowSystem.opened, h]
  · intro h
    rw [WindowSystem.opened, h]
    rfl
  · intro h
    rw [WindowSystem.opened, h]
    rfl
  · intro run
    obtain ⟨hresult, hreached⟩ :=
      Desktop.steady_hostsMatch.evaluate lines world (.steady world) rfl
    exact Prod.ext hresult.symm (congrArg Desktop.world hreached)

theorem windows_follow_displays_refused :
    let lines := ["display", "line", "0 0 0 4 2 0", "display", "save", "a.png"]
    let drawn : Scene := ⟨#[#v[0, 0, 0, 1], #v[4, 2, 0, 1]], .identity⟩
    let stays : List WindowEvent :=
      [.key (some .escape) false, .key none true, .focusChanged]
    let first : WindowSystem :=
      ⟨stays ++ [.key (some .escape) true, .closeRequested], none⟩
    let later : WindowSystem := ⟨[.closeRequested], some (.setImage, "too large")⟩
    let start : Desktop :=
      ⟨.start .empty [] first, fun i => if i = 0 then first else later⟩
    let run := (evaluate lines : StateM Desktop _) start
    let p := progress lines start
    p = ⟨[.display, .line ⟨0, 0, 0⟩ ⟨4, 2, 0⟩], some .display⟩ ∧
      Scene.empty.displayed p.executed = [.empty, drawn] ∧
      run.1 = .error (.picture (.window "too large")) ∧
      run.2.world.windows.reverse =
        [⟨"wireframe", some ("picture", Scene.empty.render.image),
          stays ++ [.key (some .escape) true]⟩, ⟨"wireframe", none, []⟩] := by
  intro lines drawn stays first later start run p
  obtain ⟨hruns, hsystem, hread, -⟩ := windows_follow_displays
  obtain ⟨-, hwindows, hdisplays⟩ := hruns lines start
  have hcommands : (Reader.ofLines lines).transcript.commands =
      [.display, .line ⟨0, 0, 0⟩ ⟨4, 2, 0⟩] ++ .display :: [.save "a.png"] := by
        decide +kernel
  have hbefore : [.display, .line ⟨0, 0, 0⟩ ⟨4, 2, 0⟩] <+: p.done := by decide +kernel
  obtain ⟨-, -, hrefused⟩ := hdisplays _ _ hcommands hbefore
  obtain ⟨hprogress, hresult⟩ := hrefused .setImage "too large" rfl
  have hshown : Scene.empty.displayed p.executed = [.empty, drawn] := by
    rw [show p = _ from hprogress]
    decide +kernel
  refine ⟨hprogress, hshown, hresult, ?_⟩
  obtain ⟨read, huntil, hfirst⟩ := (hsystem first Scene.empty.render.image).1 rfl
  obtain rfl := (hread _ read).mp huntil
  obtain ⟨-, hlater, -⟩ := (hsystem later drawn.render.image).2 "too large"
  rw [hwindows, show Scene.empty.displayed (progress lines start).executed =
    _ from hshown]
  change ([first.opened _, later.opened _] : List (Option Window)).reduceOption = _
  rw [hfirst, hlater rfl]
  rfl

end Wireframe
