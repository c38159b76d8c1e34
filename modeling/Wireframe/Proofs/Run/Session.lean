import Wireframe.Proofs.Run.Execution

/-!
The program as a session of scripts. Each is run as if it were alone on the files that the
one before it has left, and the first that fails is the last.
-/

namespace Wireframe

structure ScriptRun where
  path : String
  result : Except RunError Unit
  /-- The paths of the saves that succeed. -/
  saved : List String
  /-- The files that it leaves. -/
  files : FileTree

namespace ScriptRun

/-- Nothing has been shown or logged before. A script that cannot be read does nothing. -/
def alone (directory : Location) (system : WindowSystem) (files : FileTree)
    (path : String) : ScriptRun :=
  let world := World.start files directory system
  match world.readText path with
  | .error cause => ⟨path, .error (.unreadable path cause), [], files⟩
  | .ok text =>
      let lines := Script.lines text
      let run := (evaluate lines : StateM World _) world
      ⟨path, run.1.map fun _ => (), (progress lines world).saved, run.2.files⟩

def failure? (run : ScriptRun) : Option RunError :=
  match run.result with
  | .ok () => none
  | .error e => some e

def records (heading : String → LogRecord) (run : ScriptRun) : List LogRecord :=
  heading run.path :: run.saved.map .pictureSaved

/-- Scripts in order, up to the first that fails. -/
def session (directory : Location) (system : WindowSystem) :
    FileTree → List String → List ScriptRun
  | _, [] => []
  | files, path :: paths =>
      let run := alone directory system files path
      run :: match run.result with
        | .ok () => session directory system run.files paths
        | .error _ => []

def filesAfter (files : FileTree) (runs : List ScriptRun) : FileTree :=
  runs.foldl (fun _ run => run.files) files

def firstFailure? (runs : List ScriptRun) : Option RunError :=
  runs.findSome? failure?

variable {directory : Location} {system : WindowSystem} {files : FileTree} {path : String}
  {paths : List String}

theorem path_alone (directory : Location) (system : WindowSystem) (files : FileTree)
    (path : String) :
    (alone directory system files path).path = path := by
  simp only [alone]
  split <;> rfl

theorem session_cons_of_ok (h : (alone directory system files path).result = .ok ()) :
    session directory system files (path :: paths) =
      alone directory system files path ::
        session directory system (alone directory system files path).files paths := by
  simp only [session, h]

theorem session_cons_of_error {e : RunError}
    (h : (alone directory system files path).result = .error e) :
    session directory system files (path :: paths) =
      [alone directory system files path] := by
  simp only [session, h]

theorem failure?_eq_none_iff {run : ScriptRun} :
    run.failure? = none ↔ run.result = .ok () := by
  rw [failure?]
  cases run.result <;> simp

theorem failure?_eq_some_iff {run : ScriptRun} {e : RunError} :
    run.failure? = some e ↔ run.result = .error e := by
  rw [failure?]
  cases run.result <;> simp

theorem firstFailure?_cons_of_ok {run : ScriptRun} (h : run.result = .ok ())
    (runs : List ScriptRun) :
    firstFailure? (run :: runs) = firstFailure? runs := by
  rw [firstFailure?, List.findSome?_cons, failure?_eq_none_iff.mpr h, firstFailure?]

theorem firstFailure?_cons_of_error {run : ScriptRun} {e : RunError}
    (h : run.result = .error e) (runs : List ScriptRun) :
    firstFailure? (run :: runs) = some e := by
  rw [firstFailure?, List.findSome?_cons, failure?_eq_some_iff.mpr h]

theorem session_singleton (directory : Location) (system : WindowSystem)
    (files : FileTree) (path : String) :
    session directory system files [path] = [alone directory system files path] := by
  cases hresult : (alone directory system files path).result with
  | error e => exact session_cons_of_error hresult
  | ok _ => exact session_cons_of_ok hresult

theorem firstFailure?_singleton (run : ScriptRun) :
    (firstFailure? [run]).elim (.ok ()) .error = run.result := by
  cases hresult : run.result with
  | error e => rw [firstFailure?_cons_of_error hresult, Option.elim_some]
  | ok _ => rw [firstFailure?_cons_of_ok hresult]; rfl

theorem result_of_readText {cause : ReadError}
    (h : (World.start files directory system).readText path = .error cause) :
    (alone directory system files path).result = .error (.unreadable path cause) := by
  simp only [alone, h]

theorem result_of_png
    (h : (files.read directory path).toOption.bind FileContent.encoding? = some .png) :
    (alone directory system files path).result = .error (.unreadable path .notText) :=
  result_of_readText (ReadError.ofContent_of_png h)

theorem alone_of_unreadable {e : ReadError} {named : String}
    (h : (alone directory system files path).result = .error (.unreadable named e)) :
    (alone directory system files path).files = files ∧
    (alone directory system files path).saved = [] := by
  cases htext : (World.start files directory system).readText path with
  | error cause => simp only [alone, htext, and_self]
  | ok text =>
      simp only [alone, htext] at h
      rcases evaluate_eq_progress (Script.lines text)
          (World.start files directory system) with
        ⟨-, -, hrun⟩ | ⟨command, e, rest, -, -, hrun⟩
      · rw [hrun, Transcript.conclude] at h
        cases hfailure : (Reader.ofLines (Script.lines text)).transcript.failure <;>
          simp [hfailure, Except.map] at h
      · rw [hrun] at h
        cases h

theorem session_cut {earlier later : List ScriptRun} {run : ScriptRun}
    (h : session directory system files paths = earlier ++ run :: later) :
    run = alone directory system (filesAfter files earlier) run.path ∧
      ∀ other ∈ earlier, other.result = .ok () := by
  -- What comes behind the first script is a session of its own, on the files
  -- that this script leaves.
  induction paths generalizing files earlier with
  | nil => simp [session] at h
  | cons path paths ih =>
      cases hresult : (alone directory system files path).result with
      | error e =>
          rw [session_cons_of_error hresult] at h
          cases earlier with
          | nil =>
              obtain ⟨rfl, -⟩ := List.cons.inj h
              exact ⟨by rw [path_alone]; rfl, by simp⟩
          | cons first earlier => simp at h
      | ok _ =>
          rw [session_cons_of_ok hresult] at h
          cases earlier with
          | nil =>
              obtain ⟨rfl, -⟩ := List.cons.inj h
              exact ⟨by rw [path_alone]; rfl, by simp⟩
          | cons first earlier =>
              obtain ⟨rfl, hrest⟩ := List.cons.inj h
              obtain ⟨halone, hearlier⟩ := ih hrest
              exact ⟨halone, List.forall_mem_cons.mpr ⟨hresult, hearlier⟩⟩

theorem session_paths (directory : Location) (system : WindowSystem) (files : FileTree)
    (paths : List String) :
    let runs := session directory system files paths
    runs.map ScriptRun.path <+: paths ∧
      (firstFailure? runs = none → runs.map ScriptRun.path = paths) := by
  induction paths generalizing files with
  | nil => simp [session]
  | cons path paths ih =>
      cases hresult : (alone directory system files path).result with
      | error e =>
          rw [session_cons_of_error hresult]
          simp [path_alone, firstFailure?_cons_of_error hresult]
      | ok _ =>
          obtain ⟨hfirst, hall⟩ := ih (alone directory system files path).files
          rw [session_cons_of_ok hresult]
          dsimp only
          rw [firstFailure?_cons_of_ok hresult, List.map_cons, path_alone]
          refine ⟨List.cons_prefix_cons.mpr ⟨rfl, hfirst⟩, fun hnone => ?_⟩
          rw [hall hnone]

end ScriptRun

namespace World

variable {directory : Location} {system : WindowSystem} {files : FileTree} {v w : World}

/-- Worlds at one place with the same files, whatever has been shown and logged. -/
abbrev Agree (directory : Location) (system : WindowSystem) : World → World → Prop :=
  Beside directory system (fun _ _ => True) fun _ _ => True

theorem agree_hostsMatch : HostsMatch (Agree directory system) :=
  beside_hostsMatch (fun _ _ _ _ => trivial) (fun _ _ _ _ => trivial) fun _ _ _ _ =>
    trivial

theorem Agree.start_files (h : Agree directory system v w) :
    Agree directory system v (.start w.files directory system) :=
  { h with directory_right := rfl, system_right := rfl }

theorem runScript_apply (path : String) (world : World) :
    (runScript path : StateM World _) world =
      match world.readText path with
      | .error cause => (.error (.unreadable path cause), world)
      | .ok text =>
          let run := (evaluate (Script.lines text) : StateM World _) world
          (run.1.map fun _ => (), run.2) := by
  have hread : (Host.readText path : StateM World _) world =
    (world.readText path, world) := rfl
  rw [runScript, Scene.bind_apply, hread]
  cases world.readText path with
  | error cause => rfl
  | ok text =>
      dsimp only
      rw [Scene.bind_apply]
      cases ((evaluate (Script.lines text) : StateM World _) world).1 with
      | error e => rfl
      | ok scene => rfl

theorem runScript_alone (h : Agree directory system v (.start files directory system))
    (path : String) :
    let run := ScriptRun.alone directory system files path
    let reached := (runScript path : StateM World _) v
    reached.1 = run.result ∧
      Agree directory system reached.2 (.start run.files directory system) ∧
      reached.2.tellings = (run.saved.map LogRecord.pictureSaved).reverse ++
        v.tellings := by
  intro run reached
  let start : World := .start files directory system
  have hread : v.readText path = start.readText path := h.readText_eq path
  have hreached : reached = _ := runScript_apply path v
  rw [hread] at hreached
  cases htext : start.readText path with
  | error cause =>
      have hrun : run = ⟨path, .error (.unreadable path cause), [], files⟩ := by
        simp only [run, ScriptRun.alone, start, htext]
      rw [htext] at hreached
      rw [hrun, hreached]
      exact ⟨rfl, h, rfl⟩
  | ok text =>
      let lines := Script.lines text
      obtain ⟨hresult, hagree⟩ := agree_hostsMatch.evaluate lines v start h
      have hprogress : progress lines v = progress lines start :=
        agree_hostsMatch.progress_eq .empty _ h
      have hrun :
          run = ⟨path, ((evaluate lines : StateM World _) start).1.map fun _ => (),
            (progress lines start).saved,
            ((evaluate lines : StateM World _) start).2.files⟩ := by
        simp only [run, ScriptRun.alone, start, htext]
        rfl
      rw [htext] at hreached
      rw [hrun, hreached, ← hresult, ← hprogress]
      exact ⟨rfl, hagree.start_files, tellings_evaluate lines v⟩

end World

namespace Program

def scripts : List String → List String
  | [] => [defaultScript]
  | path :: paths => path :: paths

def heading : List String → String → LogRecord
  | [] => .defaultScriptChosen
  | _ :: _ => .scriptStarted

variable {directory : Location} {system : WindowSystem} {files : FileTree} {v : World}

theorem runAll_cons_of_ok {path : String} {after : World}
    (h : (runScript path : StateM World _) (v.log (.scriptStarted path)) =
      (.ok (), after))
    (paths : List String) :
    (runAll (path :: paths) : StateM World _) v =
      (runAll paths : StateM World _) after := by
  have hlog : (Host.log (.scriptStarted path) : StateM World Unit) v =
      ((), v.log (.scriptStarted path)) := rfl
  rw [runAll, Scene.bind_apply, hlog, Scene.bind_apply, h]

theorem runAll_cons_of_error {path : String} {after : World} {e : RunError}
    (h : (runScript path : StateM World _) (v.log (.scriptStarted path)) =
      (.error e, after))
    (paths : List String) :
    (runAll (path :: paths) : StateM World _) v = (.error e, after) := by
  have hlog : (Host.log (.scriptStarted path) : StateM World Unit) v =
      ((), v.log (.scriptStarted path)) := rfl
  rw [runAll, Scene.bind_apply, hlog, Scene.bind_apply, h]
  rfl

theorem runAll_session
    (h : World.Agree directory system v (.start files directory system))
    (paths : List String) :
    let runs := ScriptRun.session directory system files paths
    let reached := (runAll paths : StateM World _) v
    reached.1 = (ScriptRun.firstFailure? runs).elim (.ok ()) .error ∧
      World.Agree directory system reached.2
        (.start (ScriptRun.filesAfter files runs) directory system) ∧
      reached.2.tellings = (runs.flatMap (ScriptRun.records .scriptStarted)).reverse ++
        v.tellings := by
  induction paths generalizing v files with
  | nil => exact ⟨rfl, h, rfl⟩
  | cons path paths ih =>
      let logged := v.log (.scriptStarted path)
      have hlogged : World.Agree directory system logged
          (.start files directory system) :=
        { h with }
      let run := ScriptRun.alone directory system files path
      obtain ⟨hresult, hagree, htellings⟩ := World.runScript_alone hlogged path
      have hstarted : logged.tellings = .scriptStarted run.path :: v.tellings := by
        rw [ScriptRun.path_alone]
        rfl
      rcases hscript : (runScript path : StateM World _) logged with ⟨result, after⟩
      rw [hscript] at hresult hagree htellings
      cases result with
      | error e =>
          rw [runAll_cons_of_error hscript, ScriptRun.session_cons_of_error hresult.symm]
          dsimp only
          rw [ScriptRun.firstFailure?_cons_of_error hresult.symm]
          refine ⟨rfl, hagree, ?_⟩
          rw [htellings, hstarted]
          simp [ScriptRun.records, run]
      | ok _ =>
          rw [runAll_cons_of_ok hscript, ScriptRun.session_cons_of_ok hresult.symm]
          dsimp only
          rw [ScriptRun.firstFailure?_cons_of_ok hresult.symm]
          obtain ⟨hlater, hfiles, hall⟩ := ih hagree
          refine ⟨hlater, hfiles, ?_⟩
          rw [hall, htellings, hstarted]
          simp [ScriptRun.records, run]

theorem run_session (directory : Location) (system : WindowSystem) (files : FileTree)
    (arguments : List String) :
    let runs := ScriptRun.session directory system files (scripts arguments)
    let reached := (run arguments : StateM World _) (.start files directory system)
    reached.1 = (ScriptRun.firstFailure? runs).elim (.ok ()) .error ∧
      reached.2.files = ScriptRun.filesAfter files runs ∧
      reached.2.tellings.reverse = .loggingStarted ::
        runs.flatMap (ScriptRun.records (heading arguments)) := by
  let began := (World.start files directory system).log .loggingStarted
  have hbegan : World.Agree directory system began (.start files directory system) :=
    ⟨rfl, rfl, rfl, rfl, rfl, trivial, trivial⟩
  cases arguments with
  | nil =>
      let chosen := began.log (.defaultScriptChosen defaultScript)
      have hchosen : World.Agree directory system chosen
          (.start files directory system) :=
        { hbegan with }
      have hrun : (run [] : StateM World _) (.start files directory system) =
          (runScript defaultScript : StateM World _) chosen := rfl
      obtain ⟨hresult, hagree, htellings⟩ := World.runScript_alone hchosen defaultScript
      rw [hrun, scripts, ScriptRun.session_singleton]
      refine ⟨by rw [hresult, ScriptRun.firstFailure?_singleton], hagree.files_eq, ?_⟩
      have hheading :
          ScriptRun.records (heading []) (.alone directory system files defaultScript) =
            .defaultScriptChosen defaultScript ::
              (ScriptRun.alone directory system files
                defaultScript).saved.map .pictureSaved := by
        rw [ScriptRun.records, ScriptRun.path_alone]
        rfl
      rw [htellings, List.flatMap_singleton, hheading]
      simp [chosen, began, World.tellings, World.log, World.start, LogRecord.announces]
  | cons path paths =>
      have hrun : (run (path :: paths) : StateM World _) (.start files directory system) =
          (runAll (path :: paths) : StateM World _) began := rfl
      obtain ⟨hresult, hagree, htellings⟩ := runAll_session hbegan (path :: paths)
      rw [hrun]
      refine ⟨hresult, hagree.files_eq, ?_⟩
      rw [htellings, List.reverse_append, List.reverse_reverse]
      rfl

end Program

theorem LogFilter.admits_default (record : LogRecord) :
    LogFilter.default.admits record =
      (decide (record ≠ .loggingStarted) && !record.announces) := by
  cases record <;> rfl

theorem World.filter_admits_default (world : World) :
    world.records.reverse.filter LogFilter.default.admits =
      world.tellings.reverse.filter fun record => record ≠ .loggingStarted := by
  rw [World.tellings, ← List.filter_reverse, List.filter_filter]
  exact List.filter_congr fun record _ => LogFilter.admits_default record

theorem Program.exitCode_elim (failure : Option RunError) :
    exitCode (failure.elim (.ok ()) .error) = failure.elim 0 fun _ => 1 := by
  cases failure <;> rfl

theorem Program.lastWords_elim (failure : Option RunError) :
    lastWords (failure.elim (.ok ()) .error) =
      failure.elim "" fun e => "Error: " ++ Diagnostic.runError e ++ "\n" := by
  cases failure <;> rfl

theorem ScriptRun.loggingStarted_notMem_records (arguments : List String)
    (run : ScriptRun) :
    .loggingStarted ∉ run.records (Program.heading arguments) := by
  cases arguments <;> simp [records, Program.heading]

/-- The program is a session of its scripts: each runs as if it were alone on the files
that the one before it has left, and none after the first that fails; one that cannot be
read does nothing. The code is 0 if none has failed and else 1, and the files are those
that the last one leaves. Unless it is told otherwise, the program writes nothing but a
record for each script that it begins and for each save of that script that succeeds, and
in the end the error. -/
theorem program_runs_session (directory : Location) (system : WindowSystem)
    (files : FileTree) (arguments : List String) :
    let paths := Program.scripts arguments
    let runs := ScriptRun.session directory system files paths
    let failure := ScriptRun.firstFailure? runs
    let ended := Execution.run none arguments (.start files directory system)
    runs.map ScriptRun.path <+: paths ∧
      (failure = none → runs.map ScriptRun.path = paths) ∧
      (∀ earlier run later, runs = earlier ++ run :: later →
        run = .alone directory system (ScriptRun.filesAfter files earlier) run.path ∧
          (∀ other ∈ earlier, other.result = .ok ()) ∧
          ∀ named cause, run.result = .error (.unreadable named cause) →
            run.files = ScriptRun.filesAfter files earlier ∧ run.saved = []) ∧
      ended.1 = failure.elim 0 (fun _ => 1) ∧
      ended.2.world.files = ScriptRun.filesAfter files runs ∧
      ended.2.text .output = "" ∧
      ended.2.text .error =
        String.join ((runs.flatMap (ScriptRun.records (Program.heading arguments))).map
          LogRecord.written) ++
          failure.elim "" fun e => "Error: " ++ Diagnostic.runError e ++ "\n" := by
  intro paths runs failure ended
  obtain ⟨hfirst, hall⟩ := ScriptRun.session_paths directory system files paths
  obtain ⟨hcode, hworld, houtput, herror⟩ :=
    Execution.run_eq none arguments
      (rfl : (World.start files directory system).records = [])
  obtain ⟨hresult, hfiles, htellings⟩ :=
    Program.run_session directory system files arguments
  have hshown : ∀ record ∈ runs.flatMap (ScriptRun.records (Program.heading arguments)),
      decide (record ≠ .loggingStarted) = true := by
    intro record hrecord
    obtain ⟨run, -, hmem⟩ := List.mem_flatMap.mp hrecord
    exact decide_eq_true
      (ne_of_mem_of_not_mem hmem (run.loggingStarted_notMem_records arguments))
  refine ⟨hfirst, hall, fun earlier run later hcut => ?_, ?_, ?_, houtput, ?_⟩
  · obtain ⟨halone, hearlier⟩ := ScriptRun.session_cut hcut
    refine ⟨halone, hearlier, fun named cause hunreadable => ?_⟩
    rw [halone] at hunreadable ⊢
    exact ScriptRun.alone_of_unreadable hunreadable
  · rw [hcode, hresult, Program.exitCode_elim]
  · rw [hworld]
    exact hfiles
  · rw [herror, Program.errorOutput, LogFilter.ofSetting]
    dsimp only
    rw [World.filter_admits_default, htellings, List.filter_cons_of_neg (by simp),
      List.filter_eq_self.mpr hshown, hresult, Program.lastWords_elim, List.map_nil,
      String.join_nil, String.empty_append]

/-- The picture that the first script saves is no script, and the
third path is not reached. -/
theorem program_runs_session_to_unreadable :
    let files : FileTree := ⟨[(["a.txt"], .file (.text "save\np.png\n"))]⟩
    let paths := ["a.txt", "p.png", "a.txt"]
    let runs := ScriptRun.session [] ⟨[], none⟩ files paths
    let ended := Execution.run none paths (.start files [] ⟨[], none⟩)
    ∃ first second, runs = [first, second] ∧ first.saved = ["p.png"] ∧
      second.result = .error (.unreadable "p.png" .notText) ∧ second.files = first.files ∧
      second.saved = [] ∧ ended.1 = 1 := by
  intro files paths runs ended
  let first := ScriptRun.alone [] ⟨[], none⟩ files "a.txt"
  obtain ⟨second, hdef⟩ : ∃ second, second =
      ScriptRun.alone [] ⟨[], none⟩ first.files "p.png" :=
    ⟨_, rfl⟩
  have hfirst : first.result = .ok () :=
    ScriptRun.failure?_eq_none_iff.mp (by decide +kernel)
  have hpng : (first.files.read [] "p.png").toOption.bind FileContent.encoding? =
      some .png := by
    decide +kernel
  have hsecond : second.result = .error (.unreadable "p.png" .notText) := by
    rw [hdef]
    exact ScriptRun.result_of_png hpng
  have hruns : runs = [first, second] := by
    rw [show runs = first :: _ from ScriptRun.session_cons_of_ok hfirst, hdef]
    exact congrArg (first :: ·) (ScriptRun.session_cons_of_error (hdef ▸ hsecond))
  obtain ⟨-, -, hcut, hcode, -⟩ := program_runs_session [] ⟨[], none⟩ files paths
  obtain ⟨-, -, hnothing⟩ := hcut [first] second [] hruns
  obtain ⟨hfiles, hsaved⟩ := hnothing "p.png" .notText hsecond
  have hfailure : ScriptRun.firstFailure? runs = some (.unreadable "p.png" .notText) := by
    rw [hruns, ScriptRun.firstFailure?_cons_of_ok hfirst,
      ScriptRun.firstFailure?_cons_of_error hsecond]
  refine ⟨first, second, hruns, by decide +kernel, hsecond, hfiles, hsaved, ?_⟩
  rw [show ended.1 = _ from hcode]
  change (ScriptRun.firstFailure? runs).elim 0 _ = 1
  rw [hfailure, Option.elim_some]

end Wireframe
