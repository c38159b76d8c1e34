import Wireframe.Proofs.Run.Perform
import Wireframe.Proofs.Script.Blocks
import Wireframe.Proofs.Script.Classes

/-!
The paths that pictures are saved under. A script can name none but
files with an extension.
-/

namespace Wireframe

namespace Script

variable {path : List Char}

theorem splitOn_eq_dropRoot (path : List Char) :
    ∃ front, path.splitOn '/' = front ++ (dropRoot path).splitOn '/' := by
  unfold dropRoot
  split
  · rename_i rest
    have hnone : ∀ c ∈ ([] : List Char), (c == '/') = false := by simp
    exact ⟨[[]], List.splitOnP_append_cons_of_forall_mem hnone '/' (by simp) rest⟩
  · exact ⟨[], rfl⟩

theorem IsPath.exists_last (h : IsPath path) :
    ∃ front base ext file, path.splitOn '/' = front ++ [file] ∧ IsFile base ext file := by
  obtain ⟨directories, base, ext, file, hcut, -, hfile⟩ := h
  obtain ⟨front, hsplit⟩ := splitOn_eq_dropRoot path
  refine ⟨front ++ directories, base, ext, file, ?_, hfile⟩
  rw [hsplit, hcut, List.append_assoc]

end Script

namespace Path

open Script (IsFile)

variable {base ext file : List Char}

theorem ofList_ne_of_isFile (h : IsFile base ext file) :
    ∀ name ∈ [[], ['.'], ['.', '.']], String.ofList file ≠ String.ofList name := by
  intro name hname heq
  obtain rfl : file = name := String.ofList_injective heq
  have hsplit := h.splitOn_point
  simp only [List.mem_cons, List.not_mem_nil, or_false] at hname
  rcases hname with rfl | rfl | rfl
  · cases hsplit
  · cases hsplit
    exact h.base_ne_nil rfl
  · cases hsplit

theorem fileName?_of_isFile {path : String} {front : List (List Char)}
    (h : IsFile base ext file) (hpath : path.toList.splitOn '/' = front ++ [file]) :
    fileName? path = some (String.ofList file) := by
  have hne := ofList_ne_of_isFile h
  have hempty : String.ofList file ≠ "" := hne [] (by simp)
  have hhere : String.ofList file ≠ "." := hne ['.'] (by simp)
  have hup : String.ofList file ≠ ".." := hne ['.', '.'] (by simp)
  have hidle : isIdle (String.ofList file) = false := by
    rw [isIdle, decide_eq_false hempty, decide_eq_false hhere, Bool.or_false]
  have hlast : ((pieces path).filter fun piece => !isIdle piece).getLast? =
      some (String.ofList file) := by
    rw [pieces, hpath, List.map_append, List.filter_append, List.map_singleton,
      List.filter_singleton, hidle]
    exact List.getLast?_concat
  rw [fileName?, hlast]
  exact if_neg hup

theorem extensionOfName?_of_isFile (h : IsFile base ext file) :
    extensionOfName? (String.ofList file) = some (String.ofList ext) := by
  obtain ⟨c, rest, hbase⟩ :=
    List.exists_cons_of_ne_nil (List.reverse_eq_nil_iff.not.mpr h.base_ne_nil)
  have hreverse : file.reverse = ext.reverse ++ '.' :: c :: rest := by
    simp [h.name_eq, hbase]
  have hext : ∀ d ∈ ext.reverse, decide (d ≠ '.') := by
    intro d hd
    exact decide_eq_true
      (ne_of_mem_of_not_mem (List.mem_reverse.mp hd) h.point_notMem_ext)
  have hdrop : file.reverse.dropWhile (· ≠ '.') = '.' :: c :: rest := by
    rw [hreverse, List.dropWhile_append_of_pos hext]
    rfl
  have htake : file.reverse.takeWhile (· ≠ '.') = ext.reverse := by
    rw [hreverse, List.takeWhile_append_of_pos hext]
    simp
  rw [extensionOfName?, String.toList_ofList, hdrop, htake, List.reverse_reverse]

theorem extension?_of_isPath {path : String} (h : Script.IsPath path.toList) :
    ∃ ext, extension? path = some ext := by
  obtain ⟨front, base, ext, file, hsplit, hfile⟩ := h.exists_last
  refine ⟨String.ofList ext, ?_⟩
  rw [extension?, fileName?_of_isFile hfile hsplit]
  exact extensionOfName?_of_isFile hfile

end Path

theorem Block.isPath_of_save {block : List String} {path : String}
    (h : Block block (.save path)) :
    Script.IsPath path.toList := by
  generalize hcommand : Command.save path = command at h
  cases h with
  | @bare line keyword hline => cases keyword <;> cases hcommand
  | @argument first second keyword command hfirst hsecond =>
      generalize Field.ofLine second = fields at hsecond
      cases hsecond <;> cases hcommand
      rename_i field hkind
      rw [Field.text, String.toList_ofList]
      exact ((Script.classify_filePath_iff field.word).mp hkind).2.2

theorem Transcript.conclude_ne {t : Transcript} {result : Except PictureError Scene}
    {e : PictureError} (h : result ≠ .error e) :
    t.conclude result ≠ .error (.picture e) := by
  cases result with
  | error other =>
      intro heq
      cases heq
      exact h rfl
  | ok scene => cases hfailure : t.failure <;> simp [conclude, hfailure]

def Avoids {σ ε α : Type} (e : ε) (x : StateM σ (Except ε α)) : Prop :=
  ∀ before, (x before).1 ≠ .error e

namespace Avoids

variable {σ ε α β : Type} {e : ε}

theorem ok (a : α) : Avoids e (pure (.ok a) : StateM σ _) := by
  intro before h
  cases h

theorem error {other : ε} (h : other ≠ e) :
    Avoids e (pure (.error other) : StateM σ (Except ε α)) := by
  intro before heq
  cases heq
  exact h rfl

theorem bind {x : StateM σ β} {next : β → StateM σ (Except ε α)}
    (h : ∀ b, Avoids e (next b)) :
    Avoids e (x >>= next) :=
  fun _ => h _ _

theorem bindExcept {x : StateM σ (Except ε β)} {next : Except ε β → StateM σ (Except ε α)}
    (h : Avoids e x) (herror : ∀ other, other ≠ e → Avoids e (next (.error other)))
    (hok : ∀ b, Avoids e (next (.ok b))) : Avoids e (x >>= next) := by
  intro before
  rw [Scene.bind_apply]
  cases hresult : (x before).1 with
  | error other => exact herror other (fun heq => h before (heq ▸ hresult)) _
  | ok b => exact hok b _

variable [Host (StateM σ)]

theorem pictureWriteFile (path : String) (content : FileContent) :
    Avoids (σ := σ) .noExtension (Picture.writeFile path content) := by
  refine bind fun result => ?_
  cases result with
  | error e => exact error (by simp)
  | ok _ => exact ok _

theorem pictureSaveAs (image : Image) (path : String) (format : ImageFormat) :
    Avoids (σ := σ) .noExtension (Picture.saveAs image path format) := by
  unfold Picture.saveAs
  cases hcontent : format.content image with
  | error reason =>
      have hreason : reason ≠ .noExtension := by
        unfold ImageFormat.content at hcontent
        split at hcontent
        · cases hcontent
          simp
        · split at hcontent <;> cases hcontent
          simp
      exact bindExcept (pictureWriteFile path _) (fun _ => error) fun _ => error hreason
  | ok content =>
      refine bindExcept (pictureWriteFile path content) (fun _ => error) fun _ => ?_
      exact bind fun _ => ok _

theorem pictureSave (image : Image) {path ext : String}
    (h : Path.extension? path = some ext) :
    Avoids (σ := σ) .noExtension (Picture.save image path) := by
  unfold Picture.save
  cases hformat : ImageFormat.ofPath path with
  | error e =>
      refine error fun heq => ?_
      rw [ImageFormat.ofPath, h] at hformat
      cases hknown : ImageFormat.ofExtension? ext <;> simp_all
  | ok format => exact pictureSaveAs image.inWords path format

theorem pictureDisplay (image : Image) :
    Avoids (σ := σ) .noExtension (Picture.display image) := by
  have hwindow : ∀ reason : String, PictureError.window reason ≠ .noExtension := by simp
  refine bind fun created => ?_
  cases created with
  | error reason => exact error (hwindow reason)
  | ok _ =>
      refine bind fun shown => ?_
      cases shown with
      | error reason => exact error (hwindow reason)
      | ok _ =>
          refine bind fun heard => ?_
          cases heard with
          | error reason => exact error (hwindow reason)
          | ok _ => exact bind fun _ => ok _

theorem publish (scene : Scene) {block : List String} {command : Command}
    (h : Block block command) :
    Avoids (σ := σ) .noExtension (scene.publish command) := by
  cases command with
  | display => exact pictureDisplay _
  | save path =>
      obtain ⟨ext, hext⟩ := Path.extension?_of_isPath h.isPath_of_save
      exact pictureSave _ hext
  | _ => exact ok _

theorem carryOut (scene : Scene) {block : List String} {step : Command × Nat}
    (h : Block block step.1) :
    Avoids (σ := σ) .noExtension (scene.carryOut step) :=
  bind fun _ => bindExcept (publish scene h) (fun _ => error) fun _ => ok _

theorem perform {steps : List (Command × Nat)}
    (h : ∀ step ∈ steps, ∃ block, Block block step.1) (scene : Scene) :
    Avoids (σ := σ) .noExtension (scene.perform steps) := by
  induction steps generalizing scene with
  | nil => exact ok scene
  | cons step steps ih =>
      obtain ⟨⟨block, hblock⟩, hrest⟩ := List.forall_mem_cons.mp h
      exact bindExcept (carryOut scene hblock) (fun _ => error) (ih hrest)

theorem evaluate (lines : List String) :
    Avoids (σ := σ) (.picture .noExtension) (evaluate lines) := by
  have hsteps : ∀ step ∈ (Reader.ofLines lines).transcript.steps, ∃ block,
      Block block step.1 :=
    fun step hstep => Reader.exists_block_of_mem_commands (List.mem_map_of_mem hstep)
  intro before
  rw [evaluate_apply]
  exact Transcript.conclude_ne (perform hsteps .empty before)

theorem runScript (path : String) :
    Avoids (σ := σ) (.picture .noExtension) (runScript path) := by
  refine bind fun result => ?_
  cases result with
  | error cause => exact error (by simp)
  | ok text => exact bindExcept (evaluate _) (fun _ => error) fun _ => ok _

end Avoids

/-- A field is taken for a number, an axis or a file path, in this order, if it is put
together as one, and else for an identifier; its class is that of the first pattern that
takes the whole of it. So the paths that a script saves under end in a piece with one
dot, between a base and an extension, and no run ends because the format of a picture
could not be determined. -/
theorem classes_decide_languages :
    (∀ field : List Char, field ≠ [] → (∀ c ∈ field, ¬ Text.isBlank c) →
      (Script.classify field = .number ↔ Script.IsNumber field) ∧
        (Script.classify field = .axis ↔ Script.IsAxis field) ∧
        (Script.classify field = .filePath ↔
          ¬ Script.IsNumber field ∧ ¬ Script.IsAxis field ∧ Script.IsPath field) ∧
        (Script.classify field = .identifier ↔
          ¬ Script.IsNumber field ∧ ¬ Script.IsAxis field ∧ ¬ Script.IsPath field) ∧
        ∀ kind : FieldKind, Script.classify field = kind ↔
          field ∈ kind.language ∧ ∀ other ∈ kind.earlier, field ∉ other.language) ∧
      (∀ (lines : List String) (path : String),
        .save path ∈ (Reader.ofLines lines).transcript.commands →
          ∃ front base ext, path.toList.splitOn '/' = front ++ [base ++ '.' :: ext] ∧
            '.' ∉ base ∧ '.' ∉ ext ∧ base ≠ [] ∧ ext ≠ []) ∧
      ∀ {σ : Type} [Host (StateM σ)] (start : σ),
        (∀ lines, ((evaluate lines : StateM σ _) start).1 ≠
          .error (.picture .noExtension)) ∧
          ∀ path, ((runScript path : StateM σ _) start).1 ≠
            .error (.picture .noExtension) := by
  refine ⟨fun field hne hblank => ?_, fun lines path hpath => ?_, fun start => ?_⟩
  · have hfield : field ∈ FieldKind.identifier.language :=
      FieldKind.mem_language_identifier.mpr ⟨hne, hblank⟩
    exact ⟨Script.classify_number_iff field, Script.classify_axis_iff field,
      Script.classify_filePath_iff field, Script.classify_identifier_iff field,
      Script.classify_eq_iff_first hfield⟩
  · obtain ⟨block, hblock⟩ := Reader.exists_block_of_mem_commands hpath
    obtain ⟨front, base, ext, file, hsplit, hfile⟩ := hblock.isPath_of_save.exists_last
    rw [hfile.name_eq] at hsplit
    exact ⟨front, base, ext, hsplit, hfile.point_notMem_base, hfile.point_notMem_ext,
      hfile.base_ne_nil, hfile.ext_ne_nil⟩
  · exact ⟨fun lines => Avoids.evaluate lines start,
      fun path => Avoids.runScript path start⟩

theorem classes_decide_languages_unfinished_number :
    let field := ['1', '.', '5', 'e']
    let lines := ["save", " a.b/1.5e "]
    Script.IsPath field ∧ ¬ Script.IsNumber field ∧
      .save "a.b/1.5e" ∈ (Reader.ofLines lines).transcript.commands ∧
      ∃ front base ext, "a.b/1.5e".toList.splitOn '/' = front ++ [base ++ '.' :: ext] ∧
        '.' ∉ base ∧ '.' ∉ ext ∧ base ≠ [] ∧ ext ≠ [] := by
  intro field lines
  have hblank : ∀ c ∈ field, ¬ Text.isBlank c := by
    simp only [field, List.forall_mem_cons, List.not_mem_nil, false_imp_iff, implies_true]
    decide
  obtain ⟨hclasses, hsaved, -⟩ := classes_decide_languages
  obtain ⟨-, -, hfile, -⟩ := hclasses field (by decide) hblank
  obtain ⟨hnumber, -, hpath⟩ := hfile.mp (by decide)
  have hread : .save "a.b/1.5e" ∈ (Reader.ofLines lines).transcript.commands := by
    decide +kernel
  exact ⟨hpath, hnumber, hread, hsaved lines "a.b/1.5e" hread⟩

end Wireframe
