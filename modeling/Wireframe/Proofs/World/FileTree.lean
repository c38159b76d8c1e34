import Wireframe.Proofs.Run.SavedPaths
import Wireframe.World.FileTree

/-!
Where the paths of a script lead in a tree of files. That depends on the directories of
the tree alone, which no write changes, and the place that is reached tells the format
of what is written there.
-/

namespace Wireframe

theorem toOption_congr {ε α : Type} {x y : Except ε α} (h : ∀ a, x = .ok a ↔ y = .ok a) :
    x.toOption = y.toOption := by
  cases x with
  | ok a => rw [(h a).mp rfl]
  | error e =>
      cases y with
      | ok a => cases (h a).mpr rfl
      | error e => rfl

namespace FileTree

variable {tree other : FileTree} {start location parent : Location} {piece : String}
  {pieces : List String}

theorem lookup_filter_of_ne {entries : List (Location × Entry)} {place : Location}
    (h : place ≠ location) :
    (entries.filter fun entry => entry.1 ≠ location).lookup place =
      entries.lookup place := by
  induction entries with
  | nil => rfl
  | cons entry entries ih =>
      obtain ⟨key, value⟩ := entry
      by_cases hkey : key = location
      · have hother : (place == key) = false := by simpa [hkey] using h
        rw [List.filter_cons_of_neg (by simpa using hkey), List.lookup_cons, hother]
        exact ih
      · rw [List.filter_cons_of_pos (by simpa using hkey), List.lookup_cons,
          List.lookup_cons, ih]

theorem get?_put_of_ne (tree : FileTree) (entry : Entry) {place : Location}
    (h : place ≠ location) :
    (tree.put location entry).get? place = tree.get? place := by
  have hother : (place == location) = false := by simpa using h
  rw [get?, get?, put, List.lookup_cons, hother]
  simp only [lookup_filter_of_ne h]

theorem get?_put (h : tree.get? location ≠ some .directory) (content : FileContent)
    (place : Location) :
    (tree.put location (.file content)).get? place =
      if place = location then some (.file content) else tree.get? place := by
  split
  · rename_i hplace
    rw [hplace]
    refine get?_put_self _ ?_
    rintro rfl
    exact h rfl
  · rename_i hplace
    exact get?_put_of_ne tree _ hplace

def SameDirectories (tree other : FileTree) : Prop :=
  ∀ location, tree.get? location = some .directory ↔ other.get? location = some .directory

namespace SameDirectories

theorem put (h : tree.get? location ≠ some .directory) (content : FileContent) :
    tree.SameDirectories (tree.put location (.file content)) := by
  intro place
  rw [get?_put h]
  split
  · rename_i hplace
    simp [hplace, h]
  · rfl

end SameDirectories

theorem walk_cons_eq_ok_iff :
    tree.walk start (piece :: pieces) = .ok location ↔
      tree.get? start = some .directory ∧ Path.isTooLong piece = false ∧
        tree.walk (step start piece) pieces = .ok location := by
  rw [walk]
  split <;> grind

theorem lastStep_eq_ok_iff {slash : Bool} :
    tree.lastStep parent piece slash = .ok location ↔
      tree.get? parent = some .directory ∧ slash = false ∧
        tree.get? location ≠ some .directory ∧
        Path.isTooLong piece = false ∧ step parent piece = location := by
  rw [lastStep]
  split <;> grind

theorem target_eq_ok_iff {directory : Location} {path : String} :
    tree.target directory path = .ok location ↔
      fault? path = none ∧ ∃ parent,
        tree.walk (origin directory path) (piecesToWrite path).dropLast = .ok parent ∧
          tree.lastStep parent ((piecesToWrite path).getLast?.getD ".")
            (piecesToWrite path ≠ Path.pieces path) = .ok location := by
  simp only [target]
  split
  · simp_all
  · split <;> simp_all

namespace SameDirectories

theorem walk_eq_ok_iff (h : tree.SameDirectories other) :
    tree.walk start pieces = .ok location ↔ other.walk start pieces = .ok location := by
  induction pieces generalizing start with
  | nil => rfl
  | cons piece pieces ih => rw [walk_cons_eq_ok_iff, walk_cons_eq_ok_iff, h start, ih]

theorem lastStep_eq_ok_iff (h : tree.SameDirectories other) {slash : Bool} :
    tree.lastStep parent piece slash = .ok location ↔
    other.lastStep parent piece slash = .ok location := by
  rw [FileTree.lastStep_eq_ok_iff, FileTree.lastStep_eq_ok_iff, h parent, ne_eq, ne_eq,
    h location]

theorem target_eq_ok_iff (h : tree.SameDirectories other) {directory : Location}
    {path : String} :
    tree.target directory path = .ok location ↔
    other.target directory path = .ok location := by
  simp only [FileTree.target_eq_ok_iff, h.walk_eq_ok_iff, h.lastStep_eq_ok_iff]

theorem toOption_target (h : tree.SameDirectories other) (directory : Location)
    (path : String) :
    (tree.target directory path).toOption = (other.target directory path).toOption :=
  toOption_congr fun _ => h.target_eq_ok_iff

end SameDirectories

theorem get?_ne_directory_of_target {directory : Location} {path : String}
    (h : tree.target directory path = .ok location) :
    tree.get? location ≠ some .directory := by
  obtain ⟨-, parent, -, hlast⟩ := target_eq_ok_iff.mp h
  obtain ⟨-, -, hfile, -⟩ := lastStep_eq_ok_iff.mp hlast
  exact hfile

theorem exists_getLast?_of_target {directory : Location} {path : String}
    (hpath : Script.IsPath path.toList) (h : tree.target directory path = .ok location) :
    ∃ name, Path.fileName? path = some name ∧ location.getLast? = some name := by
  obtain ⟨front, base, ext, file, hsplit, hfile⟩ := hpath.exists_last
  have hne := Path.ofList_ne_of_isFile hfile
  have hempty : String.ofList file ≠ "" := hne [] (by simp)
  have hhere : String.ofList file ≠ "." := hne ['.'] (by simp)
  have hup : String.ofList file ≠ ".." := hne ['.', '.'] (by simp)
  -- The last piece is a name, so no piece at the end is left out and no step leads back.
  have hpieces : piecesToWrite path = front.map String.ofList ++
      [String.ofList file] := by
    simp [piecesToWrite, Path.pieces, hsplit, hempty]
  obtain ⟨-, parent, -, hlast⟩ := target_eq_ok_iff.mp h
  obtain ⟨-, -, -, -, hstep⟩ := lastStep_eq_ok_iff.mp hlast
  rw [hpieces, List.getLast?_concat, Option.getD_some, step,
    if_neg (by simp [Path.isIdle, hempty, hhere]), if_neg hup] at hstep
  exact ⟨_, Path.fileName?_of_isFile hfile hsplit, by rw [← hstep, List.getLast?_concat]⟩

/-- Paths of a script that lead to one file have the same extension. -/
theorem extension?_eq_of_target {directory : Location} {path path' : String}
    (hpath : Script.IsPath path.toList) (hpath' : Script.IsPath path'.toList)
    (h : tree.target directory path = .ok location)
    (h' : tree.target directory path' = .ok location) :
    Path.extension? path = Path.extension? path' := by
  obtain ⟨name, hname, hlast⟩ := exists_getLast?_of_target hpath h
  obtain ⟨name', hname', hlast'⟩ := exists_getLast?_of_target hpath' h'
  rw [Path.extension?, Path.extension?, hname, hname', ← hlast, ← hlast']

end FileTree

end Wireframe
