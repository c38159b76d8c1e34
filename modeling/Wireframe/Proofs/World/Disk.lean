import Wireframe.Picture
import Wireframe.Proofs.World.FileTree

/-!
A disk, as far as a script can tell: the file that each path names, and what the
files hold. Whatever the file system makes of a path, a save leaves its picture
in the file that is named.
-/

namespace Wireframe

/-- Paths name the same file or different ones, as the file system has it. -/
structure Disk where
  get? : Location → Option Entry
  named? : String → Option Location

namespace Disk

variable {disk after : Disk} {location place : Location} {path other : String}
  {image : Image}

def Names (disk : Disk) (path : String) (location : Location) : Prop :=
  disk.named? path = some location

instance : Decidable (disk.Names path location) :=
  inferInstanceAs (Decidable (disk.named? path = some location))

def put (disk : Disk) (location : Location) (content : FileContent) : Disk :=
  { disk with
    get? := fun place => if place = location then some (.file content)
      else disk.get? place }

theorem get?_put_self (disk : Disk) (location : Location) (content : FileContent) :
    (disk.put location content).get? location = some (.file content) :=
  if_pos rfl

theorem get?_put_of_ne (content : FileContent) (h : place ≠ location) :
    (disk.put location content).get? place = disk.get? place :=
  if_neg h

theorem Names.unique (h : disk.Names path location) (h' : disk.Names path place) :
    location = place :=
  Option.some.inj (h.symm.trans h')

def Writes (disk : Disk) (path : String) (location : Location) (after : Disk) : Prop :=
  disk.Names path location ∧ ∃ content, after = disk.put location content

/-- The picture is what the file holds, in the format that the path asks for. -/
def Holds (disk : Disk) (location : Location) (path : String) (image : Image) : Prop :=
  ∃ format encoding, ImageFormat.ofPath path = .ok format ∧
    format.encoding? = some encoding ∧
    disk.get? location = some (.file (.image encoding image))

/-- The file is empty, for the format that the path asks for cannot be written. -/
def Empties (disk : Disk) (location : Location) (path : String) : Prop :=
  ∃ format, ImageFormat.ofPath path = .ok format ∧ format.encoding? = none ∧
    disk.get? location = some (.file (.text ""))

/-- All paths to a file ask for one format. Only links can make it otherwise. -/
def AgreesOnFormats (disk : Disk) : Prop :=
  ∀ {path other : String} {location : Location},
    Script.IsPath path.toList → Script.IsPath other.toList →
      disk.Names path location → disk.Names other location →
        ImageFormat.ofPath path = ImageFormat.ofPath other

namespace Writes

theorem named?_eq (h : disk.Writes path location after) : after.named? = disk.named? := by
  obtain ⟨-, content, rfl⟩ := h
  rfl

theorem names_iff (h : disk.Writes path location after) :
    after.Names other place ↔ disk.Names other place := by
  rw [Names, Names, h.named?_eq]

theorem get?_of_ne (h : disk.Writes path location after) (hplace : place ≠ location) :
    after.get? place = disk.get? place := by
  obtain ⟨-, content, rfl⟩ := h
  exact get?_put_of_ne content hplace

end Writes

theorem Holds.congr (h : disk.Holds location path image)
    (heq : after.get? location = disk.get? location) :
    after.Holds location path image := by
  obtain ⟨format, encoding, hformat, hencoding, hfile⟩ := h
  exact ⟨format, encoding, hformat, hencoding, heq.trans hfile⟩

theorem Holds.get?_eq (h : disk.Holds location path image)
    (hafter : after.Holds location path image) :
    disk.get? location = after.get? location := by
  obtain ⟨format, encoding, hformat, hencoding, hget⟩ := h
  obtain ⟨_, _, hformat', hencoding', hget'⟩ := hafter
  rw [hformat] at hformat'
  obtain rfl := Except.ok.inj hformat'
  rw [hencoding] at hencoding'
  obtain rfl := Option.some.inj hencoding'
  rw [hget, hget']

theorem Holds.not_empties (h : disk.Holds location path image)
    (hformats : ImageFormat.ofPath path = ImageFormat.ofPath other) :
    ¬ after.Empties location other := by
  obtain ⟨format, encoding, hformat, hencoding, -⟩ := h
  rintro ⟨unwritable, hunwritable, hnone, -⟩
  rw [← hformats, hformat] at hunwritable
  obtain rfl := Except.ok.inj hunwritable
  rw [hnone] at hencoding
  cases hencoding

theorem Holds.not_emptied (h : disk.Holds location path image)
    (hempty : disk.get? location = some (.file (.text ""))) : False := by
  obtain ⟨format, encoding, -, -, hfile⟩ := h
  rw [hempty] at hfile
  cases hfile

end Disk

end Wireframe
