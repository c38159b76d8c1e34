import Wireframe.Image.Encode
import Wireframe.World.Path

/-!
A tree of files and directories, and what happens when a path is read from or written to.
Each name stands for a file of its own, all files can be read and written, and there is
room for them: links, permissions and full disks are left out.
-/

namespace Wireframe

/-- What a system says about a file; a tree never gives the last reason. -/
inductive FileError where
  | notFound
  | notADirectory
  | isADirectory
  | nameTooLong
  | nulInPath
  | other (code : Nat) (reason : String)
  deriving DecidableEq

namespace FileError

def code? : FileError → Option Nat
  | notFound => some 2
  | notADirectory => some 20
  | isADirectory => some 21
  | nameTooLong => some 36
  | nulInPath => none
  | other code _ => some code

def reason : FileError → String
  | notFound => "No such file or directory"
  | notADirectory => "Not a directory"
  | isADirectory => "Is a directory"
  | nameTooLong => "File name too long"
  | nulInPath => "file name contained an unexpected NUL byte"
  | other _ reason => reason

def ofCode (code : Nat) (reason : String) : FileError :=
  if code = 2 then notFound
  else if code = 20 then notADirectory
  else if code = 21 then isADirectory
  else if code = 36 then nameTooLong
  else other code reason

def message (e : FileError) : String :=
  match e.code? with
  | some code => s!"{e.reason} (os error {code})"
  | none => e.reason

end FileError

inductive FileContent where
  | text (text : String)
  | image (encoding : Encoding) (image : Image)
  | binary (bytes : List UInt8)
  deriving DecidableEq

namespace FileContent

def bytes : FileContent → Bytes
  | text written => Bytes.ofText written
  | image encoding shown => shown.encode encoding
  | binary content => content.toArray

def encoding? : FileContent → Option Encoding
  | image encoding _ => some encoding
  | _ => none

/-- What a file reads as, if its bytes are those of a text. -/
def text? : FileContent → Option String
  | text written => some written
  | content => String.fromUTF8? ⟨content.bytes⟩

theorem text?_eq (content : FileContent) :
    content.text? = String.fromUTF8? ⟨content.bytes⟩ := by
  cases content with
  | text written =>
      have hvalid : ByteArray.IsValidUTF8 ⟨(text written).bytes⟩ := written.isValidUTF8
      rw [String.fromUTF8?, dif_pos hvalid]
      rfl
  | image encoding shown => rfl
  | binary content => rfl

theorem not_isValidUTF8 {bytes : Bytes} {rest : List UInt8}
    (h : bytes.toList = 0x89 :: rest) :
    ¬ ByteArray.IsValidUTF8 ⟨bytes⟩ := by
  intro hvalid
  have hpos : 0 < bytes.size := by
    rw [← Array.length_toList, h]
    exact Nat.zero_lt_succ _
  have hfirst : bytes[0] = 0x89 := by
    rw [← Array.getElem_toList]
    exact List.getElem_of_eq h _
  have hbyte : bytes[0].IsUTF8FirstByte := hvalid.isUTF8FirstByte_getElem_zero hpos
  rw [hfirst] at hbyte
  revert hbyte
  decide

theorem text?_of_png {content : FileContent} (h : content.encoding? = some .png) :
    content.text? = none := by
  cases content with
  | image encoding shown =>
      obtain rfl : encoding = .png := Option.some.inj h
      have hbytes : shown.png.toList = 0x89 :: shown.png.toList.tail := by
        simp [Image.png, Png.signature]
      rw [text?_eq, String.fromUTF8?, dif_neg]
      exact not_isValidUTF8 hbytes
  | text written => cases h
  | binary content => cases h

end FileContent

/-- The names that lead from the root to a file or directory. -/
abbrev Location := List String

inductive Entry where
  | file (content : FileContent)
  | directory
  deriving DecidableEq

/-- The root is a directory of every tree. -/
structure FileTree where
  entries : List (Location × Entry)
  deriving DecidableEq

namespace FileTree

def empty : FileTree := ⟨[]⟩

def get? (tree : FileTree) (location : Location) : Option Entry :=
  if location = [] then some .directory else tree.entries.lookup location

def put (tree : FileTree) (location : Location) (entry : Entry) : FileTree :=
  ⟨(location, entry) :: tree.entries.filter fun other => other.1 ≠ location⟩

theorem get?_put_self {tree : FileTree} {location : Location} (entry : Entry)
    (h : location ≠ []) : (tree.put location entry).get? location = some entry := by
  simp [get?, put, h]

def step (directory : Location) (piece : String) : Location :=
  if Path.isIdle piece then directory
  else if piece = ".." then directory.dropLast
  else directory ++ [piece]

/-- Follows the pieces of a path; each of them needs a directory to stand in, and
must not be too long. -/
def walk (tree : FileTree) : Location → List String → Except FileError Location
  | location, [] => .ok location
  | location, piece :: pieces =>
      match tree.get? location with
      | some .directory =>
          if Path.isTooLong piece then .error .nameTooLong
          else walk tree (step location piece) pieces
      | some (.file _) => .error .notADirectory
      | none => .error .notFound

def origin (directory : Location) (path : String) : Location :=
  if Path.isAbsolute path then [] else directory

def fault? (path : String) : Option FileError :=
  if path.toList.contains '\x00' then some .nulInPath
  else if path = "" then some .notFound
  else if Path.sizeLimit ≤ path.utf8ByteSize then some .nameTooLong
  else none

def resolve (tree : FileTree) (directory : Location) (path : String) :
    Except FileError Location :=
  match fault? path with
  | some e => .error e
  | none => tree.walk (origin directory path) (Path.pieces path)

def contentAt (tree : FileTree) (location : Location) : Except FileError FileContent :=
  match tree.get? location with
  | some (.file content) => .ok content
  | some .directory => .error .isADirectory
  | none => .error .notFound

def read (tree : FileTree) (directory : Location) (path : String) :
    Except FileError FileContent :=
  match tree.resolve directory path with
  | .error e => .error e
  | .ok location => tree.contentAt location

/-- The pieces of a path up to the last that is not empty. -/
def piecesToWrite (path : String) : List String :=
  ((Path.pieces path).reverse.dropWhile (· = "")).reverse

/-- Where the last piece of a path leads; one that is followed by a slash
stands for a directory. -/
def lastStep (tree : FileTree) (parent : Location) (piece : String) (slash : Bool) :
    Except FileError Location :=
  match tree.get? parent with
  | none => .error .notFound
  | some (.file _) => .error .notADirectory
  | some .directory =>
      if slash || tree.get? (step parent piece) = some .directory then
        .error .isADirectory
      else if Path.isTooLong piece then .error .nameTooLong
      else .ok (step parent piece)

/--
Where a path that is written to leads. Its last piece need not exist, but it has to name a
file: one that ends in a slash, in `.` or in `..` stands for a directory.
-/
def target (tree : FileTree) (directory : Location) (path : String) :
    Except FileError Location :=
  match fault? path with
  | some e => .error e
  | none =>
      let pieces := piecesToWrite path
      match tree.walk (origin directory path) pieces.dropLast with
      | .error e => .error e
      | .ok parent =>
          lastStep tree parent (pieces.getLast?.getD ".") (pieces ≠ Path.pieces path)

/-- Writing replaces all that a file held before. -/
def write (tree : FileTree) (directory : Location) (path : String)
    (content : FileContent) :
    Except FileError FileTree :=
  match tree.target directory path with
  | .error e => .error e
  | .ok location => .ok (tree.put location (.file content))

end FileTree

end Wireframe
