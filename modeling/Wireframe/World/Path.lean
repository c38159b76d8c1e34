/-!
File paths and the steps they are made of.
-/

namespace Wireframe

namespace Path

def pieces (path : String) : List String :=
  (path.toList.splitOn '/').map String.ofList

def isAbsolute (path : String) : Bool :=
  path.toList.head? = some '/'

/-- A path has fewer bytes than this. -/
def sizeLimit : Nat := 4096

/-- A name has at most 255 bytes. -/
def isTooLong (piece : String) : Bool :=
  255 < piece.utf8ByteSize

def isIdle (piece : String) : Bool :=
  piece = "" || piece = "."

/-- The last piece that names anything, unless it leads back up. -/
def fileName? (path : String) : Option String :=
  match ((pieces path).filter fun piece => !isIdle piece).getLast? with
  | none => none
  | some name => if name = ".." then none else some name

/-- What follows the last dot of a name; a dot at the front does not count. -/
def extensionOfName? (name : String) : Option String :=
  let backwards := name.toList.reverse
  match backwards.dropWhile (· ≠ '.') with
  | [] => none
  | [_] => none
  | _ => some (String.ofList (backwards.takeWhile (· ≠ '.')).reverse)

def extension? (path : String) : Option String :=
  (fileName? path).bind extensionOfName?

end Path

end Wireframe
