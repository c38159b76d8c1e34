import Wireframe.Geometry.Axis
import Wireframe.Numeral
import Wireframe.Text.Blank

/-!
The fields of an argument line and what each of them may stand for.
-/

namespace Wireframe

inductive FieldKind where
  | number
  | axis
  | filePath
  | identifier
  deriving DecidableEq

def FieldKind.name : FieldKind → String
  | number => "number"
  | axis => "axis"
  | filePath => "file path"
  | identifier => "identifier"

namespace Script

def isFileNameChar (c : Char) : Bool :=
  c.isAlphanum || c = '_' || c = '-'

/-- A directory in a path; dots may stand anywhere in it. -/
def isDirectoryName (name : List Char) : Bool :=
  !name.isEmpty && name.all fun c => isFileNameChar c || c = '.'

/-- A file in a path: a base and an extension around the only dot. -/
def isFileName (name : List Char) : Bool :=
  match name.splitOn '.' with
  | [base, ext] =>
      !base.isEmpty && base.all isFileNameChar && !ext.isEmpty && ext.all Char.isAlphanum
  | _ => false

def dropRoot : List Char → List Char
  | '/' :: path => path
  | path => path

def isFilePath (path : List Char) : Bool :=
  let names := (dropRoot path).splitOn '/'
  names.dropLast.all isDirectoryName && names.getLast?.any isFileName

/-- A field that has more than one reading is taken for the first of them. -/
def classify (word : List Char) : FieldKind :=
  if (Numeral.read? word).isSome then .number
  else if (Axis.read? word).isSome then .axis
  else if isFilePath word then .filePath
  else .identifier

end Script

structure Field where
  word : List Char
  deriving DecidableEq

namespace Field

def text (field : Field) : String :=
  String.ofList field.word

def kind (field : Field) : FieldKind :=
  Script.classify field.word

def ofLine (line : String) : List Field :=
  (Text.words line.toList).map Field.mk

end Field

end Wireframe
