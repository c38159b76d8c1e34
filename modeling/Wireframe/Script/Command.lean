import Wireframe.Geometry.Matrix
import Wireframe.Script.Field

/-!
The commands of a script, the keywords that begin them and the fields they take.
-/

namespace Wireframe

inductive Command where
  | line (start finish : Triple)
  | ident
  | scale (factors : Triple)
  | move (offset : Triple)
  | rotate (axis : Axis) (degrees : Single)
  | apply
  | display
  | save (path : String)
  deriving DecidableEq

inductive BareKeyword where
  | ident
  | apply
  | display
  deriving DecidableEq

/-- Keywords whose arguments stand on the next line. -/
inductive ArgumentKeyword where
  | line
  | scale
  | move
  | rotate
  | save
  deriving DecidableEq

inductive Keyword where
  | bare (keyword : BareKeyword)
  | argument (keyword : ArgumentKeyword)
  deriving DecidableEq

inductive ArgumentError where
  | fieldCount (expected found : Nat)
  | fieldKind (expected found : FieldKind) (field : String)
  | notSingle (field : String)
  deriving DecidableEq

namespace BareKeyword

def name : BareKeyword → String
  | ident => "ident"
  | apply => "apply"
  | display => "display"

def command : BareKeyword → Command
  | ident => .ident
  | apply => .apply
  | display => .display

end BareKeyword

namespace ArgumentKeyword

def name : ArgumentKeyword → String
  | line => "line"
  | scale => "scale"
  | move => "move"
  | rotate => "rotate"
  | save => "save"

def fieldCount : ArgumentKeyword → Nat
  | line => 6
  | scale => 3
  | move => 3
  | rotate => 2
  | save => 1

end ArgumentKeyword

namespace Keyword

def name : Keyword → String
  | bare keyword => keyword.name
  | argument keyword => keyword.name

def all : List Keyword :=
  [.argument .line, .bare .ident, .argument .scale, .argument .move, .argument .rotate,
    .bare .apply, .bare .display, .argument .save]

/-- A keyword is written in lower case. -/
def ofText? (text : String) : Option Keyword :=
  all.find? fun keyword => keyword.name = text

@[simp] theorem ofText?_name (keyword : Keyword) :
    ofText? keyword.name = some keyword := by
  rcases keyword with keyword | keyword <;> cases keyword <;> decide

theorem name_of_ofText? {text : String} {keyword : Keyword}
    (h : ofText? text = some keyword) :
    keyword.name = text := by
  simpa using List.find?_some h

end Keyword

namespace ArgumentError

def message : ArgumentError → String
  | fieldCount expected found => s!"expected {expected} fields but found {found}"
  | fieldKind expected found field =>
      s!"expected a {expected.name} but found {found.name} '{field}'"
  | notSingle field => s!"error parsing f32: {field}"

end ArgumentError

namespace Field

def mismatch (field : Field) (expected : FieldKind) : ArgumentError :=
  .fieldKind expected field.kind field.text

def number (field : Field) : Except ArgumentError Single :=
  match Numeral.read? field.word with
  | none => .error (field.mismatch .number)
  | some numeral =>
      match numeral.value? with
      | none => .error (.notSingle field.text)
      | some value => .ok value

def axis (field : Field) : Except ArgumentError Axis :=
  match Axis.read? field.word with
  | none => .error (field.mismatch .axis)
  | some axis => .ok axis

def filePath (field : Field) : Except ArgumentError String :=
  if field.kind = .filePath then
    .ok field.text
  else
    .error (field.mismatch .filePath)

end Field

namespace ArgumentKeyword

/-- Three numbers in a row; the leftmost field that is none decides the error. -/
def triple (x y z : Field) : Except ArgumentError Triple := do
  let x ← x.number
  let y ← y.number
  let z ← z.number
  return ⟨x, y, z⟩

def command (keyword : ArgumentKeyword) (fields : List Field) :
    Except ArgumentError Command :=
  match keyword, fields with
  | line, [x₀, y₀, z₀, x₁, y₁, z₁] => do
      let start ← triple x₀ y₀ z₀
      let finish ← triple x₁ y₁ z₁
      return .line start finish
  | scale, [x, y, z] => do
      let factors ← triple x y z
      return .scale factors
  | move, [x, y, z] => do
      let offset ← triple x y z
      return .move offset
  | rotate, [axis, degrees] => do
      let axis ← axis.axis
      let degrees ← degrees.number
      return .rotate axis degrees
  | save, [path] => do
      let path ← path.filePath
      return .save path
  | _, _ => .error (.fieldCount keyword.fieldCount fields.length)

end ArgumentKeyword

end Wireframe
