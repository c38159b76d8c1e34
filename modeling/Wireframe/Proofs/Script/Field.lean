import Wireframe.Proofs.Numeral
import Wireframe.Proofs.Text.Words
import Wireframe.Script.Reader

/-!
Which fields a command takes in each place, and what it makes of them.
-/

namespace Wireframe

def Axis.letters : Axis → List Char
  | x => ['x', 'X']
  | y => ['y', 'Y']
  | z => ['z', 'Z']

theorem Axis.read?_eq_some_iff {word : List Char} {axis : Axis} :
    read? word = some axis ↔ ∃ letter ∈ axis.letters, word = [letter] := by
  cases axis <;> simp [read?, letters] <;> grind

theorem Numeral.isSome_value? (n : Numeral) :
    n.value?.isSome ↔ n.allDigits.all Char.isDigit := by
  unfold value?
  split <;> simp [*]

namespace Field

/-- A field of the number class in which no digits but those of ASCII occur. -/
structure IsAsciiNumber (field : Field) : Prop where
  kind : field.kind = .number
  ascii : ∀ c ∈ field.word, Text.isDecimalDigit c → c.isDigit

def value (field : Field) : Single :=
  ((Numeral.read? field.word).bind Numeral.value?).getD .nan

variable {field : Field}

theorem kind_eq_number_iff :
    field.kind = .number ↔ (Numeral.read? field.word).isSome := by
  unfold kind Script.classify
  grind

theorem isAsciiNumber_iff_of_read? {n : Numeral} (h : Numeral.read? field.word = some n) :
    field.IsAsciiNumber ↔ n.value?.isSome := by
  rw [Numeral.isSome_value?, Numeral.allDigits_of_read? h, List.all_filter,
    List.all_eq_true]
  constructor
  · intro hfield c hc
    simpa [or_iff_not_imp_left] using hfield.ascii c hc
  · intro hdigits
    refine ⟨kind_eq_number_iff.mpr (by simp [h]), fun c hc => ?_⟩
    simpa [or_iff_not_imp_left] using hdigits c hc

theorem number_eq_ok_iff {x : Single} :
    field.number = .ok x ↔ field.IsAsciiNumber ∧ x = field.value := by
  cases hread : Numeral.read? field.word with
  | none =>
      have hnot : ¬ field.IsAsciiNumber := fun hfield => by
        simpa [hread] using kind_eq_number_iff.mp hfield.kind
      simp [number, hread, hnot]
  | some n =>
      rw [isAsciiNumber_iff_of_read? hread]
      cases hvalue : n.value? with
      | none => simp [number, hread, hvalue]
      | some y => simp [number, value, hread, hvalue, eq_comm]

theorem axis_eq_ok_iff {axis : Axis} :
    field.axis = .ok axis ↔ ∃ letter ∈ axis.letters, field = ⟨[letter]⟩ := by
  have hread : field.axis = .ok axis ↔ Axis.read? field.word = some axis := by
    unfold Field.axis
    split <;> simp_all
  rw [hread, Axis.read?_eq_some_iff]
  cases field
  simp

theorem filePath_eq_ok_iff {path : String} :
    field.filePath = .ok path ↔ field.kind = .filePath ∧ path = field.text := by
  unfold filePath
  split <;> simp_all [eq_comm]

@[simp] theorem ofLine_content (line : String) :
    ofLine (Script.content line) = ofLine line := by
  simp [ofLine, Script.content]

end Field

end Wireframe
