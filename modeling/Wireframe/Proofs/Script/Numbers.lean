import Wireframe.Proofs.Numeral.Value
import Wireframe.Proofs.Script.Blocks
import Wireframe.Proofs.Script.Classes
import Wireframe.Proofs.Script.Refusal

/-!
The numbers of a script. A field in ASCII digits is the single nearest to the decimal that
it stands for; one in other digits is an error, so no number of a command is NaN.
-/

namespace Wireframe

open Text (isDecimalDigit)

def Command.numbers : Command → List Single
  | .line start finish => [start.x, start.y, start.z, finish.x, finish.y, finish.z]
  | .scale factors => [factors.x, factors.y, factors.z]
  | .move offset => [offset.x, offset.y, offset.z]
  | .rotate _ degrees => [degrees]
  | _ => []

theorem Text.isDigit_iff {c : Char} : c.isDigit ↔ isDecimalDigit c ∧ c.toNat < 128 := by
  have hrange : c.isDigit ↔ 0x30 ≤ c.toNat ∧ c.toNat ≤ 0x30 + 9 := by
    simp [Char.isDigit, UInt32.le_iff_toNat_le]
  constructor
  · intro h
    exact ⟨isDecimalDigit_of_isDigit h, by have := hrange.mp h; omega⟩
  · intro h
    obtain ⟨first, hfirst, hdigit⟩ := List.any_eq_true.mp h.1
    have hbetween : first ≤ c.toNat ∧ c.toNat ≤ first + 9 := by simpa using hdigit
    -- The digits of other scripts come long after those of ASCII.
    have honly : ∀ first ∈ zeroDigits, first < 128 → first = 0x30 := by decide
    obtain rfl := honly first hfirst (by omega)
    exact hrange.mpr hbetween

theorem Numeral.ascii_of_mem_marks : ∀ c ∈ marks, c.toNat < 128 := by
  simp only [marks, List.forall_mem_cons, List.not_mem_nil, false_imp_iff, implies_true]
  decide

namespace Field

variable {field : Field} {n : Numeral} {x : Single}

def IsAscii (field : Field) : Prop :=
  ∀ c ∈ field.word, c.toNat < 128

theorem isAsciiNumber_iff_ascii (h : field.kind = .number) :
    field.IsAsciiNumber ↔ field.IsAscii := by
  obtain ⟨n, hn⟩ := (Script.classify_number_iff field.word).mp h
  constructor
  · intro hfield c hc
    rcases hn.chars c hc with hdigit | hmark
    · exact (Text.isDigit_iff.mp (hfield.ascii c hc hdigit)).2
    · exact Numeral.ascii_of_mem_marks c hmark
  · intro hascii
    exact ⟨h, fun c hc hdigit => Text.isDigit_iff.mpr ⟨hdigit, hascii c hc⟩⟩

theorem number_of_spells (h : n.Spells field.word) :
    field.number = n.value?.elim (.error (.notSingle field.text)) .ok := by
  have hread := Numeral.read?_eq_some_iff.mpr h
  cases hvalue : n.value? <;> simp [number, hread, hvalue]

theorem value?_of_number (hn : n.Spells field.word) (h : field.number = .ok x) :
    n.value? = some x := by
  rw [number_of_spells hn] at h
  cases hvalue : n.value? with
  | none =>
      rw [hvalue] at h
      cases h
  | some y =>
      rw [hvalue] at h
      cases h
      rfl

theorem exists_number_iff_ascii (h : field.kind = .number) :
    (∃ x, field.number = .ok x) ↔ field.IsAscii := by
  simp only [number_eq_ok_iff, exists_and_left, exists_eq, and_true,
    isAsciiNumber_iff_ascii h]

theorem number_of_not_ascii (h : field.kind = .number) (hascii : ¬ field.IsAscii) :
    field.number = .error (.notSingle field.text) := by
  obtain ⟨n, hn⟩ := (Script.classify_number_iff field.word).mp h
  have hfail := mt (exists_number_iff_ascii h).mp hascii
  rw [number_of_spells hn] at hfail ⊢
  cases hvalue : n.value? with
  | none => rfl
  | some x => exact absurd ⟨x, by rw [hvalue]; rfl⟩ hfail

theorem IsAsciiNumber.value_ne_nan (h : field.IsAsciiNumber) : field.value ≠ .nan := by
  obtain ⟨n, hn⟩ := (Script.classify_number_iff field.word).mp h.kind
  have hvalue := value?_of_number hn (number_eq_ok_iff.mpr ⟨h, rfl⟩)
  rw [Numeral.value?, Option.ite_none_right_eq_some] at hvalue
  rw [← Option.some.inj hvalue.2]
  exact Binary.ofRatio_ne_nan _ _ _

end Field

theorem Arguments.numbers_ne_nan {keyword : ArgumentKeyword} {fields : List Field}
    {command : Command} (h : Arguments keyword fields command) :
    ∀ x ∈ command.numbers, x ≠ .nan := by
  have hvalues : ∀ {taken : List Field}, (∀ field ∈ taken, field.IsAsciiNumber) →
      ∀ x ∈ taken.map Field.value, x ≠ .nan := fun htaken =>
    List.forall_mem_map.mpr fun field hfield => (htaken field hfield).value_ne_nan
  cases h with
  | line hnumbers => exact hvalues hnumbers
  | scale hnumbers => exact hvalues hnumbers
  | move hnumbers => exact hvalues hnumbers
  | rotate _ hdegrees => exact List.forall_mem_singleton.mpr hdegrees.value_ne_nan
  | save => simp [Command.numbers]

theorem Block.numbers_ne_nan {block : List String} {command : Command}
    (h : Block block command) :
    ∀ x ∈ command.numbers, x ≠ .nan := by
  cases h with
  | @bare line keyword => cases keyword <;> simp [BareKeyword.command, Command.numbers]
  | argument _ hsecond => exact hsecond.numbers_ne_nan

/-- The field is a written form of a numeral whose exponent is less than 65536 in
size, and is read as `x`. -/
structure Field.ReadsAs (field : Field) (n : Numeral) (x : Single) : Prop where
  spells : n.Spells field.word
  exponent_lt : n.exponentSize < 65536
  number_eq : field.number = .ok x

/-- A field of the number class has a value exactly if it is in ASCII. Otherwise its line
is refused for it, unless an earlier field is at fault, so no command holds a NaN. As long
as the exponent is not too large, the value is the nearest single to the decimal that is
written, under its sign. Fields of the same decimal other than zero have the same value,
and a larger decimal has no smaller value. -/
theorem number_fields_are_nearest :
    (∀ field : Field, field.kind = .number →
      ((∃ x, field.number = .ok x) ↔ field.IsAscii) ∧
        (¬ field.IsAscii →
          field.number = .error (.notSingle field.text) ∧
            (ArgumentError.notSingle field.text).message =
              "error parsing f32: " ++ field.text ∧
            ∀ (keyword : ArgumentKeyword) (first second : String)
              (before after : List Field), Script.content first = keyword.name →
                Field.ofLine second = before ++ field :: after →
                (Field.ofLine second).length = keyword.fieldCount →
                keyword.kinds[before.length]? = some .number →
                ArgumentKeyword.firstRefusal? keyword.kinds before = none →
                ∀ cursor rest, Reader.next ⟨cursor, first :: second :: rest⟩ =
                  (.failed
                    (.malformedArguments (cursor + 2) keyword (Script.content second)
                      (.notSingle field.text)), ⟨cursor + 2, rest⟩))) ∧
      (∀ (reader after : Reader) (command : Command),
        reader.next = (.command command, after) →
        ∀ x ∈ command.numbers, x ≠ .nan) ∧
      (∀ (field : Field) (n : Numeral) (x : Single), field.ReadsAs n x →
        x.RoundsTo n.negative n.magnitude ∧
          (x.IsFinite → ∀ y : Single, y.IsFinite →
            |n.exact - x.toRat| ≤ |n.exact - y.toRat|) ∧
          (n.exact = 0 → x = .zero n.negative) ∧
          ∀ sign, x = .zero sign → sign = n.negative) ∧
      ∀ (field other : Field) (m n : Numeral) (x y : Single),
        field.ReadsAs m x → other.ReadsAs n y →
        (m.exact = n.exact → n.exact ≠ 0 → x = y) ∧ (m.exact < n.exact → ¬ y < x) := by
  refine ⟨fun field hkind =>
    ⟨Field.exists_number_iff_ascii hkind, fun hascii => ⟨?_, ?_, ?_⟩⟩, ?_, ?_, ?_⟩
  · exact Field.number_of_not_ascii hkind hascii
  · rfl
  · intro keyword first second before after hfirst hfields hlength hplace hbefore
    refine Reader.next_of_firstRefusal hfirst hlength ?_
    rw [hfields]
    refine ArgumentKeyword.firstRefusal?_append hbefore hplace ?_
    rw [Field.refusal?, ArgumentError.of?_eq_some_iff]
    exact Field.number_of_not_ascii hkind hascii
  · intro reader after command hnext
    obtain ⟨block, hblock, -⟩ := Reader.block_of_next hnext
    exact hblock.numbers_ne_nan
  · intro field n x h
    have hvalue := Field.value?_of_number h.spells h.number_eq
    have hrounds := Numeral.roundsTo_of_value? h.exponent_lt hvalue
    refine ⟨hrounds, fun hx y hy => hrounds.closest n.magnitude_nonneg hx hy,
      fun hzero => ?_, ?_⟩
    · rw [Numeral.magnitude_of_exact_eq_zero hzero] at hrounds
      exact hrounds.eq_zero
    · exact fun sign hx => hrounds.sign_of_zero hx
  · intro field other m n x y hx hy
    have hxvalue := Field.value?_of_number hx.spells hx.number_eq
    have hyvalue := Field.value?_of_number hy.spells hy.number_eq
    exact ⟨Numeral.value?_eq_of_exact_eq hx.exponent_lt hy.exponent_lt hxvalue hyvalue,
      Numeral.not_lt_of_exact_lt hx.exponent_lt hy.exponent_lt hxvalue hyvalue⟩

theorem number_fields_are_nearest_tenth :
    let plain : Field := ⟨['.', '1']⟩
    let shifted : Field := ⟨['+', '1', '0', '0', 'e', '-', '3']⟩
    let wide : Field := ⟨['٣']⟩
    let x : Single := plain.value
    (∃ n : Numeral, n.Spells shifted.word ∧ n.exact = 1 / 10 ∧ shifted.number = .ok x ∧
      x.RoundsTo false (1 / 10)) ∧
      (wide.kind = .number ∧ ¬ wide.IsAscii) ∧
      Reader.next ⟨0, ["scale", " .1 ٣ x"]⟩ =
        (.failed (.malformedArguments 2 .scale ".1 ٣ x" (.notSingle "٣")), ⟨2, []⟩) := by
  intro plain shifted wide x
  let m : Numeral := ⟨false, [], ['1'], none⟩
  let n : Numeral := ⟨false, ['1', '0', '0'], [], some ⟨true, ['3']⟩⟩
  have hplain : plain.ReadsAs m x :=
    ⟨Numeral.read?_eq_some_iff.mp (by decide), by decide, by decide +kernel⟩
  have hshifted : shifted.ReadsAs n shifted.value :=
    ⟨Numeral.read?_eq_some_iff.mp (by decide), by decide, by decide +kernel⟩
  have hnatural : Numeral.natural [] = 0 ∧ Numeral.natural ['1'] = 1 ∧
    Numeral.natural ['3'] = 3 ∧
      Numeral.natural ['1', '0', '0'] = 100 := by decide
  obtain ⟨hnil, hone, hthree, hhundred⟩ := hnatural
  have hm : m.exact = 1 / 10 := by
    norm_num [m, Numeral.exact, Binary.withSign, Numeral.magnitude, Numeral.power,
      hnil, hone]
  have hn : n.exact = 1 / 10 := by
    norm_num [n, Numeral.exact, Binary.withSign, Numeral.magnitude, Numeral.power,
      Binary.signed, hnil, hthree, hhundred]
  have hwide : wide.kind = .number ∧ ¬ wide.IsAscii :=
    ⟨by
      decide, fun hascii => absurd (hascii '٣' (List.mem_singleton.mpr rfl)) (by decide)⟩
  obtain ⟨hclass, -, hvalue, hspellings⟩ := number_fields_are_nearest
  have hsame : x = shifted.value :=
    (hspellings plain shifted m n _ _ hplain hshifted).1 (hm.trans hn.symm)
      (hn ▸ by norm_num)
  have hrounds : x.RoundsTo false (1 / 10) := by
    rw [← hm]
    exact (hvalue plain m x hplain).1
  obtain ⟨-, -, hanswer⟩ := (hclass wide hwide.1).2 hwide.2
  refine ⟨⟨n, hshifted.spells, hn, hsame ▸ hshifted.number_eq, hrounds⟩, hwide, ?_⟩
  exact hanswer .scale "scale" " .1 ٣ x" [plain] [⟨['x']⟩] (by decide) (by decide)
    (by decide) rfl (by decide +kernel) 0 []

end Wireframe
