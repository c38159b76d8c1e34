import Mathlib.Data.List.Basic
import Wireframe.Numeral

/-!
The written forms of a numeral. A word is a written form of one numeral at most, and
reading the word finds this numeral.
-/

namespace Wireframe.Numeral

open Text (isDecimalDigit)

def AreDigits (text : List Char) : Prop :=
  ∀ c ∈ text, isDecimalDigit c

inductive SpellsSign : Bool → List Char → Prop
  | absent : SpellsSign false []
  | plus : SpellsSign false ['+']
  | minus : SpellsSign true ['-']

/-- The digits before and after a point that may be left out if no digits follow it. -/
inductive SpellsDigits : List Char → List Char → List Char → Prop
  | whole {whole : List Char} (hne : whole ≠ []) (hwhole : AreDigits whole) :
      SpellsDigits whole [] whole
  | both {whole fraction : List Char} (hne : whole ≠ []) (hwhole : AreDigits whole)
      (hfraction : AreDigits fraction) :
      SpellsDigits whole fraction (whole ++ '.' :: fraction)
  | fraction {fraction : List Char} (hne : fraction ≠ [])
      (hfraction : AreDigits fraction) :
      SpellsDigits [] fraction ('.' :: fraction)

inductive SpellsExponent : Option Exponent → List Char → Prop
  | absent : SpellsExponent none []
  | present {mark : Char} {negative : Bool} {sign digits : List Char}
      (hmark : mark = 'e' ∨ mark = 'E') (hsign : SpellsSign negative sign)
      (hne : digits ≠ []) (hdigits : AreDigits digits) :
      SpellsExponent (some ⟨negative, digits⟩) (mark :: (sign ++ digits))

inductive Spells (n : Numeral) : List Char → Prop
  | intro {sign digits exponent : List Char} (hsign : SpellsSign n.negative sign)
      (hdigits : SpellsDigits n.whole n.fraction digits)
      (hexponent : SpellsExponent n.exponent exponent) :
      Spells n (sign ++ (digits ++ exponent))

/-! What is read from the front of a word. -/

theorem spellsSign_of_takeSign {text rest : List Char} {negative : Bool}
    (h : takeSign text = (negative, rest)) :
    ∃ sign, SpellsSign negative sign ∧ text = sign ++ rest := by
  unfold takeSign at h
  split at h <;> cases h
  · exact ⟨['+'], .plus, rfl⟩
  · exact ⟨['-'], .minus, rfl⟩
  · exact ⟨[], .absent, rfl⟩

theorem takeSign_append {negative : Bool} {sign rest : List Char}
    (h : SpellsSign negative sign) (hrest : ∀ c ∈ rest.head?, c ≠ '+' ∧ c ≠ '-') :
    takeSign (sign ++ rest) = (negative, rest) := by
  cases h with
  | plus => rfl
  | minus => rfl
  | absent =>
      rw [List.nil_append]
      unfold takeSign
      split
      · exact absurd rfl (hrest '+' rfl).1
      · exact absurd rfl (hrest '-' rfl).2
      · rfl

theorem areDigits_of_takeDigits {text digits rest : List Char}
    (h : takeDigits text = (digits, rest)) :
    AreDigits digits ∧ text = digits ++ rest := by
  cases h
  exact ⟨List.all_eq_true.mp List.all_takeWhile, List.takeWhile_append_dropWhile.symm⟩

theorem takeDigits_append {digits rest : List Char} (hdigits : AreDigits digits)
    (hrest : ∀ c ∈ rest.head?, ¬ isDecimalDigit c) :
    takeDigits (digits ++ rest) = (digits, rest) := by
  have hstop : rest.takeWhile isDecimalDigit = [] ∧
      rest.dropWhile isDecimalDigit = rest := by
    cases rest with
    | nil => exact ⟨rfl, rfl⟩
    | cons c rest =>
        have hc := hrest c rfl
        exact ⟨List.takeWhile_cons_of_neg hc, List.dropWhile_cons_of_neg hc⟩
  rw [takeDigits, List.takeWhile_append_of_pos hdigits,
    List.dropWhile_append_of_pos hdigits, hstop.1, hstop.2, List.append_nil]

/-- A numeral goes on behind its digits with nothing but an exponent. -/
def ExponentComes (rest : List Char) : Prop :=
  ∀ c ∈ rest.head?, c = 'e' ∨ c = 'E'

theorem exponentComes {exponent : Option Exponent} {text : List Char}
    (h : SpellsExponent exponent text) :
    ExponentComes text := by
  intro c hc
  cases h with
  | absent => cases hc
  | present hmark =>
      cases hc
      exact hmark

theorem ExponentComes.not_digit {rest : List Char} (h : ExponentComes rest) :
    ∀ c ∈ rest.head?, ¬ isDecimalDigit c := by
  intro c hc
  rcases h c hc with rfl | rfl <;> decide

theorem takeFraction_of_exponentComes {rest : List Char} (h : ExponentComes rest) :
    takeFraction rest = ([], rest) := by
  unfold takeFraction
  split
  · exact absurd (h '.' rfl) (by decide)
  · rfl

theorem takeDigits_of_spellsDigits {whole fraction digits rest : List Char}
    (h : SpellsDigits whole fraction digits) (hrest : ExponentComes rest) :
    ∃ after, takeDigits (digits ++ rest) = (whole, after) ∧
    takeFraction after = (fraction, rest) := by
  have hpoint : ∀ text : List Char, ∀ c ∈ ('.' :: text).head?, ¬ isDecimalDigit c := by
    rintro text c hc
    cases hc
    decide
  cases h with
  | whole hne hwhole =>
      exact ⟨rest, takeDigits_append hwhole hrest.not_digit,
        takeFraction_of_exponentComes hrest⟩
  | both hne hwhole hfraction =>
      refine ⟨'.' :: (fraction ++ rest), ?_, takeDigits_append hfraction hrest.not_digit⟩
      rw [List.append_assoc]
      exact takeDigits_append hwhole (hpoint _)
  | fraction hne hfraction =>
      refine ⟨'.' :: (fraction ++ rest), ?_, takeDigits_append hfraction hrest.not_digit⟩
      exact takeDigits_append (show AreDigits [] by simp [AreDigits]) (hpoint _)

theorem ne_nil_of_spellsDigits {whole fraction digits : List Char}
    (h : SpellsDigits whole fraction digits) :
    ¬ (whole = [] ∧ fraction = []) := by
  cases h with
  | whole hne => exact fun hnil => hne hnil.1
  | both hne => exact fun hnil => hne hnil.1
  | fraction hne => exact fun hnil => hne hnil.2

theorem head?_of_spellsDigits {whole fraction digits : List Char}
    (h : SpellsDigits whole fraction digits) (rest : List Char) :
    ∀ c ∈ (digits ++ rest).head?, c = '.' ∨ isDecimalDigit c := by
  intro c hc
  cases h with
  | whole hne hwhole =>
      obtain ⟨first, others, rfl⟩ := List.exists_cons_of_ne_nil hne
      cases hc
      exact .inr (hwhole _ (by simp))
  | both hne hwhole =>
      obtain ⟨first, others, rfl⟩ := List.exists_cons_of_ne_nil hne
      cases hc
      exact .inr (hwhole _ (by simp))
  | fraction =>
      cases hc
      exact .inl rfl

theorem spellsDigits_of_take {unsigned whole after fraction rest : List Char}
    (hwhole : takeDigits unsigned = (whole, after))
    (hfraction : takeFraction after = (fraction, rest))
    (hne : ¬ (whole = [] ∧ fraction = [])) :
    ∃ digits, SpellsDigits whole fraction digits ∧ unsigned = digits ++ rest := by
  obtain ⟨hdigits, rfl⟩ := areDigits_of_takeDigits hwhole
  unfold takeFraction at hfraction
  split at hfraction
  · obtain ⟨hfraction_digits, rfl⟩ := areDigits_of_takeDigits hfraction
    refine ⟨whole ++ '.' :: fraction, ?_, by simp⟩
    by_cases hnil : whole = []
    · subst hnil
      exact .fraction (fun hfraction_nil => hne ⟨rfl, hfraction_nil⟩) hfraction_digits
    · exact .both hnil hdigits hfraction_digits
  · cases hfraction
    exact ⟨whole, .whole (fun hnil => hne ⟨hnil, rfl⟩) hdigits, rfl⟩

theorem readExponent?_eq_some_iff {text : List Char} {exponent : Option Exponent} :
    readExponent? text = some exponent ↔ SpellsExponent exponent text := by
  constructor
  · intro h
    cases text with
    | nil =>
        cases h
        exact .absent
    | cons mark text =>
        match htake : takeSign text with
        | (negative, digits) =>
          simp only [readExponent?, htake, Option.ite_none_right_eq_some,
            Option.some.injEq] at h
          obtain ⟨⟨hmark, hne, hdigits⟩, rfl⟩ := h
          obtain ⟨sign, hsign, rfl⟩ := spellsSign_of_takeSign htake
          exact .present hmark hsign hne (List.all_eq_true.mp hdigits)
  · intro h
    cases h with
    | absent => rfl
    | @present mark negative sign digits hmark hsign hne hdigits =>
        have hhead : ∀ c ∈ digits.head?, c ≠ '+' ∧ c ≠ '-' := by
          intro c hc
          have hdigit := hdigits c (List.mem_of_mem_head? hc)
          constructor <;> rintro rfl <;> exact absurd hdigit (by decide)
        rw [readExponent?, takeSign_append hsign hhead]
        exact if_pos ⟨hmark, hne, List.all_eq_true.mpr hdigits⟩

theorem read?_eq_some_iff {word : List Char} {n : Numeral} :
    read? word = some n ↔ n.Spells word := by
  constructor
  · intro h
    match htake : takeSign word with
    | (negative, unsigned) =>
      match hwhole : takeDigits unsigned with
      | (whole, after) =>
        match hfraction : takeFraction after with
        | (fraction, rest) =>
          simp only [read?, htake, hwhole, hfraction, Option.ite_none_left_eq_some,
            Option.map_eq_some_iff] at h
          obtain ⟨hne, exponent, hexponent, rfl⟩ := h
          obtain ⟨sign, hsign, rfl⟩ := spellsSign_of_takeSign htake
          obtain ⟨digits, hdigits, rfl⟩ := spellsDigits_of_take hwhole hfraction hne
          exact .intro hsign hdigits (readExponent?_eq_some_iff.mp hexponent)
  · rintro ⟨hsign, hdigits, hexponent⟩
    rename_i sign digits exponent
    have hhead : ∀ c ∈ (digits ++ exponent).head?, c ≠ '+' ∧ c ≠ '-' := by
      intro c hc
      rcases head?_of_spellsDigits hdigits exponent c hc with rfl | hdigit
      · decide
      · constructor <;> rintro rfl <;> exact absurd hdigit (by decide)
    obtain ⟨after, hwhole, hfraction⟩ :=
      takeDigits_of_spellsDigits hdigits (exponentComes hexponent)
    simp only [read?, takeSign_append hsign hhead, hwhole, hfraction,
      if_neg (ne_nil_of_spellsDigits hdigits), readExponent?_eq_some_iff.mpr hexponent]
    rfl

/-! The characters of a written form. -/

def marks : List Char :=
  ['+', '-', '.', 'e', 'E']

theorem SpellsSign.chars {negative : Bool} {sign : List Char}
    (h : SpellsSign negative sign) :
    ∀ c ∈ sign, c ∈ marks := by
  cases h <;> simp [marks]

theorem SpellsDigits.chars {whole fraction digits : List Char}
    (h : SpellsDigits whole fraction digits) :
    ∀ c ∈ digits, isDecimalDigit c ∨ c ∈ marks := by
  have hpoint : '.' ∈ marks := by decide
  intro c hc
  cases h with
  | whole _ hwhole => exact .inl (hwhole c hc)
  | both _ hwhole hfraction =>
      rcases List.mem_append.mp hc with hc | hc
      · exact .inl (hwhole c hc)
      · rcases List.mem_cons.mp hc with rfl | hc
        · exact .inr hpoint
        · exact .inl (hfraction c hc)
  | fraction _ hfraction =>
      rcases List.mem_cons.mp hc with rfl | hc
      · exact .inr hpoint
      · exact .inl (hfraction c hc)

theorem SpellsExponent.chars {exponent : Option Exponent} {text : List Char}
    (h : SpellsExponent exponent text) : ∀ c ∈ text, isDecimalDigit c ∨ c ∈ marks := by
  intro c hc
  cases h with
  | absent => cases hc
  | present hmark hsign _ hdigits =>
      rcases List.mem_cons.mp hc with rfl | hc
      · rcases hmark with rfl | rfl <;> exact .inr (by decide)
      · rcases List.mem_append.mp hc with hc | hc
        · exact .inr (hsign.chars c hc)
        · exact .inl (hdigits c hc)

theorem Spells.chars {word : List Char} {n : Numeral} (h : n.Spells word) :
    ∀ c ∈ word, isDecimalDigit c ∨ c ∈ marks := by
  obtain ⟨hsign, hdigits, hexponent⟩ := h
  refine List.forall_mem_append.mpr ⟨fun c hc => .inr (hsign.chars c hc), ?_⟩
  exact List.forall_mem_append.mpr ⟨hdigits.chars, hexponent.chars⟩

end Wireframe.Numeral
