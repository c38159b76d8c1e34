import Wireframe.Numeral

/-!
What is left of a word that has been read as a numeral: its digits, in order.
-/

namespace Wireframe.Numeral

open Text (isDecimalDigit)

theorem filter_takeSign (text : List Char) :
    (takeSign text).2.filter isDecimalDigit = text.filter isDecimalDigit := by
  unfold takeSign
  split
  · rw [List.filter_cons_of_neg (by decide)]
  · rw [List.filter_cons_of_neg (by decide)]
  · rfl

theorem takeDigits_append_filter (text : List Char) :
    (takeDigits text).1 ++ (takeDigits text).2.filter isDecimalDigit =
      text.filter isDecimalDigit := by
  have hdigits : (takeDigits text).1.filter isDecimalDigit = (takeDigits text).1 :=
    List.filter_eq_self.mpr fun c hc => List.all_eq_true.mp List.all_takeWhile c hc
  calc
    (takeDigits text).1 ++ (takeDigits text).2.filter isDecimalDigit =
        ((takeDigits text).1 ++ (takeDigits text).2).filter isDecimalDigit := by
      rw [List.filter_append, hdigits]
    _ = text.filter isDecimalDigit := by
      rw [takeDigits, List.takeWhile_append_dropWhile]

theorem takeFraction_append_filter (text : List Char) :
    (takeFraction text).1 ++ (takeFraction text).2.filter isDecimalDigit =
      text.filter isDecimalDigit := by
  unfold takeFraction
  split
  · rw [takeDigits_append_filter, List.filter_cons_of_neg (by decide)]
  · rfl

theorem digits_of_readExponent? {text : List Char} {exponent : Option Exponent}
    (h : readExponent? text = some exponent) :
    (exponent.map Exponent.digits).getD [] = text.filter isDecimalDigit := by
  cases text with
  | nil =>
      cases h
      rfl
  | cons mark text =>
      simp only [readExponent?, Option.ite_none_right_eq_some, Option.some.injEq] at h
      obtain ⟨⟨hmark, -, hdigits⟩, rfl⟩ := h
      have hnot : ¬ isDecimalDigit mark := by
        rcases hmark with rfl | rfl <;> decide
      rw [List.filter_cons_of_neg hnot, ← filter_takeSign text]
      exact (List.filter_eq_self.mpr (List.all_eq_true.mp hdigits)).symm

theorem allDigits_of_read? {word : List Char} {n : Numeral} (h : read? word = some n) :
    n.allDigits = word.filter isDecimalDigit := by
  simp only [read?, Option.ite_none_left_eq_some, Option.map_eq_some_iff] at h
  obtain ⟨-, exponent, hexponent, rfl⟩ := h
  rw [allDigits, digits_of_readExponent? hexponent, List.append_assoc,
    takeFraction_append_filter, takeDigits_append_filter, filter_takeSign]

end Wireframe.Numeral
