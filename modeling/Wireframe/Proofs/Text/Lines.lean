import Wireframe.Proofs.Text.Words
import Wireframe.Text.Lines

/-!
The ends of lines. A line feed ends a line with a carriage return before it or without,
and the last line needs none; the most that changes with it is a carriage return at the
end of a line, which is a blank.
-/

namespace Wireframe.Text

def withCarriageReturns (text : List Char) : List Char :=
  text.flatMap fun c => if c = '\n' then ['\r', '\n'] else [c]

/-- A line feed at the end of a text that has something but no line feed there. -/
def withFinalLineFeed (text : List Char) : List Char :=
  if text.getLast?.all fun c => c = '\n' then text else text ++ ['\n']

def onFirstLine (c : Char) : List (List Char) → List (List Char)
  | [] => [[c]]
  | line :: others => (c :: line) :: others

theorem trimEnd_onFirstLine (c : Char) {texts others : List (List Char)}
    (h : texts.map trimEnd = others.map trimEnd) :
    (onFirstLine c texts).map trimEnd = (onFirstLine c others).map trimEnd := by
  cases texts with
  | nil =>
      rw [List.map_nil, eq_comm, List.map_eq_nil_iff] at h
      rw [h]
  | cons line texts =>
      cases others with
      | nil => cases h
      | cons other others =>
          obtain ⟨hfirst, hothers⟩ := List.cons.inj h
          simp only [onFirstLine, List.map_cons, trimEnd_cons, hfirst, hothers]

/-- But for blanks at the ends of lines, a carriage return can be taken for a
part of its line, too. -/
theorem trimEnd_lines_cons {c : Char} (h : c ≠ '\n') (text : List Char) :
    (lines (c :: text)).map trimEnd = (onFirstLine c (lines text)).map trimEnd := by
  by_cases hreturn : c = '\r' ∧ text.head? = some '\n'
  · obtain ⟨rfl, hhead⟩ := hreturn
    obtain ⟨text, rfl⟩ := List.head?_eq_some_iff.mp hhead
    rw [lines_carriageReturn, lines_lineFeed]
    rfl
  · rw [lines, if_neg h, if_neg hreturn]
    cases lines text <;> rfl

theorem trimEnd_lines_cons_congr {c : Char} (h : c ≠ '\n') {text other : List Char}
    (hlines : (lines text).map trimEnd = (lines other).map trimEnd) :
    (lines (c :: text)).map trimEnd = (lines (c :: other)).map trimEnd := by
  rw [trimEnd_lines_cons h, trimEnd_lines_cons h, trimEnd_onFirstLine c hlines]

theorem trimEnd_lines_withCarriageReturns (text : List Char) :
    (lines (withCarriageReturns text)).map trimEnd = (lines text).map trimEnd := by
  induction text with
  | nil => rfl
  | cons c text ih =>
      by_cases h : c = '\n'
      · subst h
        change (lines ('\r' :: '\n' :: withCarriageReturns text)).map trimEnd = _
        rw [lines_carriageReturn, lines_lineFeed, List.map_cons, List.map_cons, ih]
      · have hcons : withCarriageReturns (c :: text) = c :: withCarriageReturns text := by
          simp [withCarriageReturns, h]
        rw [hcons]
        exact trimEnd_lines_cons_congr h ih

theorem trimEnd_lines_concat_lineFeed {text : List Char} {last : Char} (h : last ≠ '\n') :
    (lines (text ++ [last, '\n'])).map trimEnd =
      (lines (text ++ [last])).map trimEnd := by
  induction text with
  | nil =>
      rw [List.nil_append, List.nil_append, trimEnd_lines_cons h, trimEnd_lines_cons h]
      rfl
  | cons c text ih =>
      by_cases hc : c = '\n'
      · subst hc
        rw [List.cons_append, List.cons_append, lines_lineFeed, lines_lineFeed,
          List.map_cons, List.map_cons, ih]
      · exact trimEnd_lines_cons_congr hc ih

theorem trimEnd_lines_withFinalLineFeed (text : List Char) :
    (lines (withFinalLineFeed text)).map trimEnd = (lines text).map trimEnd := by
  induction text using List.reverseRecOn with
  | nil => rfl
  | append_singleton text last =>
      by_cases h : last = '\n'
      · simp [withFinalLineFeed, h]
      · have hlast : withFinalLineFeed (text ++ [last]) = text ++ [last, '\n'] := by
          simp [withFinalLineFeed, h]
        rw [hlast, trimEnd_lines_concat_lineFeed h]

end Wireframe.Text
