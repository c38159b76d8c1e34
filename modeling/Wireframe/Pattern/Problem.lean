import Wireframe.Text.Lines

/-!
What can be wrong with the text of a pattern, where, and how it is shown: under the
pattern, with carets below the part in question.
-/

namespace Wireframe.Pattern

/-- A place in a text: the characters before it, its line, and its column in
that line, both from one. -/
structure Place where
  index : Nat
  line : Nat
  column : Nat
  deriving DecidableEq

namespace Place

def start : Place := ⟨0, 1, 1⟩

def after (place : Place) (c : Char) : Place :=
  if c = '\n' then ⟨place.index + 1, place.line + 1, 1⟩
  else ⟨place.index + 1, place.line, place.column + 1⟩

end Place

structure Span where
  start : Place
  finish : Place
  deriving DecidableEq

def Span.isOneLine (span : Span) : Bool :=
  span.start.line = span.finish.line

inductive Fault where
  | classEscape
  | classRangeOrder
  | classRangeBoundary
  | classUnclosed
  | decimalEmpty
  | decimalInvalid
  | hexEmpty
  | hexInvalid
  | hexDigit
  | escapeUnfinished
  | escapeUnknown
  | flagDangling
  | flagDuplicate
  | flagNegatedTwice
  | flagUnfinished
  | flagUnknown
  | nameDuplicate
  | nameEmpty
  | nameInvalid
  | nameUnfinished
  | groupUnclosed
  | groupUnopened
  | nestedTooDeep (limit : Nat)
  | countOrder
  | countEmpty
  | countUnclosed
  | repetitionMissing
  | boundaryUnclosed
  | boundaryUnknown
  | boundaryUnfinished
  | propertyInvalid
  | backreference
  | lookAround
  | unicodeNotAllowed
  | invalidText
  | propertyUnknown
  | propertyValueUnknown
  deriving DecidableEq

def Fault.message : Fault → String
  | classEscape => "invalid escape sequence in character class"
  | classRangeOrder => "invalid character class range, the start must be <= the end"
  | classRangeBoundary => "invalid range boundary, must be a literal"
  | classUnclosed => "unclosed character class"
  | decimalEmpty => "decimal literal empty"
  | decimalInvalid => "decimal literal invalid"
  | hexEmpty => "hexadecimal literal empty"
  | hexInvalid => "hexadecimal literal is not a Unicode scalar value"
  | hexDigit => "invalid hexadecimal digit"
  | escapeUnfinished => "incomplete escape sequence, reached end of pattern prematurely"
  | escapeUnknown => "unrecognized escape sequence"
  | flagDangling => "dangling flag negation operator"
  | flagDuplicate => "duplicate flag"
  | flagNegatedTwice => "flag negation operator repeated"
  | flagUnfinished => "expected flag but got end of regex"
  | flagUnknown => "unrecognized flag"
  | nameDuplicate => "duplicate capture group name"
  | nameEmpty => "empty capture group name"
  | nameInvalid => "invalid capture group character"
  | nameUnfinished => "unclosed capture group name"
  | groupUnclosed => "unclosed group"
  | groupUnopened => "unopened group"
  | nestedTooDeep limit =>
      s!"exceed the maximum number of nested parentheses/brackets ({limit})"
  | countOrder => "invalid repetition count range, the start must be <= the end"
  | countEmpty => "repetition quantifier expects a valid decimal"
  | countUnclosed => "unclosed counted repetition"
  | repetitionMissing => "repetition operator missing expression"
  | boundaryUnclosed =>
      "special word boundary assertion is either unclosed or contains " ++
        "an invalid character"
  | boundaryUnknown =>
      "unrecognized special word boundary assertion, valid choices are: " ++
        "start, end, start-half or end-half"
  | boundaryUnfinished =>
      "found either the beginning of a special word boundary or a bounded " ++
        "repetition on a \\b with an opening brace, but no closing brace"
  | propertyInvalid => "invalid Unicode character class"
  | backreference => "backreferences are not supported"
  | lookAround => "look-around, including look-ahead and look-behind, is not supported"
  | unicodeNotAllowed => "Unicode not allowed here"
  | invalidText => "pattern can match invalid UTF-8"
  | propertyUnknown => "Unicode property not found"
  | propertyValueUnknown => "Unicode property value not found"

/-- A fault with the part of the pattern it lies in, and an earlier part
that it clashes with. -/
structure Problem where
  fault : Fault
  span : Span
  earlier : Option Span
  deriving DecidableEq

namespace Problem

def spans (problem : Problem) : List Span :=
  match problem.earlier with
  | none => [problem.span]
  | some other =>
      if other.start.index ≤ problem.span.start.index then [other, problem.span]
      else [problem.span, other]

/-- Blanks up to each span and carets below it, from a column counted from zero on. -/
def carets : Nat → List Span → List Char
  | _, [] => []
  | column, span :: spans =>
      let blanks := span.start.column - 1 - column
      let width := max 1 (span.finish.column - span.start.column)
      List.replicate blanks ' ' ++ List.replicate width '^' ++
        carets (column + blanks + width) spans

def digits (n : Nat) : List Char :=
  Nat.toDigits 10 n

/-- What stands before a line of the pattern: its number, if there are several lines. -/
def margin (lineCount number : Nat) : List Char :=
  if lineCount ≤ 1 then List.replicate 4 ' '
  else
    List.replicate ((digits lineCount).length - (digits number).length) ' ' ++
      digits number ++ [':', ' ']

/-- The lines of a pattern; a line feed at its end opens one more. -/
def lineCount (text : List Char) : Nat :=
  (Text.lines text).length + if text.getLast? = some '\n' then 1 else 0

def notedLine (count : Nat) (spans : List Span) (number : Nat) (line : List Char) :
    List Char :=
  let shown := spans.filter fun span => span.isOneLine && span.start.line = number
  margin count number ++ line ++ ['\n'] ++
    if shown.isEmpty then []
    else List.replicate (margin count number).length ' ' ++ carets 0 shown ++ ['\n']

def noted (problem : Problem) (text : List Char) : List Char :=
  ((Text.lines text).mapIdx fun i line =>
    notedLine (lineCount text) problem.spans (i + 1) line).flatten

def stretch (span : Span) : String :=
  s!"on line {span.start.line} (column {span.start.column}) " ++
    s!"through line {span.finish.line} (column {span.finish.column - 1})\n"

def rule : String :=
  String.ofList (List.replicate 79 '~') ++ "\n"

/-- The report on a problem with a pattern. A pattern of several lines
stands between two rules. -/
def report (problem : Problem) (text : String) : String :=
  let noted := String.ofList (problem.noted text.toList)
  let stretches :=
    String.join ((problem.spans.filter fun span => !span.isOneLine).map stretch)
  let body :=
    if text.toList.contains '\n' then rule ++ noted ++ rule ++ stretches else noted
  "regex parse error:\n" ++ body ++ "error: " ++ problem.fault.message

end Problem

end Wireframe.Pattern
