/-!
Sets of characters as ranges of code points.
-/

namespace Wireframe

abbrev CodeRange := Nat × Nat

/-- Ranges in ascending order that do not touch. -/
structure CharSet where
  ranges : List CodeRange
  deriving DecidableEq

namespace CharSet

def lastCode : Nat := 0x10FFFF

def empty : CharSet := ⟨[]⟩

def all : CharSet := ⟨[(0, lastCode)]⟩

def range (first last : Nat) : CharSet :=
  if first ≤ last then ⟨[(first, last)]⟩ else empty

def hasCode (s : CharSet) (code : Nat) : Bool :=
  s.ranges.any fun r => r.1 ≤ code && code ≤ r.2

def contains (s : CharSet) (c : Char) : Bool :=
  s.hasCode c.toNat

def joinFrom : CodeRange → List CodeRange → List CodeRange
  | r, [] => [r]
  | r, next :: others =>
      if next.1 ≤ r.2 + 1 then joinFrom (r.1, max r.2 next.2) others
      else r :: joinFrom next others

def ofRanges (ranges : List CodeRange) : CharSet :=
  match ranges.mergeSort fun a b => a.1 ≤ b.1 with
  | [] => empty
  | r :: others => ⟨joinFrom r others⟩

def union (a b : CharSet) : CharSet :=
  ofRanges (a.ranges ++ b.ranges)

def unionAll (sets : List CharSet) : CharSet :=
  ofRanges (sets.flatMap ranges)

/-- What ascending ranges leave out from a code point on. -/
def gapsFrom : Nat → List CodeRange → List CodeRange
  | first, [] => if first ≤ lastCode then [(first, lastCode)] else []
  | first, r :: others =>
      if first < r.1 then (first, r.1 - 1) :: gapsFrom (r.2 + 1) others
      else gapsFrom (r.2 + 1) others

def complement (s : CharSet) : CharSet :=
  ⟨gapsFrom 0 s.ranges⟩

def inter (a b : CharSet) : CharSet :=
  (a.complement.union b.complement).complement

def difference (a b : CharSet) : CharSet :=
  a.inter b.complement

def symmetricDifference (a b : CharSet) : CharSet :=
  (a.difference b).union (b.difference a)

def hexDigit (c : Char) : Nat :=
  if c.isDigit then c.toNat - '0'.toNat else c.toNat - 'A'.toNat + 10

def hexNumber (digits : List Char) : Nat :=
  digits.foldl (fun n c => 16 * n + hexDigit c) 0

def everyOther (first last step : Nat) : List CodeRange :=
  (List.range ((last - first) / step + 1)).map fun i =>
    (first + step * i, first + step * i)

/-- A code point, two with a dash between them, or two and after a slash the step
from one to the next. -/
def rangesOfWord (word : List Char) : List CodeRange :=
  match word.splitOn '-' with
  | [first] => [(hexNumber first, hexNumber first)]
  | [first, rest] =>
      match rest.splitOn '/' with
      | [last] => [(hexNumber first, hexNumber last)]
      | [last, step] => everyOther (hexNumber first) (hexNumber last) (hexNumber step)
      | _ => []
  | _ => []

def wordsOf (text : String) : List (List Char) :=
  (text.toList.splitOnP Char.isWhitespace).filter fun word => !word.isEmpty

def ofText (text : String) : CharSet :=
  ofRanges ((wordsOf text).flatMap rangesOfWord)

def codes (r : CodeRange) : List Nat :=
  List.range' r.1 (r.2 + 1 - r.1)

end CharSet

/-- A table of sets: the names that each goes by, and its text. -/
abbrev CharTable := List (String × String)

namespace CharTable

def names (entry : String × String) : List String :=
  (CharSet.wordsOf entry.1).map String.ofList

def find? (table : CharTable) (name : String) : Option CharSet :=
  (List.find? (fun entry => (names entry).contains name) table).map fun entry =>
    .ofText entry.2

end CharTable

end Wireframe
