import Wireframe.Pattern.Expression

/-!
How large the machine for an expression would be. Patterns that ask for too
large a one are turned down.

A machine reads a text byte by byte. A range of characters is a number of sequences of
byte ranges, and sequences that begin alike share their beginnings.
-/

namespace Wireframe.Pattern

namespace ByteRanges

def byteAt (width code i : Nat) : Nat :=
  if i = 0 then
    if width = 1 then code
    else (0x100 - (0x100 >>> width)) + (code >>> (6 * (width - 1)))
  else 0x80 + (code >>> (6 * (width - 1 - i))) % 64

/-- The byte ranges between two code points whose encodings differ in a closed way. -/
def sequence (width first last : Nat) : List (Nat × Nat) :=
  (List.range width).map fun i => (byteAt width first i, byteAt width last i)

/--
Cuts a range so that in each piece the bytes behind the first different one run through
all their values. `place` counts those bytes, and falls to zero.
-/
def align (width : Nat) : Nat → Nat → Nat → List (List (Nat × Nat))
  | 0, first, last => [sequence width first last]
  | place + 1, first, last =>
      let low := (1 <<< (6 * (place + 1))) - 1
      let base (code : Nat) := code - code % (low + 1)
      if base first = base last then align width place first last
      else
        let head :=
          if first % (low + 1) = 0 then [] else align width place first (base first + low)
        let start := if first % (low + 1) = 0 then first else base first + low + 1
        let tail :=
          if last % (low + 1) = low then [] else align width place (base last) last
        let stop := if last % (low + 1) = low then last + 1 else base last
        let middle := if start < stop then align width place start (stop - 1) else []
        head ++ middle ++ tail

def widths : List (Nat × Nat × Nat) :=
  [(0, 0x7F, 1), (0x80, 0x7FF, 2), (0x800, 0xD7FF, 3), (0xE000, 0xFFFF, 3),
    (0x10000, 0x10FFFF, 4)]

def ofRange (r : CodeRange) : List (List (Nat × Nat)) :=
  widths.flatMap fun (first, last, width) =>
    if max first r.1 ≤ min last r.2 then
      align width (width - 1) (max first r.1) (min last r.2)
    else []

def sharedFront : List (Nat × Nat) → List (Nat × Nat) → Nat
  | a :: as, b :: bs => if a = b then sharedFront as bs + 1 else 0
  | _, _ => 0

/-- The byte ranges of some sequences, those that a sequence shares with the
one before it left out. -/
def distinct : List (Nat × Nat) → List (List (Nat × Nat)) → Nat
  | _, [] => 0
  | before, s :: others => s.length - sharedFront before s + distinct s others

end ByteRanges

def stateSize : Nat := 32

def forkSize : Nat := stateSize + 8

def charSize (s : CharSet) : Nat :=
  match s.ranges with
  | [(first, last)] =>
      if first = last then ((ByteRanges.ofRange (first, last)).flatten.length) * stateSize
      else setSize s.ranges
  | ranges => setSize ranges
where
  setSize (ranges : List CodeRange) : Nat :=
    if ranges.all fun r => r.2 < 0x80 then 2 * stateSize + 8 * ranges.length
    else
      let sequences := ranges.flatMap ByteRanges.ofRange
      (2 + ByteRanges.distinct [] sequences) * stateSize + 4 * sequences.length

namespace Expression

def isIdle : Expression → Bool
  | empty => true
  | char _ => false
  | .look _ => true
  | both first second => first.isIdle && second.isIdle
  | either first second => first.isIdle && second.isIdle
  | repetition _ most body => most = some 0 || body.isIdle
  | group body => body.isIdle

/-- The size of the machine in bytes. Repeating what takes up no
character makes it no larger. -/
def size : Expression → Nat
  | empty => stateSize
  | char set => charSize set
  | .look _ => stateSize
  | both first second => first.size + second.size
  | either first second => first.size + second.size + forkSize
  | repetition least most body =>
      if body.isIdle then body.size + forkSize
      else
        match most with
        | none => max least 1 * body.size + forkSize
        | some most => most * body.size + (most - least) * forkSize + stateSize
  | group body => body.size + 2 * stateSize

end Expression

end Wireframe.Pattern
