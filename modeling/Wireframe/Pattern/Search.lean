import Wireframe.Pattern.Expression

/-!
Searching a text. The places between its characters are numbered from zero, and a set of
places is a number whose bits tell which are in it; so an expression moves all the places
that it is tried at in one go.
-/

namespace Wireframe.Pattern

/-- Bit `i` of a set tells whether place `i` is in it. -/
abbrev Places := Nat

namespace Places

def ofList : List Bool → Places
  | [] => 0
  | b :: rest => b.toNat + 2 * ofList rest

end Places

/-- An expression for a single text: each condition as the places it holds at. -/
inductive Moves where
  | stay
  /-- From these places to the next. -/
  | step (places : Places)
  /-- Stays at these places. -/
  | check (places : Places)
  | both (first second : Moves)
  | either (first second : Moves)
  | repetition (least : Nat) (most : Option Nat) (body : Moves)

def neighbours : Option Char → List Char → List (Option Char × Option Char)
  | before, [] => [(before, none)]
  | before, c :: text => (before, some c) :: neighbours (some c) text

namespace Expression

def moves (text : List Char) : Expression → Moves
  | empty => .stay
  | char set => .step (.ofList (text.map set.contains))
  | .look condition =>
      let holds := fun (before, after) => condition.holds before after
      .check (.ofList ((neighbours none text).map holds))
  | both first second => .both (first.moves text) (second.moves text)
  | either first second => .either (first.moves text) (second.moves text)
  | repetition least most body => .repetition least most (body.moves text)
  | group body => body.moves text

end Expression

namespace Moves

/-- Moves a number of times, as long as that changes anything. -/
def iterate (move : Places → Places) : Nat → Places → Places
  | 0, places => places
  | count + 1, places =>
      if move places = places then places else iterate move count (move places)

/-- Adds what a number of moves reach, as long as that is anything new. -/
def spread (move : Places → Places) (count : Nat) (places : Places) : Places :=
  iterate (fun places => places ||| move places) count places

/-- The places that are reached from some places of a text with so many characters. -/
def run (size : Nat) : Moves → Places → Places
  | stay, places => places
  | step allowed, places => (places &&& allowed) <<< 1
  | check allowed, places => places &&& allowed
  | both first second, places => second.run size (first.run size places)
  | either first second, places => first.run size places ||| second.run size places
  | repetition least most body, places =>
      let more := match most with
        | none => size
        | some most => most - least
      spread (body.run size) more (iterate (body.run size) least places)

end Moves

def Expression.occursIn (e : Expression) (text : List Char) : Bool :=
  (e.moves text).run text.length (.ofList (List.replicate (text.length + 1) true)) ≠ 0

end Wireframe.Pattern
