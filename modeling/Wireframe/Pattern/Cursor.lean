import Wireframe.Pattern.Tree
import Wireframe.Text.Blank

/-!
Reading a pattern character by character. In verbose patterns blanks, and comments up to
the end of their line, stand between the characters that count.
-/

namespace Wireframe.Pattern

/-- What is left of a pattern, and the names of the groups so far. -/
structure Cursor where
  rest : List Char
  place : Place
  verbose : Bool
  names : List (String × Span)

abbrev Reading := StateT Cursor (Except Problem)

namespace Reading

def fail {α : Type} (fault : Fault) (span : Span) : Reading α :=
  throw ⟨fault, span, none⟩

def failTwice {α : Type} (fault : Fault) (span earlier : Span) : Reading α :=
  throw ⟨fault, span, some earlier⟩

def place : Reading Place := do
  return (← get).place

def peek? : Reading (Option Char) := do
  return (← get).rest.head?

def atEnd : Reading Bool := do
  return (← get).rest.isEmpty

def isNext (c : Char) : Reading Bool := do
  return (← peek?) = some c

def second? : Reading (Option Char) := do
  return (← get).rest[1]?

def here : Reading Span := do
  return ⟨← place, ← place⟩

def nextSpan : Reading Span := do
  let start ← place
  match ← peek? with
  | none => return ⟨start, start⟩
  | some c => return ⟨start, start.after c⟩

def spanFrom (start : Place) : Reading Span := do
  return ⟨start, ← place⟩

/-- Passes a character; tells whether another one follows. -/
def bump : Reading Bool := do
  let cursor ← get
  match cursor.rest with
  | [] => return false
  | c :: rest =>
      set { cursor with rest := rest, place := cursor.place.after c }
      return !rest.isEmpty

/-- Passes characters that are as given, or none. -/
def bumpIf (word : String) : Reading Bool := do
  if word.toList.isPrefixOf (← get).rest then
    for _ in word.toList do
      let _ ← bump
    return true
  else
    return false

def bumpAny : List String → Reading Bool
  | [] => return false
  | word :: words => do
      if ← bumpIf word then return true
      else bumpAny words

def skipFrom : Bool → List Char → Place → List Char × Place
  | _, [], place => ([], place)
  | true, c :: rest, place => skipFrom (c ≠ '\n') rest (place.after c)
  | false, c :: rest, place =>
      if Text.isBlank c then skipFrom false rest (place.after c)
      else if c = '#' then skipFrom true rest (place.after c)
      else (c :: rest, place)

def skip : Reading Unit := do
  let cursor ← get
  if cursor.verbose then
    let (rest, place) := skipFrom false cursor.rest cursor.place
    set { cursor with rest := rest, place := place }

/-- Passes a character and the blanks after it; tells whether another one follows. -/
def advance : Reading Bool := do
  if ← bump then
    skip
    return !(← atEnd)
  else
    return false

def firstOf : Bool → List Char → Option Char
  | _, [] => none
  | commented, c :: rest =>
      if Text.isBlank c then firstOf commented rest
      else if !commented && c = '#' then firstOf true rest
      else some c

/-- The character after the next one, past blanks where they do not count. -/
def secondPastBlanks? : Reading (Option Char) := do
  let cursor ← get
  let rest := cursor.rest.drop 1
  if cursor.verbose then
    return (firstOf false rest).orElse fun _ => rest.head?
  else
    return rest.head?

/-- Collects characters for as long as they pass a test, in at most so many steps. -/
def collect (test : Char → Bool) (pass : Reading Bool) : Nat → Reading (List Char)
  | 0 => return []
  | steps + 1 => do
      match ← peek? with
      | none => return []
      | some c =>
          if test c then
            let _ ← pass
            return c :: (← collect test pass steps)
          else
            return []

def takeWhile (test : Char → Bool) (pass : Reading Bool) : Reading (List Char) := do
  collect test pass (← get).rest.length

end Reading

end Wireframe.Pattern
