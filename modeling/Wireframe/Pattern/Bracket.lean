import Wireframe.Pattern.Escape

/-!
Reading what stands between brackets.
-/

namespace Wireframe.Pattern

/-- A bracket that is open: the operation that waits for its right
side, and the items since. -/
structure BracketLevel where
  opening : Span
  negated : Bool
  pending : Option (ClassOperator × ClassTree)
  start : Place
  /-- The newest first. -/
  items : List ClassTree

namespace BracketLevel

def add (level : BracketLevel) (item : ClassTree) : BracketLevel :=
  { level with items := item :: level.items }

def union (level : BracketLevel) : ClassTree :=
  match level.items.reverse with
  | [] => .empty ⟨level.start, level.start⟩
  | [item] => item
  | first :: others =>
      .union ⟨first.span.start, (others.getLast?.getD first).span.finish⟩
        (first :: others)

/-- All that stands in the bracket so far; operators of every kind apply from the left. -/
def body (level : BracketLevel) : ClassTree :=
  match level.pending with
  | none => level.union
  | some (operator, left) =>
      .operation ⟨left.span.start, level.union.span.finish⟩ operator left level.union

def operate (level : BracketLevel) (operator : ClassOperator) (start : Place) :
    BracketLevel :=
  { level with pending := some (operator, level.body), start := start, items := [] }

end BracketLevel

namespace Reading

/-- Dashes at the front of a bracket stand for themselves; reads them in
at most so many steps. -/
def leadingDashes (opening : Place) : Nat → Reading (List ClassTree)
  | 0 => return []
  | steps + 1 => do
      if ← isNext '-' then
        let span ← nextSpan
        if ← advance then
          return (← leadingDashes opening steps) ++ [.literal ⟨span, '-', false⟩]
        else
          fail .classUnclosed ⟨opening, opening⟩
      else
        return []

/-- An opening bracket, with a sign that negates it and what stands
for itself at its front. -/
def openBracket : Reading BracketLevel := do
  let opening ← place
  if !(← advance) then
    fail .classUnclosed (← spanFrom opening)
  let negated ← isNext '^'
  if negated then
    if !(← advance) then
      fail .classUnclosed (← spanFrom opening)
  let start ← place
  let dashes ← leadingDashes opening (← get).rest.length
  if dashes.isEmpty && (← isNext ']') then
    let span ← nextSpan
    if !(← advance) then
      fail .classUnclosed (← spanFrom opening)
    return ⟨← spanFrom opening, negated, none, start, [.literal ⟨span, ']', false⟩]⟩
  else
    return ⟨← spanFrom opening, negated, none, start, dashes⟩

def asciiClass? : Reading (Option ClassTree) := do
  let before ← get
  let start := before.place
  let opened ← bumpIf "[:"
  if !opened || (← atEnd) then
    set before
    return none
  let negated ← bumpIf "^"
  let name ← takeWhile (· ≠ ':') bump
  if ← bumpIf ":]" then
    match AsciiClass.ofName? (String.ofList name) with
    | some cls => return some (.named (← spanFrom start) negated (.ascii cls))
    | none =>
        set before
        return none
  else
    set before
    return none

def bracketItem : Reading Tree := do
  match ← peek? with
  | some '\\' => escape
  | some c =>
      let span ← nextSpan
      let _ ← bump
      return .literal ⟨span, c, false⟩
  | none => return .empty (← here)

def itemOfTree : Tree → Reading ClassTree
  | .literal l => return .literal l
  | .named span negated name => return .named span negated name
  | tree => fail .classEscape tree.span

def boundOfTree : Tree → Reading Literal
  | .literal l => return l
  | tree => fail .classRangeBoundary tree.span

def bracketRange (opening : Span) : Reading ClassTree := do
  let first ← bracketItem
  skip
  if ← atEnd then
    fail .classUnclosed opening
  let second ← secondPastBlanks?
  if !(← isNext '-') || second = some ']' || second = some '-' then
    itemOfTree first
  else
    if !(← advance) then
      fail .classUnclosed opening
    let last ← bracketItem
    let span : Span := ⟨first.span.start, last.span.finish⟩
    let first ← boundOfTree first
    let last ← boundOfTree last
    if first.char ≤ last.char then
      return .range span first last
    else
      fail .classRangeOrder span

def operatorOf? (c : Char) : Option ClassOperator :=
  List.lookup c [('&', .intersection), ('-', .difference), ('~', .symmetricDifference)]

def operator? : Reading (Option ClassOperator) := do
  match ← peek? with
  | none => return none
  | some c => if (← second?) = some c then return operatorOf? c else return none

/-- Reads up to the end of the outermost bracket, in at most so many steps. -/
def bracketFrom : Nat → List BracketLevel → BracketLevel → Reading Tree
  | 0, _, level => fail .classUnclosed level.opening
  | steps + 1, outer, level => do
      skip
      match ← peek?, ← operator? with
      | none, _ => fail .classUnclosed level.opening
      | some '[', _ =>
          match ← asciiClass? with
          | some item => bracketFrom steps outer (level.add item)
          | none => bracketFrom steps (level :: outer) (← openBracket)
      | some ']', _ =>
          let _ ← bump
          let span ← spanFrom level.opening.start
          match outer with
          | [] => return .bracket span level.negated level.body
          | parent :: outer =>
              bracketFrom steps outer
                (parent.add (.bracket span level.negated level.body))
      | some _, some operator =>
          let _ ← bump
          let _ ← bump
          bracketFrom steps outer (level.operate operator (← place))
      | some _, none => bracketFrom steps outer (level.add (← bracketRange level.opening))

def bracket : Reading Tree := do
  let level ← openBracket
  bracketFrom ((← get).rest.length + 1) [] level

end Reading

end Wireframe.Pattern
