import Wireframe.Pattern.Bracket

/-!
Reading a pattern: branches between bars, each a sequence of parts that
may be repeated, in groups.
-/

namespace Wireframe.Pattern

/-- A group that is open, or the whole pattern. -/
structure GroupLevel where
  opening : Span
  changes : FlagChanges
  captures : Bool
  /-- Whether the pattern around the group is verbose. -/
  verboseOutside : Bool
  start : Place
  /-- The branches that are finished, the newest first. -/
  branches : List Tree
  partsStart : Place
  /-- The parts of the last branch, the newest first. -/
  parts : List Tree

namespace GroupLevel

def add (level : GroupLevel) (part : Tree) : GroupLevel :=
  { level with parts := part :: level.parts }

def lastBranch (level : GroupLevel) (finish : Place) : Tree :=
  match level.parts with
  | [] => .empty ⟨level.partsStart, finish⟩
  | [part] => part
  | parts => .sequence ⟨level.partsStart, finish⟩ parts.reverse

def body (level : GroupLevel) (finish : Place) : Tree :=
  match level.branches with
  | [] => level.lastBranch finish
  | branches =>
      .alternation ⟨level.start, finish⟩ (branches.reverse ++ [level.lastBranch finish])

def branch (level : GroupLevel) (finish start : Place) : GroupLevel :=
  { level with
    branches := level.lastBranch finish :: level.branches
    partsStart := start
    parts := [] }

end GroupLevel

namespace Reading

/-! Flags. -/

def flagOf? (c : Char) : Option Flag :=
  List.lookup c
    [('i', .ignoreCase), ('m', .multiLine), ('s', .dotAll), ('U', .swapGreed),
      ('u', .unicode), ('R', .carriageReturns), ('x', .verbose)]

/-- A flag, or the dash that clears those behind it. -/
abbrev FlagItem := Option Flag × Span

/-- The next item; no flag may stand twice, nor the dash. -/
def flagItem (c : Char) (items : List FlagItem) : Reading FlagItem := do
  let span ← nextSpan
  let repeated (fault : Fault) (item : Option Flag) : Reading FlagItem := do
    match items.find? fun other => other.1 = item with
    | some other => failTwice fault span other.2
    | none => return (item, span)
  if c = '-' then
    repeated .flagNegatedTwice none
  else
    match flagOf? c with
    | none => fail .flagUnknown span
    | some flag => repeated .flagDuplicate (some flag)

def flagItems : Nat → List FlagItem → Reading (List FlagItem)
  | 0, items => return items
  | steps + 1, items => do
      match ← peek? with
      | none => return items
      | some c =>
          if c = ':' || c = ')' then
            return items
          else
            let item ← flagItem c items
            if ← bump then flagItems steps (item :: items)
            else fail .flagUnfinished (← here)

def changesOf : Bool → List (Option Flag) → FlagChanges
  | _, [] => []
  | _, none :: items => changesOf false items
  | value, some flag :: items => (flag, value) :: changesOf value items

def flagChanges : Reading FlagChanges := do
  let items ← flagItems (← get).rest.length []
  match items with
  | (none, span) :: _ => fail .flagDangling span
  | _ => return changesOf true (items.map Prod.fst).reverse

/-! Groups. -/

/-- A letter at the front of a name, later a digit or one of a few marks as well. -/
def isNameChar (first : Bool) (c : Char) : Bool :=
  if c.toNat < 0x80 then
    c = '_' || c.isAlpha || (!first && (c.isDigit || c = '.' || c = '[' || c = ']'))
  else
    Unicode.alphabetic.contains c ||
      (!first && (Unicode.categories ["nd", "nl", "no"]).contains c)

def nameChars (first : Bool) : Nat → Reading (List Char)
  | 0 => return []
  | steps + 1 => do
      match ← peek? with
      | none => return []
      | some c =>
          if c = '>' then
            return []
          else if !isNameChar first c then
            fail .nameInvalid (← nextSpan)
          else
            let _ ← bump
            return c :: (← nameChars false steps)

/-- The name of a group up to its closing mark; no two groups have one name. -/
def groupName : Reading Unit := do
  if ← atEnd then
    fail .nameUnfinished (← here)
  let start ← place
  let name ← nameChars true (← get).rest.length
  let span ← spanFrom start
  if ← atEnd then
    fail .nameUnfinished (← here)
  let _ ← bump
  if name.isEmpty then
    fail .nameEmpty ⟨start, start⟩
  let cursor ← get
  match cursor.names.lookup (String.ofList name) with
  | some other => failTwice .nameDuplicate span other
  | none => set { cursor with names := (String.ofList name, span) :: cursor.names }

inductive Opening where
  | flags (span : Span) (changes : FlagChanges)
  | group (span : Span) (changes : FlagChanges) (captures : Bool)

def flagOpening (span question : Span) : Reading Opening := do
  if ← atEnd then
    fail .groupUnclosed span
  let changes ← flagChanges
  let closed ← isNext ')'
  let _ ← bump
  if !closed then
    return .group span changes false
  else if changes.isEmpty then
    fail .repetitionMissing question
  else
    return .flags (← spanFrom span.start) changes

def opening : Reading Opening := do
  let span ← nextSpan
  let _ ← bump
  skip
  if ← bumpAny ["?=", "?!", "?<=", "?<!"] then
    fail .lookAround (← spanFrom span.start)
  let question ← here
  if ← bumpAny ["?P<", "?<"] then
    groupName
    return .group span [] true
  else if ← bumpIf "?" then
    flagOpening span question
  else
    return .group span [] true

/-! Repetitions. -/

/-- The part that an operator here repeats, and the level without it. -/
def repeated (level : GroupLevel) : Reading (Tree × GroupLevel) := do
  match level.parts with
  | part :: parts =>
      if part.isRepeatable then return (part, { level with parts := parts })
      else fail .repetitionMissing (← here)
  | [] => fail .repetitionMissing (← here)

/-- One of the operators of a single character. A question mark behind it does not
change what is found. -/
def repetition (level : GroupLevel) (least : Nat) (most : Option Nat) :
    Reading GroupLevel := do
  let (part, level) ← repeated level
  if (← bump) && (← isNext '?') then
    let _ ← bump
  return level.add (.repetition (← spanFrom part.span.start) least most part)

/-- A decimal number of 32 bits. Its place is passed even if it is at fault. -/
def decimal : Reading (Except Problem Nat) := do
  let _ ← takeWhile Text.isBlank bump
  let start ← place
  let digits ← takeWhile Char.isDigit advance
  let span ← spanFrom start
  let _ ← takeWhile Text.isBlank advance
  let value := digits.foldl (fun n c => 10 * n + (c.toNat - '0'.toNat)) 0
  if digits.isEmpty then return .error ⟨.countEmpty, span, none⟩
  else if 4294967296 ≤ value then return .error ⟨.decimalInvalid, span, none⟩
  else return .ok value

def counts (brace : Place) : Reading (Nat × Option Nat) := do
  let least ← decimal
  if ← atEnd then
    fail .countUnclosed (← spanFrom brace)
  if ← isNext ',' then
    if !(← advance) then
      fail .countUnclosed (← spanFrom brace)
    if ← isNext '\x7d' then
      return (← least, none)
    else
      let least ← least
      let most ← (← decimal)
      return (least, some most)
  else
    let count ← least
    return (count, some count)

def countedRepetition (level : GroupLevel) : Reading GroupLevel := do
  let brace ← place
  let (part, level) ← repeated level
  if !(← advance) then
    fail .countUnclosed (← spanFrom brace)
  let (least, most) ← counts brace
  if !(← isNext '\x7d') then
    fail .countUnclosed (← spanFrom brace)
  if (← advance) && (← isNext '?') then
    let _ ← bump
  if most.any (· < least) then
    fail .countOrder (← spanFrom brace)
  return level.add (.repetition (← spanFrom part.span.start) least most part)

/-! The pattern. -/

def primitive (c : Char) : Reading Tree := do
  let span ← nextSpan
  if c = '\\' then
    escape
  else
    let _ ← bump
    if c = '.' then return .dot span
    else if c = '^' then return .assertion span .lineStart
    else if c = '$' then return .assertion span .lineEnd
    else return .literal ⟨span, c, false⟩

def setVerbose (value : Bool) : Reading Unit :=
  modify fun cursor => { cursor with verbose := value }

def closeGroup (level parent : GroupLevel) : Reading GroupLevel := do
  let finish ← place
  setVerbose level.verboseOutside
  let _ ← bump
  let span ← spanFrom level.opening.start
  return parent.add (.group span level.changes level.captures (level.body finish))

/-- An opening parenthesis: the levels from the group that it opens outwards, or
flags in the same level. -/
def openGroup (outer : List GroupLevel) (level : GroupLevel) :
    Reading (List GroupLevel × GroupLevel) := do
  let verbose := (← get).verbose
  match ← opening with
  | .flags span changes =>
      setVerbose ((changes.get? .verbose).getD verbose)
      return (outer, level.add (.flags span changes))
  | .group span changes captures =>
      setVerbose ((changes.get? .verbose).getD verbose)
      let start ← place
      return (level :: outer, ⟨span, changes, captures, verbose, start, [], start, []⟩)

/-- Reads to the end of the pattern, in at most so many steps. -/
def patternFrom : Nat → List GroupLevel → GroupLevel → Reading Tree
  | 0, _, level => do return level.body (← place)
  | steps + 1, outer, level => do
      skip
      match ← peek? with
      | none =>
          if outer.isEmpty then return level.body (← place)
          else fail .groupUnclosed level.opening
      | some '(' =>
          let (outer, level) ← openGroup outer level
          patternFrom steps outer level
      | some ')' =>
          match outer with
          | [] => fail .groupUnopened (← nextSpan)
          | parent :: outer => patternFrom steps outer (← closeGroup level parent)
      | some '|' =>
          let finish ← place
          let _ ← bump
          patternFrom steps outer (level.branch finish (← place))
      | some '[' => patternFrom steps outer (level.add (← bracket))
      | some '?' => patternFrom steps outer (← repetition level 0 (some 1))
      | some '*' => patternFrom steps outer (← repetition level 0 none)
      | some '+' => patternFrom steps outer (← repetition level 1 none)
      | some '\x7b' => patternFrom steps outer (← countedRepetition level)
      | some c => patternFrom steps outer (level.add (← primitive c))

end Reading

/-- Reads a pattern. Of several problems the leftmost is reported, and nesting last. -/
def Tree.ofText (text : String) : Except Problem Tree :=
  let opening : Span := ⟨.start, .start⟩
  let level : GroupLevel := ⟨opening, [], false, false, .start, [], .start, []⟩
  match (Reading.patternFrom (text.length + 1) [] level).run
      ⟨text.toList, .start, false, []⟩ with
  | .error problem => .error problem
  | .ok (tree, _) =>
      match tree.tooDeep? 0 with
      | some span => .error ⟨.nestedTooDeep nestLimit, span, none⟩
      | none => .ok tree

end Wireframe.Pattern
