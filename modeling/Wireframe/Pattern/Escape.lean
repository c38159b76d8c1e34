import Wireframe.Pattern.Cursor

/-!
What a backslash introduces: characters by number, classes by name, conditions on a place,
and characters that would mean something else on their own.
-/

namespace Wireframe.Pattern

namespace Reading

def isMeta (c : Char) : Bool :=
  "\\.+*?()|[]\x7b\x7d^$#&-~".toList.contains c

/-- A character of ASCII that has no meaning after a backslash, now or later. -/
def isIdle (c : Char) : Bool :=
  c.toNat < 0x80 && !c.isAlphanum && c ≠ '<' && c ≠ '>'

def isHex (c : Char) : Bool :=
  c.isDigit || (c.toUpper.isUpper && c.toUpper ≤ 'F')

def hexValue (digits : List Char) : Nat :=
  CharSet.hexNumber (digits.map Char.toUpper)

def char? (n : Nat) : Option Char :=
  if n.isValidChar then some (Char.ofNat n) else none

def hexWidth (kind : Char) : Nat :=
  if kind = 'x' then 2 else if kind = 'u' then 4 else 8

/-- The digits of a number of fixed width, except that the last of them is not passed. -/
def fixedDigits : Nat → Reading (List Char)
  | 0 => return []
  | count + 1 => do
      match ← peek? with
      | none => fail .escapeUnfinished (← here)
      | some c =>
          if !isHex c then
            fail .hexDigit (← nextSpan)
          else if count = 0 then
            return [c]
          else if ← advance then
            return c :: (← fixedDigits count)
          else
            fail .escapeUnfinished (← here)

def fixedHex (escape : Place) (kind : Char) : Reading Literal := do
  let start ← place
  let digits ← fixedDigits (hexWidth kind)
  let _ ← advance
  match char? (hexValue digits) with
  | none => fail .hexInvalid (← spanFrom start)
  | some c => return ⟨← spanFrom escape, c, kind = 'x'⟩

def bracedDigits : Nat → Reading (List Char)
  | 0 => return []
  | steps + 1 => do
      if !(← advance) then
        return []
      match ← peek? with
      | none => return []
      | some c =>
          if c = '\x7d' then
            return []
          else if !isHex c then
            fail .hexDigit (← nextSpan)
          else
            return c :: (← bracedDigits steps)

def bracedHex (escape : Place) : Reading Literal := do
  let brace ← place
  let start := (← nextSpan).finish
  let digits ← bracedDigits (← get).rest.length
  if ← atEnd then
    fail .escapeUnfinished (← spanFrom brace)
  let finish ← place
  let _ ← advance
  if digits.isEmpty then
    fail .hexEmpty (← spanFrom brace)
  match char? (hexValue digits) with
  | none => fail .hexInvalid ⟨start, finish⟩
  | some c => return ⟨← spanFrom escape, c, false⟩

def hex (escape : Place) (kind : Char) : Reading Literal := do
  if !(← advance) then
    fail .escapeUnfinished (← here)
  if ← isNext '\x7b' then bracedHex escape else fixedHex escape kind

def query (text : List Char) : Unicode.PropertyQuery :=
  let cut (sign : List Char) : Option (String × String) :=
    (List.range text.length).findSome? fun i =>
      if sign.isPrefixOf (text.drop i) then
        some (String.ofList (text.take i), String.ofList (text.drop (i + sign.length)))
      else
        none
  match (cut ['!', '=']).orElse fun _ => (cut [':']).orElse fun _ => cut ['='] with
  | some (property, value) => .value property value
  | none => .name (String.ofList text)

def bracedName : Nat → Reading (List Char)
  | 0 => return []
  | steps + 1 => do
      if !(← advance) then
        return []
      match ← peek? with
      | none => return []
      | some c => if c = '\x7d' then return [] else return c :: (← bracedName steps)

def propertyClass (escape : Place) (negated : Bool) : Reading Tree := do
  if !(← advance) then
    fail .escapeUnfinished (← here)
  if ← isNext '\x7b' then
    let name ← bracedName (← get).rest.length
    if ← atEnd then
      fail .escapeUnfinished (← here)
    let _ ← bump
    return .named (← spanFrom escape) negated (.property (query name))
  else
    match ← peek? with
    | none => fail .escapeUnfinished (← here)
    | some c =>
        if c = '\\' then
          fail .propertyInvalid (← nextSpan)
        let _ ← advance
        return .named (← spanFrom escape) negated (.property (.name (String.singleton c)))

def isBoundaryLetter (c : Char) : Bool :=
  c.isAlpha || c = '-'

def boundaryOfName? (name : List Char) : Option Assertion :=
  if name = "start".toList then some .wordStart
  else if name = "end".toList then some .wordEnd
  else if name = "start-half".toList then some .wordStartHalf
  else if name = "end-half".toList then some .wordEndHalf
  else none

/-- The name in braces that may follow a word boundary; anything else in
braces is left for later. -/
def boundaryName? (escape : Place) : Reading (Option Assertion) := do
  let brace ← get
  if !(← advance) then
    fail .boundaryUnfinished (← spanFrom escape)
  let start ← place
  if !((← peek?).any isBoundaryLetter) then
    set brace
    return none
  let name ← takeWhile isBoundaryLetter advance
  if !(← isNext '\x7d') then
    fail .boundaryUnclosed (← spanFrom brace.place)
  let finish ← place
  let _ ← bump
  match boundaryOfName? name with
  | some assertion => return some assertion
  | none => fail .boundaryUnknown ⟨start, finish⟩

def boundary (escape : Place) : Reading Tree := do
  if ← isNext '\x7b' then
    match ← boundaryName? escape with
    | some assertion => return .assertion (← spanFrom escape) assertion
    | none => return .assertion (← spanFrom escape) .boundary
  else
    return .assertion (← spanFrom escape) .boundary

def controlOfLetter? (c : Char) : Option Char :=
  List.lookup c
    [('a', '\x07'), ('f', '\x0c'), ('t', '\t'), ('n', '\n'), ('r', '\r'), ('v', '\x0b')]

def assertionOfLetter? (c : Char) : Option Assertion :=
  List.lookup c
    [('A', .textStart), ('z', .textEnd), ('B', .noBoundary), ('<', .wordStart),
      ('>', .wordEnd)]

def classOfLetter? (c : Char) : Option ClassName :=
  List.lookup c.toLower [('d', .digit), ('s', .space), ('w', .word)]

def single (escape : Place) (c : Char) : Reading Tree := do
  let _ ← bump
  let span ← spanFrom escape
  if isMeta c || isIdle c then
    return .literal ⟨span, c, false⟩
  match controlOfLetter? c, assertionOfLetter? c with
  | some control, _ => return .literal ⟨span, control, false⟩
  | none, some assertion => return .assertion span assertion
  | none, none => if c = 'b' then boundary escape else fail .escapeUnknown span

def escape : Reading Tree := do
  let start ← place
  if !(← bump) then
    fail .escapeUnfinished (← spanFrom start)
  match ← peek? with
  | none => fail .escapeUnfinished (← spanFrom start)
  | some c =>
      if c.isDigit then
        fail .backreference ⟨start, (← nextSpan).finish⟩
      else if c = 'x' || c = 'u' || c = 'U' then
        return .literal (← hex start c)
      else if c = 'p' || c = 'P' then
        propertyClass start (c = 'P')
      else
        match classOfLetter? c with
        | some name =>
            let _ ← bump
            return .named (← spanFrom start) c.isUpper name
        | none => single start c

end Reading

end Wireframe.Pattern
