import Wireframe.Pattern.Tree
import Wireframe.Unicode.Folding

/-!
What patterns mean: expressions over sets of characters and conditions on places, in
which no flags are left.
-/

namespace Wireframe.Pattern

/-- Conditions that look at the word characters on either side of a place. -/
inductive WordLook where
  | boundary
  | noBoundary
  | start
  | finish
  | startHalf
  | finishHalf
  deriving DecidableEq

/-- Conditions on a place. Lines may end with carriage returns; words may be of
ASCII characters alone. -/
inductive Look where
  | textStart
  | textEnd
  | lineStart (carriageReturns : Bool)
  | lineEnd (carriageReturns : Bool)
  | word (kind : WordLook) (unicode : Bool)
  deriving DecidableEq

namespace WordLook

def holds (before after : Bool) : WordLook → Bool
  | boundary => before != after
  | noBoundary => before == after
  | start => !before && after
  | finish => before && !after
  | startHalf => !before
  | finishHalf => !after

end WordLook

namespace Look

def wordSet (unicode : Bool) : CharSet :=
  if unicode then Unicode.word else AsciiClass.word.set

def holds (look : Look) (before after : Option Char) : Bool :=
  match look with
  | textStart => before.isNone
  | textEnd => after.isNone
  | lineStart false => before.isNone || before = some '\n'
  | lineStart true =>
      before.isNone || before = some '\n' || (before = some '\r' && after ≠ some '\n')
  | lineEnd false => after.isNone || after = some '\n'
  | lineEnd true =>
      after.isNone || after = some '\r' || (after = some '\n' && before ≠ some '\r')
  | word kind unicode =>
      kind.holds (before.any (wordSet unicode).contains)
        (after.any (wordSet unicode).contains)

end Look

inductive Expression where
  | empty
  | char (set : CharSet)
  | look (look : Look)
  | both (first second : Expression)
  | either (first second : Expression)
  | repetition (least : Nat) (most : Option Nat) (body : Expression)
  | group (body : Expression)
  deriving DecidableEq

namespace Expression

def sequence : List Expression → Expression
  | [] => empty
  | [e] => e
  | e :: rest => both e (sequence rest)

/-- One of some expressions; of none of them nothing is found. -/
def choice : List Expression → Expression
  | [] => char .empty
  | [e] => e
  | e :: rest => either e (choice rest)

end Expression

structure Flags where
  ignoreCase : Bool
  multiLine : Bool
  dotAll : Bool
  unicode : Bool
  carriageReturns : Bool
  deriving DecidableEq

namespace Flags

def initial : Flags := ⟨false, false, false, true, false⟩

def change (flags : Flags) (changes : FlagChanges) : Flags where
  ignoreCase := (changes.get? .ignoreCase).getD flags.ignoreCase
  multiLine := (changes.get? .multiLine).getD flags.multiLine
  dotAll := (changes.get? .dotAll).getD flags.dotAll
  unicode := (changes.get? .unicode).getD flags.unicode
  carriageReturns := (changes.get? .carriageReturns).getD flags.carriageReturns

def fold (flags : Flags) (s : CharSet) : CharSet :=
  if !flags.ignoreCase then s
  else if flags.unicode then Unicode.foldClosure s
  else
    let upper := s.inter AsciiClass.upper.set
    let lower := s.inter AsciiClass.lower.set
    .unionAll
      [s, ⟨upper.ranges.map fun r => (r.1 + 32, r.2 + 32)⟩,
        ⟨lower.ranges.map fun r => (r.1 - 32, r.2 - 32)⟩]

/-- Without Unicode the characters outside of a set are bytes, which need not be text. -/
def negate (flags : Flags) (span : Span) (negated : Bool) (s : CharSet) :
    Except Problem CharSet :=
  if !negated then .ok s
  else if flags.unicode then .ok s.complement
  else .error ⟨.invalidText, span, none⟩

/-- A character. Without Unicode a number of two digits is that of a byte,
which need not be text. -/
def char (flags : Flags) (l : Literal) : Except Problem Char :=
  if !flags.unicode && l.isByte && 0x80 ≤ l.char.toNat then
    .error ⟨.invalidText, l.span, none⟩
  else .ok l.char

/-- A character in brackets; without Unicode it has to be one of ASCII. -/
def bracketChar (flags : Flags) (l : Literal) : Except Problem Char :=
  match flags.char l with
  | .error problem => .error problem
  | .ok c =>
      if !flags.unicode && 0x80 ≤ c.toNat then .error ⟨.unicodeNotAllowed, l.span, none⟩
      else .ok c

def property (flags : Flags) (span : Span) (query : Unicode.PropertyQuery) :
    Except Problem CharSet :=
  if !flags.unicode then .error ⟨.unicodeNotAllowed, span, none⟩
  else
    match query.find with
    | .ok s => .ok (flags.fold s)
    | .error .unknownProperty => .error ⟨.propertyUnknown, span, none⟩
    | .error .unknownValue => .error ⟨.propertyValueUnknown, span, none⟩

def named (flags : Flags) (span : Span) : ClassName → Except Problem CharSet
  | .digit => .ok (if flags.unicode then Unicode.category "nd" else AsciiClass.digit.set)
  | .space =>
      .ok (if flags.unicode then Unicode.property "space" else AsciiClass.space.set)
  | .word => .ok (Look.wordSet flags.unicode)
  | .ascii cls => .ok (flags.fold cls.set)
  | .property query => flags.property span query

def namedSet (flags : Flags) (span : Span) (negated : Bool) (name : ClassName) :
    Except Problem CharSet :=
  match flags.named span name with
  | .error problem => .error problem
  | .ok s => flags.negate span negated s

def dot (flags : Flags) (span : Span) : Except Problem CharSet :=
  if !flags.unicode then .error ⟨.invalidText, span, none⟩
  else if flags.dotAll then .ok .all
  else if flags.carriageReturns then .ok (CharSet.ofText "A D").complement
  else .ok (CharSet.ofText "A").complement

def look (flags : Flags) : Assertion → Look
  | .lineStart => if flags.multiLine then .lineStart flags.carriageReturns else .textStart
  | .lineEnd => if flags.multiLine then .lineEnd flags.carriageReturns else .textEnd
  | .textStart => .textStart
  | .textEnd => .textEnd
  | .boundary => .word .boundary flags.unicode
  | .noBoundary => .word .noBoundary flags.unicode
  | .wordStart => .word .start flags.unicode
  | .wordEnd => .word .finish flags.unicode
  | .wordStartHalf => .word .startHalf flags.unicode
  | .wordEndHalf => .word .finishHalf flags.unicode

end Flags

def ClassOperator.apply (a b : CharSet) : ClassOperator → CharSet
  | intersection => a.inter b
  | difference => a.difference b
  | symmetricDifference => a.symmetricDifference b

mutual

def ClassTree.set (flags : Flags) : ClassTree → Except Problem CharSet
  | .empty _ => .ok .empty
  | .literal l => do
      let c ← flags.bracketChar l
      return .range c.toNat c.toNat
  | .range _ first last => do
      let first ← flags.bracketChar first
      let last ← flags.bracketChar last
      return .range first.toNat last.toNat
  | .named span negated name => flags.namedSet span negated name
  | .bracket span negated body => do
      let s ← body.set flags
      flags.negate span negated (flags.fold s)
  | .union _ items => ClassTree.unionSet flags items
  | .operation _ operator left right => do
      let a ← left.set flags
      let b ← right.set flags
      return operator.apply (flags.fold a) (flags.fold b)

def ClassTree.unionSet (flags : Flags) : List ClassTree → Except Problem CharSet
  | [] => .ok .empty
  | item :: items => do
      let a ← item.set flags
      let b ← ClassTree.unionSet flags items
      return a.union b

end

mutual

/-- The expression that a tree stands for under some flags, and the flags
for what comes after it. -/
def Tree.expression (flags : Flags) : Tree → Except Problem (Expression × Flags)
  | .empty _ => .ok (.empty, flags)
  | .flags _ changes => .ok (.empty, flags.change changes)
  | .literal l => do
      let c ← flags.char l
      return (.char (flags.fold (.range c.toNat c.toNat)), flags)
  | .dot span => do
      return (.char (← flags.dot span), flags)
  | .assertion _ kind => .ok (.look (flags.look kind), flags)
  | .named span negated name => do
      return (.char (← flags.namedSet span negated name), flags)
  | .bracket span negated body => do
      let s ← body.set flags
      return (.char (← flags.negate span negated (flags.fold s)), flags)
  | .repetition _ least most body => do
      let (e, flags) ← body.expression flags
      return (.repetition least most e, flags)
  | .group _ changes _ body => do
      let (e, _) ← body.expression (flags.change changes)
      return (.group e, flags)
  | .alternation _ branches => do
      let (es, flags) ← Tree.expressions flags branches
      return (.choice es, flags)
  | .sequence _ parts => do
      let (es, flags) ← Tree.expressions flags parts
      return (.sequence es, flags)

def Tree.expressions (flags : Flags) :
    List Tree → Except Problem (List Expression × Flags)
  | [] => .ok ([], flags)
  | part :: parts => do
      let (e, flags) ← part.expression flags
      let (es, flags) ← Tree.expressions flags parts
      return (e :: es, flags)

end

end Wireframe.Pattern
