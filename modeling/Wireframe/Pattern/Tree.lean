import Wireframe.Pattern.Problem
import Wireframe.Unicode.Property

/-!
Patterns as trees. Every node knows the part of the text it was read from.
-/

namespace Wireframe.Pattern

inductive Flag where
  | ignoreCase
  | multiLine
  | dotAll
  | swapGreed
  | unicode
  | carriageReturns
  | verbose
  deriving DecidableEq

abbrev FlagChanges := List (Flag × Bool)

def FlagChanges.get? (changes : FlagChanges) (flag : Flag) : Option Bool :=
  List.lookup flag changes

inductive AsciiClass where
  | alnum
  | alpha
  | ascii
  | blank
  | cntrl
  | digit
  | graph
  | lower
  | print
  | punct
  | space
  | upper
  | word
  | xdigit
  deriving DecidableEq

namespace AsciiClass

def all : List AsciiClass :=
  [alnum, alpha, ascii, blank, cntrl, digit, graph, lower, print, punct, space, upper,
    word, xdigit]

def name : AsciiClass → String
  | alnum => "alnum"
  | alpha => "alpha"
  | ascii => "ascii"
  | blank => "blank"
  | cntrl => "cntrl"
  | digit => "digit"
  | graph => "graph"
  | lower => "lower"
  | print => "print"
  | punct => "punct"
  | space => "space"
  | upper => "upper"
  | word => "word"
  | xdigit => "xdigit"

def ofName? (name : String) : Option AsciiClass :=
  all.find? fun cls => cls.name = name

def set : AsciiClass → CharSet
  | alnum => .ofText "30-39 41-5A 61-7A"
  | alpha => .ofText "41-5A 61-7A"
  | ascii => .ofText "0-7F"
  | blank => .ofText "9 20"
  | cntrl => .ofText "0-1F 7F"
  | digit => .ofText "30-39"
  | graph => .ofText "21-7E"
  | lower => .ofText "61-7A"
  | print => .ofText "20-7E"
  | punct => .ofText "21-2F 3A-40 5B-60 7B-7E"
  | space => .ofText "9-D 20"
  | upper => .ofText "41-5A"
  | word => .ofText "30-39 41-5A 5F 61-7A"
  | xdigit => .ofText "30-39 41-46 61-66"

end AsciiClass

inductive ClassName where
  | digit
  | space
  | word
  | ascii (cls : AsciiClass)
  | property (query : Unicode.PropertyQuery)
  deriving DecidableEq

/-- A character, and whether it was written as a byte of two hexadecimal digits. -/
structure Literal where
  span : Span
  char : Char
  isByte : Bool
  deriving DecidableEq

inductive ClassOperator where
  | intersection
  | difference
  | symmetricDifference
  deriving DecidableEq

inductive ClassTree where
  | empty (span : Span)
  | literal (literal : Literal)
  | range (span : Span) (first last : Literal)
  | named (span : Span) (negated : Bool) (name : ClassName)
  | bracket (span : Span) (negated : Bool) (body : ClassTree)
  | union (span : Span) (items : List ClassTree)
  | operation (span : Span) (operator : ClassOperator) (left right : ClassTree)

def ClassTree.span : ClassTree → Span
  | empty span => span
  | literal l => l.span
  | range span .. => span
  | named span .. => span
  | bracket span .. => span
  | union span _ => span
  | operation span .. => span

inductive Assertion where
  | lineStart
  | lineEnd
  | textStart
  | textEnd
  | boundary
  | noBoundary
  | wordStart
  | wordEnd
  | wordStartHalf
  | wordEndHalf
  deriving DecidableEq

inductive Tree where
  | empty (span : Span)
  | flags (span : Span) (changes : FlagChanges)
  | literal (literal : Literal)
  | dot (span : Span)
  | assertion (span : Span) (kind : Assertion)
  | named (span : Span) (negated : Bool) (name : ClassName)
  | bracket (span : Span) (negated : Bool) (body : ClassTree)
  | repetition (span : Span) (least : Nat) (most : Option Nat) (body : Tree)
  | group (span : Span) (changes : FlagChanges) (captures : Bool) (body : Tree)
  | alternation (span : Span) (branches : List Tree)
  | sequence (span : Span) (parts : List Tree)

namespace Tree

def span : Tree → Span
  | empty span => span
  | flags span _ => span
  | literal l => l.span
  | dot span => span
  | assertion span _ => span
  | named span .. => span
  | bracket span .. => span
  | repetition span .. => span
  | group span .. => span
  | alternation span _ => span
  | sequence span _ => span

def isRepeatable : Tree → Bool
  | empty _ => false
  | flags .. => false
  | _ => true

end Tree

/-! How deep trees are nested. -/

/-- Parentheses, brackets and the like may stand in each other so many levels deep. -/
def nestLimit : Nat := 250

mutual

/-- The first part, from the left, that stands deeper than the limit. -/
def ClassTree.tooDeep? (depth : Nat) : ClassTree → Option Span
  | .bracket span _ body =>
      if nestLimit ≤ depth then some span else body.tooDeep? (depth + 1)
  | .union span items =>
      if nestLimit ≤ depth then some span else ClassTree.anyTooDeep? (depth + 1) items
  | .operation span _ left right =>
      if nestLimit ≤ depth then some span
      else (left.tooDeep? (depth + 1)).orElse fun _ => right.tooDeep? (depth + 1)
  | .empty _ | .literal _ | .range .. | .named .. => none

def ClassTree.anyTooDeep? (depth : Nat) : List ClassTree → Option Span
  | [] => none
  | item :: items =>
      (item.tooDeep? depth).orElse fun _ => ClassTree.anyTooDeep? depth items

end

mutual

def Tree.tooDeep? (depth : Nat) : Tree → Option Span
  | .bracket span _ body =>
      if nestLimit ≤ depth then some span else body.tooDeep? (depth + 1)
  | .repetition span _ _ body =>
      if nestLimit ≤ depth then some span else body.tooDeep? (depth + 1)
  | .group span _ _ body =>
      if nestLimit ≤ depth then some span else body.tooDeep? (depth + 1)
  | .alternation span branches =>
      if nestLimit ≤ depth then some span else Tree.anyTooDeep? (depth + 1) branches
  | .sequence span parts =>
      if nestLimit ≤ depth then some span else Tree.anyTooDeep? (depth + 1) parts
  | .empty _ | .flags .. | .literal _ | .dot _ | .assertion .. | .named .. => none

def Tree.anyTooDeep? (depth : Nat) : List Tree → Option Span
  | [] => none
  | part :: parts => (part.tooDeep? depth).orElse fun _ => Tree.anyTooDeep? depth parts

end

end Wireframe.Pattern
