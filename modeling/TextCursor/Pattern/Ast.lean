import TextCursor.Pattern.Location
import TextCursor.Unicode.Property
/-!
A pattern as it is written: every construct with the span that it covers. Nothing is resolved yet:
flags stand where they were set, and names of properties are as given.
-/
namespace TextCursor.Pattern

inductive Flag where
  | caseInsensitive
  | multiLine
  | dotMatchesNewLine
  | swapGreed
  | unicode
  | crlf
  | ignoreWhitespace
  deriving DecidableEq, Repr

structure FlagItem where
  flag : Flag
  set : Bool
  deriving DecidableEq, Repr

def flagState (items : List FlagItem) (flag : Flag) : Option Bool :=
  (items.find? fun item => item.flag = flag).map FlagItem.set

inductive Assertion where
  | startLine
  | endLine
  | startText
  | endText
  | wordBoundary
  | notWordBoundary
  | wordStart
  | wordEnd
  | wordStartHalf
  | wordEndHalf
  deriving DecidableEq, Repr

inductive Shorthand where
  | digit
  | space
  | word
  deriving DecidableEq, Repr

inductive AsciiClass where
  | alnum
  | alpha
  | ascii
  | blank
  | cntrl
  | digit
  | graph
  | lower
  | print
  | punct
  | space
  | upper
  | word
  | xdigit
  deriving DecidableEq, Repr

/-- A codepoint in a pattern. `isByte` marks one that was written as two hexadecimal digits, which
stand for a byte outside Unicode mode. -/
structure Literal where
  span : Span
  char : Char
  isByte : Bool
  deriving DecidableEq, Repr

structure PropertyItem where
  span : Span
  negated : Bool
  query : Unicode.PropertyQuery
  deriving DecidableEq, Repr

structure ShorthandItem where
  span : Span
  negated : Bool
  kind : Shorthand
  deriving DecidableEq, Repr

inductive ClassOp where
  | intersection
  | difference
  | symmetricDifference
  deriving DecidableEq, Repr

inductive ClassSet where
  | empty (span : Span)
  | literal (l : Literal)
  | range (span : Span) (lo hi : Literal)
  | ascii (span : Span) (negated : Bool) (kind : AsciiClass)
  | property (p : PropertyItem)
  | shorthand (p : ShorthandItem)
  | bracketed (span : Span) (negated : Bool) (set : ClassSet)
  | union (span : Span) (items : List ClassSet)
  | op (span : Span) (kind : ClassOp) (lhs rhs : ClassSet)

def ClassSet.span : ClassSet → Span
  | empty s => s
  | literal l => l.span
  | range s _ _ => s
  | ascii s _ _ => s
  | property p => p.span
  | shorthand p => p.span
  | bracketed s _ _ => s
  | union s _ => s
  | op s _ _ _ => s

/-- How often an expression is repeated; without `most` there is no upper bound. -/
structure Count where
  least : Nat
  most : Option Nat
  deriving DecidableEq, Repr

inductive GroupKind where
  | capture (index : Nat) (name : Option Text)
  | plain (flags : List FlagItem)
  deriving DecidableEq, Repr

inductive Ast where
  | empty (span : Span)
  | flags (span : Span) (items : List FlagItem)
  | literal (l : Literal)
  | dot (span : Span)
  | assertion (span : Span) (kind : Assertion)
  | property (p : PropertyItem)
  | shorthand (p : ShorthandItem)
  | bracketed (span : Span) (negated : Bool) (set : ClassSet)
  | repetition (span : Span) (count : Count) (greedy : Bool) (sub : Ast)
  | group (span : Span) (kind : GroupKind) (sub : Ast)
  | alternation (span : Span) (branches : List Ast)
  | concat (span : Span) (parts : List Ast)

def Ast.span : Ast → Span
  | empty s => s
  | flags s _ => s
  | literal l => l.span
  | dot s => s
  | assertion s _ => s
  | property p => p.span
  | shorthand p => p.span
  | bracketed s _ _ => s
  | repetition s _ _ _ => s
  | group s _ _ => s
  | alternation s _ => s
  | concat s _ => s

end TextCursor.Pattern
