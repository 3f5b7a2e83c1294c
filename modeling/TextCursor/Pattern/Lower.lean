import TextCursor.Pattern.Depth
import TextCursor.Pattern.Tree
import TextCursor.Modifiers
/-!
What a written pattern matches. `Ast.lower` carries the flags along as it goes through a pattern:
flags that are set inside a group hold to the end of that group, across its bars, and a group's own
flags hold inside it. Outside Unicode mode a pattern may still match whole codepoints only, so that
sets beyond ASCII are refused there.
-/
namespace TextCursor.Pattern

structure Flags where
  caseInsensitive : Bool
  multiLine : Bool
  dotMatchesNewLine : Bool
  swapGreed : Bool
  unicode : Bool
  crlf : Bool
  deriving DecidableEq, Repr

namespace Flags

def ofModifiers (m : Modifiers) : Flags :=
  ⟨m.caseInsensitive, m.multiLine, m.dotMatchesNewLine, m.swapGreed, true, false⟩

def apply (f : Flags) (item : FlagItem) : Flags :=
  match item.flag with
  | .caseInsensitive => { f with caseInsensitive := item.set }
  | .multiLine => { f with multiLine := item.set }
  | .dotMatchesNewLine => { f with dotMatchesNewLine := item.set }
  | .swapGreed => { f with swapGreed := item.set }
  | .unicode => { f with unicode := item.set }
  | .crlf => { f with crlf := item.set }
  | .ignoreWhitespace => f

def applyAll (f : Flags) (items : List FlagItem) : Flags := items.foldl apply f

end Flags

open Unicode (CodeSet)

def AsciiClass.set : AsciiClass → CodeSet
  | alnum => .ofPairs [(0x30, 0x39), (0x41, 0x5A), (0x61, 0x7A)]
  | alpha => .ofPairs [(0x41, 0x5A), (0x61, 0x7A)]
  | ascii => .range 0 0x7F
  | blank => .ofPairs [(0x09, 0x09), (0x20, 0x20)]
  | cntrl => .ofPairs [(0x00, 0x1F), (0x7F, 0x7F)]
  | digit => .range 0x30 0x39
  | graph => .range 0x21 0x7E
  | lower => .range 0x61 0x7A
  | print => .range 0x20 0x7E
  | punct => .ofPairs [(0x21, 0x2F), (0x3A, 0x40), (0x5B, 0x60), (0x7B, 0x7E)]
  | space => .ofPairs [(0x09, 0x0D), (0x20, 0x20)]
  | upper => .range 0x41 0x5A
  | word => .ofPairs [(0x30, 0x39), (0x41, 0x5A), (0x5F, 0x5F), (0x61, 0x7A)]
  | xdigit => .ofPairs [(0x30, 0x39), (0x41, 0x46), (0x61, 0x66)]

def Shorthand.set (unicode : Bool) : Shorthand → CodeSet
  | digit => if unicode then Unicode.digit else AsciiClass.set .digit
  | space => if unicode then Unicode.whiteSpace else AsciiClass.set .space
  | word => if unicode then Unicode.word else AsciiClass.set .word

def foldCase (flags : Flags) (set : CodeSet) : CodeSet :=
  if !flags.caseInsensitive then set
  else if flags.unicode then set.closeCase
  else set.closeAsciiCase

/-- The complement of a set, which outside Unicode mode would hold more than ASCII. -/
def negate (flags : Flags) (span : Span) (negated : Bool) (set : CodeSet) :
    Except Fault CodeSet :=
  if !negated then .ok set
  else if flags.unicode then .ok set.complement
  else fault span .invalidUtf8

def ShorthandItem.lower (flags : Flags) (p : ShorthandItem) : Except Fault CodeSet :=
  negate flags p.span p.negated (p.kind.set flags.unicode)

def PropertyItem.lower (flags : Flags) (p : PropertyItem) : Except Fault CodeSet :=
  if !flags.unicode then fault p.span .unicodeNotAllowed
  else
    match p.query.find with
    | .ok set => negate flags p.span p.negated (foldCase flags set)
    | .error .unknownProperty => fault p.span .unicodePropertyNotFound
    | .error .unknownValue => fault p.span .unicodePropertyValueNotFound

/-- The codepoint of a literal. Outside Unicode mode two hexadecimal digits stand for a byte, and
one beyond ASCII is no codepoint. -/
def Literal.scalar (flags : Flags) (l : Literal) : Except Fault Char :=
  if !flags.unicode && l.isByte && 0x7F < l.char.toNat then fault l.span .invalidUtf8
  else .ok l.char

def Literal.classScalar (flags : Flags) (l : Literal) : Except Fault Char := do
  let c ← l.scalar flags
  if !flags.unicode && 0x7F < c.toNat then fault l.span .unicodeNotAllowed else .ok c

def ClassOp.apply : ClassOp → CodeSet → CodeSet → CodeSet
  | intersection => CodeSet.inter
  | difference => CodeSet.diff
  | symmetricDifference => CodeSet.symmDiff

mutual

def ClassSet.lower (flags : Flags) : ClassSet → Except Fault CodeSet
  | empty _ => .ok .empty
  | literal l => do
    let c ← l.classScalar flags
    .ok (.singleton c)
  | range _ lo hi => do
    let lo ← lo.classScalar flags
    let hi ← hi.classScalar flags
    .ok (.range lo.toNat hi.toNat)
  | ascii span negated kind => negate flags span negated (foldCase flags kind.set)
  | property p => p.lower flags
  | shorthand p => p.lower flags
  | bracketed span negated set => do
    let set ← set.lower flags
    negate flags span negated (foldCase flags set)
  | union _ items => ClassSet.lowerAll flags .empty items
  | op _ kind lhs rhs => do
    let lhs ← lhs.lower flags
    let rhs ← rhs.lower flags
    .ok (kind.apply (foldCase flags lhs) (foldCase flags rhs))

def ClassSet.lowerAll (flags : Flags) (before : CodeSet) : List ClassSet → Except Fault CodeSet
  | [] => .ok before
  | item :: rest => do
    let set ← item.lower flags
    ClassSet.lowerAll flags (before.union set) rest

end

def Literal.lower (flags : Flags) (l : Literal) : Except Fault Tree := do
  let c ← l.scalar flags
  if flags.caseInsensitive && (flags.unicode || c.isAlpha) then
    .ok (.ofSet (!flags.unicode) (foldCase flags (.singleton c)))
  else .ok (.literal [c])

def dotSet (flags : Flags) : CodeSet :=
  if flags.dotMatchesNewLine then .all
  else if flags.crlf then CodeSet.complement (.ofPairs [(0x0A, 0x0A), (0x0D, 0x0D)])
  else CodeSet.complement (.range 0x0A 0x0A)

def Assertion.lower (flags : Flags) : Assertion → Look
  | startLine => if flags.multiLine then .lineStart flags.crlf else .start
  | endLine => if flags.multiLine then .lineStop flags.crlf else .stop
  | startText => .start
  | endText => .stop
  | wordBoundary => .word .boundary flags.unicode
  | notWordBoundary => .word .notBoundary flags.unicode
  | wordStart => .word .start flags.unicode
  | wordEnd => .word .stop flags.unicode
  | wordStartHalf => .word .startHalf flags.unicode
  | wordEndHalf => .word .stopHalf flags.unicode

mutual

/-- The tree of a pattern, and the flags in force behind it. -/
def Ast.lower (flags : Flags) : Ast → Except Fault (Tree × Flags)
  | empty _ => .ok (.empty, flags)
  | .flags _ items => .ok (.empty, flags.applyAll items)
  | literal l => do
    let t ← l.lower flags
    .ok (t, flags)
  | dot span =>
    if flags.unicode then .ok (.ofSet false (dotSet flags), flags) else fault span .invalidUtf8
  | assertion _ kind => .ok (.look (kind.lower flags), flags)
  | property p => do
    let set ← p.lower flags
    .ok (.ofSet false set, flags)
  | shorthand p => do
    let set ← p.lower flags
    .ok (.ofSet (!flags.unicode) set, flags)
  | bracketed span negated set => do
    let set ← (ClassSet.bracketed span negated set).lower flags
    .ok (.ofSet (!flags.unicode) set, flags)
  | repetition _ count greedy sub => do
    let (t, flags) ← sub.lower flags
    .ok (.repeated count (greedy != flags.swapGreed) t, flags)
  | group _ (.capture index name) sub => do
    let (t, _) ← sub.lower flags
    .ok (.capture index name t, flags)
  | group _ (.plain items) sub => do
    let (t, _) ← sub.lower (flags.applyAll items)
    .ok (t, flags)
  | alternation _ branches => do
    let (ts, flags) ← Ast.lowerAll flags branches
    .ok (.anyOf ts, flags)
  | concat _ parts => do
    let (ts, flags) ← Ast.lowerAll flags parts
    .ok (.concatenation ts, flags)

def Ast.lowerAll (flags : Flags) : List Ast → Except Fault (List Tree × Flags)
  | [] => .ok ([], flags)
  | a :: rest => do
    let (t, flags) ← a.lower flags
    let (ts, flags) ← Ast.lowerAll flags rest
    .ok (t :: ts, flags)

end

def Tree.parse (modifiers : Modifiers) (text : Text) : Except SyntaxError Tree :=
  match Ast.parse modifiers.ignoreWhitespace text with
  | .error f => .error ⟨text, f⟩
  | .ok a =>
    match a.lower (.ofModifiers modifiers) with
    | .error f => .error ⟨text, f⟩
    | .ok (t, _) => .ok t

end TextCursor.Pattern
