import TextCursor.Text
/-!
Places in the text of a pattern. An error message points at them by line and column, so nothing
else of a place is kept.
-/
namespace TextCursor.Pattern

structure Location where
  line : Nat
  column : Nat
  deriving DecidableEq, Repr

namespace Location

def start : Location := ⟨1, 1⟩

def next (l : Location) (c : Char) : Location :=
  if c = '\n' then ⟨l.line + 1, 1⟩ else ⟨l.line, l.column + 1⟩

def le (a b : Location) : Bool := a.line < b.line || (a.line == b.line && a.column ≤ b.column)

end Location

structure Span where
  start : Location
  stop : Location
  deriving DecidableEq, Repr

namespace Span

def point (l : Location) : Span := ⟨l, l⟩

def isOneLine (s : Span) : Bool := s.start.line == s.stop.line

def le (a b : Span) : Bool :=
  if a.start = b.start then a.stop.le b.stop else a.start.le b.start

end Span

end TextCursor.Pattern
