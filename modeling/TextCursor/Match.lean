import TextCursor.Options
import TextCursor.Pattern.Compile
import TextCursor.Text.Slice
/-!
The outcome of a match: the groups as slices of the buffer that was matched. A pattern only sees
the text from the start of the match on, never what lies before it.
-/
namespace TextCursor

structure Group where
  slice : Slice
  /-- The number of codepoints before the group in the text that was matched, if reported. -/
  offset : Option Nat
  deriving DecidableEq, Repr

/-- A successful match. Group 0 is the whole match; a group that took no part is `none`. -/
structure MatchOutcome where
  whole : Group
  groups : List (Option Group)
  names : List (Option Text)
  deriving DecidableEq, Repr

namespace MatchOutcome

def text (m : MatchOutcome) : Text := m.whole.slice.text

def charLength (m : MatchOutcome) : Nat := m.whole.slice.charLength

def size (m : MatchOutcome) : Nat := m.groups.length

def isEmpty (m : MatchOutcome) : Bool := m.groups.isEmpty

def get? (m : MatchOutcome) (index : Nat) : Option Group := (m.groups[index]?).join

def named? (m : MatchOutcome) (name : Text) : Option Group :=
  (m.names.findIdx? (· == some name)).bind m.get?

end MatchOutcome

namespace Pattern

def groupAt (buffer : Text) (start : Nat) (capture : CaptureMode) (span : CharSpan) : Group :=
  let haystack := buffer.dropBytes start
  { slice :=
      ⟨buffer, start + haystack.byteIndex span.start, start + haystack.byteIndex span.stop⟩
    offset :=
      match capture with
      | .text => none
      | .offset => some span.start }

def matchAt? (p : Pattern) (buffer : Text) (start : Nat) (capture : CaptureMode) :
    Option MatchOutcome := do
  let spans ← p.find? (buffer.dropBytes start)
  let groups := spans.map fun span => span.map (groupAt buffer start capture)
  let whole ← groups.head?.join
  some ⟨whole, groups, p.program.names⟩

end Pattern

end TextCursor
