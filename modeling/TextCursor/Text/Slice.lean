import TextCursor.Text
/-!
A slice names a part of a shared buffer by its byte range. Making a slice does not tell whether there
is a text to read: that takes a range in order whose ends lie between codepoints of the buffer, and
`Slice.read?` refuses any other. `Slice.between?` makes a slice and reads it at once, and
`Slice.charsFrom?` counts codepoints from a byte on. Two slices are compared by their text, wherever
it lies.
-/
namespace TextCursor

/-- The part of `buffer` from byte `start` to byte `stop`, whether it can be read or not. -/
structure Slice where
  buffer : Text
  start : Nat
  stop : Nat
  deriving DecidableEq, Repr

namespace Slice

def text (s : Slice) : Text := (s.buffer.dropBytes s.start).takeBytes (s.stop - s.start)

def byteLength (s : Slice) : Nat := s.stop - s.start

def charLength (s : Slice) : Nat := s.text.length

def isEmpty (s : Slice) : Bool := s.byteLength == 0

def sameText (a b : Slice) : Bool := a.text == b.text

def whole (buffer : Text) : Slice := ⟨buffer, 0, buffer.byteLength⟩

/-- Makes the slice of a range. If `checked`, the range has to be in order and inside the buffer;
whether its ends lie between codepoints is not looked at. -/
def ofRange? (checked : Bool) (buffer : Text) (start stop : Nat) : Option Slice :=
  if checked = true ∧ ¬ (start ≤ stop ∧ stop ≤ buffer.byteLength) then none
  else some ⟨buffer, start, stop⟩

/-- Reads the slice. A range that is out of order or has an end inside a codepoint cannot be read. -/
def read? (s : Slice) : Option Text :=
  if s.start ≤ s.stop ∧ s.buffer.isBoundary s.start ∧ s.buffer.isBoundary s.stop then some s.text
  else none

def between? (buffer : Text) (start stop : Nat) : Option Slice :=
  (ofRange? true buffer start stop).bind fun s => s.read?.map fun _ => s

/-- The slice of the first `n` codepoints from byte `start` on, or of as many as there are. -/
def charsFrom (buffer : Text) (start n : Nat) : Slice :=
  ⟨buffer, start, start + (buffer.dropBytes start).byteIndex n⟩

def charsFrom? (buffer : Text) (start n : Nat) : Option Slice :=
  if buffer.isBoundary start then some (charsFrom buffer start n) else none

theorem text_charsFrom (buffer : Text) (start n : Nat) :
    (charsFrom buffer start n).text = (buffer.dropBytes start).take n := by
  simp [charsFrom, text, Text.takeBytes_byteIndex]

end Slice

end TextCursor
