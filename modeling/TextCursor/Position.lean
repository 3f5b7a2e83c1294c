import TextCursor.Text
/-!
A position names a place in a text by line and column, both counted from one, and by the number of
codepoints and of bytes before it. `advanceOver` moves it past the text that follows.
-/
namespace TextCursor

structure Position where
  line : Nat
  column : Nat
  offset : Nat
  byteOffset : Nat
  deriving DecidableEq, Repr

namespace Position

def start : Position := ⟨1, 1, 0, 0⟩

instance : Inhabited Position := ⟨start⟩

def next (p : Position) (c : Char) : Position :=
  if c = '\n' then ⟨p.line + 1, 1, p.offset + 1, p.byteOffset + c.utf8Size⟩
  else ⟨p.line, p.column + 1, p.offset + 1, p.byteOffset + c.utf8Size⟩

def advanceOver (p : Position) (text : Text) : Position := text.foldl next p

theorem advanceOver_append (p : Position) (a b : Text) :
    p.advanceOver (a ++ b) = (p.advanceOver a).advanceOver b := List.foldl_append

theorem offset_next (p : Position) (c : Char) : (p.next c).offset = p.offset + 1 := by
  unfold next
  split <;> rfl

theorem byteOffset_next (p : Position) (c : Char) :
    (p.next c).byteOffset = p.byteOffset + c.utf8Size := by
  unfold next
  split <;> rfl

theorem offset_advanceOver (p : Position) (text : Text) :
    (p.advanceOver text).offset = p.offset + text.length := by
  induction text generalizing p with
  | nil => rfl
  | cons c rest ih =>
    have step := ih (p.next c)
    rw [offset_next] at step
    simp only [List.length_cons]
    exact step.trans (by omega)

theorem byteOffset_advanceOver (p : Position) (text : Text) :
    (p.advanceOver text).byteOffset = p.byteOffset + text.byteLength := by
  induction text generalizing p with
  | nil => rfl
  | cons c rest ih =>
    have step := ih (p.next c)
    rw [byteOffset_next] at step
    rw [Text.byteLength]
    exact step.trans (by omega)

def display (p : Position) : String := toString p.line ++ ":" ++ toString p.column

end Position

end TextCursor
