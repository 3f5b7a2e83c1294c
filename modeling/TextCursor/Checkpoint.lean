import TextCursor.Position
/-!
The checkpoint slot holds at most one position to go back to. A locked snapshot stays until it is
taken; there is no lock without a snapshot.
-/
namespace TextCursor

inductive Checkpoint where
  | empty
  /-- A snapshot that the next commit replaces. -/
  | unlocked (position : Position)
  /-- A snapshot that commits leave alone. -/
  | locked (position : Position)
  deriving DecidableEq, Repr

namespace Checkpoint

def snapshot : Checkpoint → Option Position
  | empty => none
  | unlocked p => some p
  | locked p => some p

def isLocked : Checkpoint → Bool
  | locked _ => true
  | _ => false

def isEmpty (c : Checkpoint) : Bool := c == empty

def take (c : Checkpoint) : Option Position × Checkpoint := (c.snapshot, empty)

end Checkpoint

end TextCursor
