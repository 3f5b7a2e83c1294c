import TextCursor.Options
import TextCursor.Position
/-!
The events that cursors and compilations emit. An event is told as a level, the topic that it
belongs to, a sentence and named fields; positions are told by line and column.
-/
namespace TextCursor

inductive Event where
  | created (chars : Nat) (encoding : Encoding)
  | resetting
  | accepted (start stop : Position) (chars : Nat)
  | saved (position : Position) (lock : Bool)
  | cancelled (start stop : Position)
  | matched (pattern text : Text) (position : Position) (commit : Bool)
  | compiled (pattern : Text) (modifiers : Modifiers)
  deriving DecidableEq, Repr

inductive Level where
  | trace
  | debug
  deriving DecidableEq, Repr

def Level.name : Level → String
  | trace => "TRACE"
  | debug => "DEBUG"

inductive FieldValue where
  | text (t : Text)
  | count (n : Nat)
  | flag (b : Bool)
  deriving DecidableEq, Repr

def FieldValue.position (p : Position) : FieldValue := .text p.display.toList

namespace Event

def level : Event → Level
  | matched _ _ _ _ => .debug
  | _ => .trace

def topic : Event → String
  | created _ _ => "cursor"
  | resetting => "cursor::checkpoint"
  | accepted _ _ _ => "cursor::checkpoint"
  | saved _ _ => "cursor::checkpoint"
  | cancelled _ _ => "cursor::checkpoint"
  | matched _ _ _ _ => "cursor::pattern"
  | compiled _ _ => "cursor::pattern"

def sentence : Event → String
  | created _ _ => "Creating cursor"
  | resetting => "Resetting cursor"
  | accepted _ _ _ => "Accepted"
  | saved _ _ => "Saved checkpoint"
  | cancelled _ _ => "Cancelled"
  | matched _ _ _ _ => "Matched"
  | compiled _ _ => "Compiled anchored pattern"

def fields : Event → List (String × FieldValue)
  | created chars encoding => [("chars", .count chars), ("encoding", .text encoding.label.toList)]
  | resetting => []
  | accepted start stop chars =>
    [("from", .position start), ("to", .position stop), ("chars", .count chars)]
  | saved p lock => [("position", .position p), ("lock", .flag lock)]
  | cancelled start stop => [("from", .position start), ("to", .position stop)]
  | matched pattern text p commit =>
    [("pattern", .text pattern), ("text", .text text), ("position", .position p),
      ("commit", .flag commit)]
  | compiled pattern modifiers =>
    [("pattern", .text pattern), ("modifiers", .text modifiers.display)]

end Event

end TextCursor
