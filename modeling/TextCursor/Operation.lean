import TextCursor.Cursor
/-!
Operations on cursors as data, so that one can speak of runs of them. A run carries out operations
one after the other, each on the cursor that the one before left.
-/
namespace TextCursor

inductive Operation where
  | peekWith (length extra : Nat)
  | consumeWith (length extra : Nat)
  | peekWhileChunked (test : Cursor.ChunkTest) (size : Nat)
  | acceptWith (length offset : Nat)
  | saveWith (lock : Bool)
  | cancel
  | reset
  | matchPattern (source flags : Text)
  | matchWith (source flags : Text) (options : MatchOptions)
  | matchCompiled (pattern : Pattern) (options : MatchOptions)

inductive Answer where
  | done
  | slice (s : Option Slice)
  | chunks (c : Cursor.Chunks)
  | outcome (m : Option MatchOutcome)
  | failed (e : CursorError)
  deriving DecidableEq, Repr

namespace Answer

def ofMatch : Except CursorError (Option MatchOutcome) → Answer
  | .ok m => outcome m
  | .error e => failed e

end Answer

def Effect.map {α β : Type} (f : α → β) (e : Effect α) : Effect β :=
  ⟨f e.result, e.cursor, e.events⟩

def Operation.run (c : Cursor) : Operation → Effect Answer
  | peekWith length extra => (c.peekWith length extra).map .slice
  | consumeWith length extra => (c.consumeWith length extra).map .slice
  | peekWhileChunked test size => (c.peekWhileChunked test size).map .chunks
  | acceptWith length offset => (c.acceptWith length offset).map fun _ => .done
  | saveWith lock => (c.saveWith lock).map fun _ => .done
  | cancel => c.cancel.map fun _ => .done
  | reset => c.reset.map fun _ => .done
  | matchPattern source flags => (c.matchPattern source flags).map .ofMatch
  | matchWith source flags options => (c.matchWith source flags options).map .ofMatch
  | matchCompiled pattern options => (c.matchCompiled pattern options).map .outcome

def runAll (c : Cursor) : List Operation → List (Effect Answer)
  | [] => []
  | op :: rest =>
    let e := op.run c
    e :: runAll e.cursor rest

def runCursor (c : Cursor) (ops : List Operation) : Cursor :=
  ops.foldl (fun c op => (op.run c).cursor) c

end TextCursor
