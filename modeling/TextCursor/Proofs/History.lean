import TextCursor.Operation
/-!
The checkpoint slot told from the history of a cursor. A history is the list of marks that the
operations of a run leave: where a commit, a save or a locking save happened, and that the slot was
cleared. The first locking save since the last clearing wins, and without one the last mark does.
-/
namespace TextCursor

/-- What an operation does to the checkpoint slot, with the position where it does so. -/
inductive Mark where
  | lock (p : Position)
  | save (p : Position)
  | commit (p : Position)
  | clear
  deriving DecidableEq, Repr

namespace Mark

def isClear : Mark → Bool
  | clear => true
  | _ => false

def lockedAt? : Mark → Option Position
  | lock p => some p
  | _ => none

def position? : Mark → Option Position
  | lock p => some p
  | save p => some p
  | commit p => some p
  | clear => none

end Mark

def sinceClear (marks : List Mark) : List Mark :=
  (marks.reverse.takeWhile fun m => !m.isClear).reverse

def slotOf (marks : List Mark) : Checkpoint :=
  match (sinceClear marks).findSome? Mark.lockedAt? with
  | some p => .locked p
  | none =>
    match ((sinceClear marks).filterMap Mark.position?).getLast? with
    | some p => .unlocked p
    | none => .empty

def Operation.matchCommit? : Operation → Option Bool
  | matchPattern _ _ => some true
  | matchWith _ _ how => some how.commit
  | matchCompiled _ how => some how.commit
  | _ => none

def Answer.isMatched : Answer → Bool
  | outcome (some _) => true
  | _ => false

/-- The marks of the chunks that a test accepted, from a position on; `before` are the chunks that
it was given earlier. -/
def chunkMarks (test : Cursor.ChunkTest) (p : Position) (before : List Text) :
    List Text → List Mark
  | [] => []
  | chunk :: rest =>
    if test before chunk then
      .commit p :: chunkMarks test (p.advanceOver chunk) (before ++ [chunk]) rest
    else chunkMarks test p (before ++ [chunk]) rest

def matchMarks (p : Position) (commit : Bool) (answer : Answer) : List Mark :=
  if commit && answer.isMatched then [.commit p] else []

def Operation.marks (c : Cursor) : Operation → List Mark
  | peekWith _ _ => []
  | consumeWith _ _ => [.commit c.position]
  | peekWhileChunked test size =>
    chunkMarks test c.position [] (c.peekWhileChunked test size).result.seen
  | acceptWith _ _ => [.commit c.position]
  | saveWith lock => if lock then [.lock c.position] else [.save c.position]
  | cancel => [.clear]
  | reset => [.clear]
  | matchPattern source flags =>
    matchMarks c.position true ((matchPattern source flags).run c).result
  | matchWith source flags how =>
    matchMarks c.position how.commit ((matchWith source flags how).run c).result
  | matchCompiled pattern how =>
    matchMarks c.position how.commit ((matchCompiled pattern how).run c).result

def history (c : Cursor) : List Operation → List Mark
  | [] => []
  | op :: rest => op.marks c ++ history (op.run c).cursor rest

def Checkpoint.mark (slot : Checkpoint) : Mark → Checkpoint
  | .lock p => if slot.isLocked then slot else .locked p
  | .save p => if slot.isLocked then slot else .unlocked p
  | .commit p => if slot.isLocked then slot else .unlocked p
  | .clear => .empty

theorem sinceClear_append (marks : List Mark) (m : Mark) :
    sinceClear (marks ++ [m]) = if m.isClear then [] else sinceClear marks ++ [m] := by
  cases h : m.isClear <;> simp [sinceClear, h]

theorem isLocked_slotOf (marks : List Mark) :
    (slotOf marks).isLocked = ((sinceClear marks).findSome? Mark.lockedAt?).isSome := by
  unfold slotOf
  cases (sinceClear marks).findSome? Mark.lockedAt? with
  | some p => rfl
  | none => cases ((sinceClear marks).filterMap Mark.position?).getLast? <;> rfl

theorem slotOf_append (marks : List Mark) (m : Mark) :
    slotOf (marks ++ [m]) = (slotOf marks).mark m := by
  cases first : (sinceClear marks).findSome? Mark.lockedAt? with
  | some p =>
    have slot : slotOf marks = .locked p := by simp [slotOf, first]
    rw [slot]
    cases m <;>
      simp [slotOf, sinceClear_append, Mark.isClear, first, Checkpoint.mark, Checkpoint.isLocked]
  | none =>
    have free : (slotOf marks).isLocked = false := by simp [isLocked_slotOf, first]
    cases m <;> simp only [Checkpoint.mark, free, Bool.false_eq_true, ↓reduceIte] <;>
      simp [slotOf, sinceClear_append, Mark.isClear, first, Mark.lockedAt?, Mark.position?]

theorem slotOf_append_all (before marks : List Mark) :
    slotOf (before ++ marks) = marks.foldl Checkpoint.mark (slotOf before) := by
  induction marks generalizing before with
  | nil => simp
  | cons m rest ih =>
    have moved : before ++ m :: rest = before ++ [m] ++ rest := by simp
    rw [moved, ih, slotOf_append, List.foldl_cons]

namespace Cursor

theorem position_accept_peek (c : Cursor) (length extra : Nat) {s : Slice}
    (peeked : (c.peekWith length extra).result = some s) :
    (c.peekWith length extra).cursor.accept.cursor.position = c.position.advanceOver s.text := by
  unfold peekWith at peeked ⊢
  split at peeked
  · rename_i left
    cases peeked
    simp only [left, ↓reduceIte]
    have staged : min (saturatingAdd (saturatingAdd
        (min (saturatingAdd (min length c.remaining) extra) c.remaining) 0) 0) c.remaining =
        min (saturatingAdd (min length c.remaining) extra) c.remaining := by
      simp only [saturatingAdd]
      omega
    simp only [accept, acceptWith, remaining, currentText] at staged ⊢
    rw [staged]
    simp [Slice.charsFrom, Slice.text, Text.charPrefix]
  · cases peeked

theorem checkpoint_acceptWith (c : Cursor) (length offset : Nat) :
    (c.acceptWith length offset).cursor.checkpoint = c.checkpoint.mark (.commit c.position) := rfl

theorem checkpoint_peekWith (c : Cursor) (length extra : Nat) :
    (c.peekWith length extra).cursor.checkpoint = c.checkpoint := by
  unfold peekWith
  split <;> rfl

theorem position_peekWith (c : Cursor) (length extra : Nat) :
    (c.peekWith length extra).cursor.position = c.position := by
  unfold peekWith
  split <;> rfl

theorem checkpoint_consumeWith (c : Cursor) (length extra : Nat) :
    (c.consumeWith length extra).cursor.checkpoint = c.checkpoint.mark (.commit c.position) := by
  change (c.peekWith length extra).cursor.accept.cursor.checkpoint = _
  rw [accept, checkpoint_acceptWith, checkpoint_peekWith, position_peekWith]

theorem checkpoint_saveWith (c : Cursor) (lock : Bool) :
    (c.saveWith lock).cursor.checkpoint =
      c.checkpoint.mark (if lock then .lock c.position else .save c.position) := by
  unfold saveWith isLocked
  cases lock <;> simp only [Checkpoint.mark, ↓reduceIte, Bool.false_eq_true] <;> split <;> rfl

theorem cancel_eq (c : Cursor) :
    c.cancel.cursor =
      { c with
        position := c.checkpoint.snapshot.getD c.position
        pending := 0
        checkpoint := .empty } := by
  unfold cancel Checkpoint.take
  cases c.checkpoint.snapshot <;> rfl

theorem checkpoint_remember (c : Cursor) (key : CacheKey) (p : Pattern) :
    (c.remember key p).checkpoint = c.checkpoint := by
  unfold remember
  split <;> rfl

theorem checkpoint_chunksFuel (test : ChunkTest) (size fuel : Nat) (seen : List Text)
    (c : Cursor) :
    ∃ more, (chunksFuel test size fuel seen c).result.seen = seen ++ more ∧
      (chunksFuel test size fuel seen c).cursor.checkpoint =
        (chunkMarks test c.position seen more).foldl Checkpoint.mark c.checkpoint := by
  induction fuel generalizing seen c with
  | zero => exact ⟨[], by simp [chunksFuel], rfl⟩
  | succ fuel ih =>
    simp only [chunksFuel, peek]
    split
    · exact ⟨[], by simp, checkpoint_peekWith c size 0⟩
    · rename_i s peeked
      by_cases accepted : test seen s.text
      · obtain ⟨more, given, slot⟩ := ih (seen ++ [s.text]) (c.peekWith size 0).cursor.accept.cursor
        refine ⟨s.text :: more, ?_, ?_⟩
        · simp only [accepted, ↓reduceIte]
          rw [given, List.append_assoc]
          rfl
        · simp only [accepted, ↓reduceIte, chunkMarks, List.foldl_cons]
          rw [slot, position_accept_peek c size 0 peeked, accept, checkpoint_acceptWith,
            checkpoint_peekWith, position_peekWith]
      · refine ⟨[s.text], ?_, ?_⟩
        · simp [accepted]
        · simp only [accepted, Bool.false_eq_true, ↓reduceIte, chunkMarks, List.foldl_nil]
          exact checkpoint_peekWith c size 0

theorem checkpoint_peekWhileChunked (c : Cursor) (test : ChunkTest) (size : Nat) :
    (c.peekWhileChunked test size).cursor.checkpoint =
      (chunkMarks test c.position [] (c.peekWhileChunked test size).result.seen).foldl
        Checkpoint.mark c.checkpoint := by
  unfold peekWhileChunked
  split
  · rfl
  · obtain ⟨more, given, slot⟩ := checkpoint_chunksFuel test size (c.remaining + 1) [] c
    rw [given, slot]
    rfl

theorem checkpoint_matchCompiled (c : Cursor) (p : Pattern) (how : MatchOptions) :
    (c.matchCompiled p how).cursor.checkpoint =
      (matchMarks c.position how.commit (.outcome (c.matchCompiled p how).result)).foldl
        Checkpoint.mark c.checkpoint := by
  unfold matchCompiled
  split
  · simp [matchMarks, Answer.isMatched]
  · cases commit : how.commit <;> simp [matchMarks, Answer.isMatched, accept, checkpoint_acceptWith]

theorem checkpoint_matchKey (c : Cursor) (key : CacheKey) (how : MatchOptions) :
    (c.matchKey key how).cursor.checkpoint =
      (matchMarks c.position how.commit (.ofMatch (c.matchKey key how).result)).foldl
        Checkpoint.mark c.checkpoint := by
  unfold matchKey
  split
  · exact checkpoint_matchCompiled c _ how
  · split
    · simp [matchMarks, Answer.ofMatch, Answer.isMatched]
    · rename_i p _
      rw [checkpoint_remember]
      exact checkpoint_matchCompiled c p how

theorem checkpoint_matchWith (c : Cursor) (source flags : Text) (how : MatchOptions) :
    (c.matchWith source flags how).cursor.checkpoint =
      (matchMarks c.position how.commit (.ofMatch (c.matchWith source flags how).result)).foldl
        Checkpoint.mark c.checkpoint := by
  unfold matchWith
  split
  · simp [matchMarks, Answer.ofMatch, Answer.isMatched]
  · exact checkpoint_matchKey c _ how

end Cursor

theorem checkpoint_run (c : Cursor) (op : Operation) :
    (op.run c).cursor.checkpoint = (op.marks c).foldl Checkpoint.mark c.checkpoint := by
  cases op with
  | peekWith length extra => exact Cursor.checkpoint_peekWith c length extra
  | consumeWith length extra => exact Cursor.checkpoint_consumeWith c length extra
  | peekWhileChunked test size => exact Cursor.checkpoint_peekWhileChunked c test size
  | acceptWith length offset => exact Cursor.checkpoint_acceptWith c length offset
  | saveWith lock =>
    refine (Cursor.checkpoint_saveWith c lock).trans ?_
    cases lock <;> rfl
  | cancel => exact congrArg Cursor.checkpoint (Cursor.cancel_eq c)
  | reset => rfl
  | matchPattern source flags => exact Cursor.checkpoint_matchWith c source flags _
  | matchWith source flags how => exact Cursor.checkpoint_matchWith c source flags how
  | matchCompiled pattern how => exact Cursor.checkpoint_matchCompiled c pattern how

theorem checkpoint_runCursor (c : Cursor) (ops : List Operation) :
    (runCursor c ops).checkpoint = (history c ops).foldl Checkpoint.mark c.checkpoint := by
  induction ops generalizing c with
  | nil => rfl
  | cons op rest ih =>
    rw [history, List.foldl_append, ← checkpoint_run]
    exact ih (op.run c).cursor

theorem marks_match (c : Cursor) (op : Operation) (commit : Bool)
    (isMatch : op.matchCommit? = some commit)
    (quiet : commit = false ∨ (op.run c).result.isMatched = false) : op.marks c = [] := by
  cases op <;> simp only [Operation.matchCommit?, Option.some.injEq, reduceCtorEq] at isMatch <;>
    rcases quiet with staged | missed <;> simp_all [Operation.marks, matchMarks]

/-- The slot of a cursor is what its history leads to: the first locking save since the last cancel
or reset, or else the last commit or save. A cancel goes back there and leaves nothing staged, kept
or locked; peeks and matches that commit nothing leave the slot alone. -/
theorem checkpoint_from_history (text : Text) (options : CursorOptions) (ops : List Operation) :
    let c := runCursor (Cursor.ofText text options) ops
    let slot := slotOf (history (Cursor.ofText text options) ops)
    c.checkpoint = slot ∧
      (c.cancel.cursor.position = slot.snapshot.getD c.position ∧
        c.cancel.cursor.pending = 0 ∧ c.cancel.cursor.checkpoint = .empty ∧
        c.cancel.cursor.isLocked = false) ∧
      (∀ length extra, ((Operation.peekWith length extra).run c).cursor.checkpoint =
        c.checkpoint) ∧
      (∀ (op : Operation) (commit : Bool), op.matchCommit? = some commit →
        commit = false ∨ (op.run c).result.isMatched = false →
        (op.run c).cursor.checkpoint = c.checkpoint) := by
  intro c slot
  have kept : c.checkpoint = slot := by
    have folded := slotOf_append_all [] (history (Cursor.ofText text options) ops)
    exact (checkpoint_runCursor _ ops).trans folded.symm
  refine ⟨kept, ?_, ?_, ?_⟩
  · rw [Cursor.cancel_eq, ← kept]
    exact ⟨rfl, rfl, rfl, rfl⟩
  · intro length extra
    exact Cursor.checkpoint_peekWith c length extra
  · intro op commit isMatch quiet
    rw [checkpoint_run, marks_match c op commit isMatch quiet]
    rfl

/-- A match of the line feed is committed behind `x`, and the slot goes there; a match that is only
staged and one that fails leave it there, so that a cancel leads back in front of the line feed. -/
theorem committed_match_moves_slot :
    let fresh := Cursor.ofText ['x', '\n', 'é', 'b'] {}
    let ops : List Operation :=
      [.consumeWith 1 0, .matchPattern ['\n'] [], .matchWith ['é'] [] .staged,
        .matchPattern ['z'] []]
    let c := runCursor fresh ops
    (runAll fresh ops).map (·.result.isMatched) = [false, true, true, false] ∧
      history fresh ops = [.commit .start, .commit ⟨1, 2, 1, 1⟩] ∧
      c.position = ⟨2, 1, 2, 2⟩ ∧ c.pending = 1 ∧ c.checkpoint = .unlocked ⟨1, 2, 1, 1⟩ ∧
      c.cancel.cursor.position = ⟨1, 2, 1, 1⟩ ∧ c.cancel.cursor.pending = 0 ∧
      c.cancel.cursor.checkpoint = .empty := by
  intro fresh ops c
  obtain ⟨kept, ⟨back, unstaged, emptied, _⟩, _⟩ :=
    checkpoint_from_history ['x', '\n', 'é', 'b'] {} ops
  have marks : history fresh ops = [.commit .start, .commit ⟨1, 2, 1, 1⟩] := by decide +kernel
  have slot : slotOf (history fresh ops) = .unlocked ⟨1, 2, 1, 1⟩ := by
    rw [marks]
    rfl
  rw [slot] at kept back
  refine ⟨?_, marks, ?_, ?_, ?_, ?_, ?_, ?_⟩
  · decide +kernel
  · decide +kernel
  · decide +kernel
  · rw [kept]
  · rw [back]
    rfl
  · rw [unstaged]
  · rw [emptied]

end TextCursor
