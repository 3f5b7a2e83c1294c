import TextCursor.Proofs.Conservation
/-!
What is asked for is what is given. A peek and a consuming read that are asked for the same give the
same slice: it starts where the cursor stands and holds as many of the next codepoints as the
unbounded sum says, or all that are left. The peek stages that many and changes nothing else; the
other ends at the end of the slice. So reading twice is reading once what both were asked for.
-/
namespace TextCursor

def Effect.given (e : Effect (Option Slice)) : Text := e.result.elim [] Slice.text

namespace Cursor

/-- The slice of the next `n` codepoints of the input, all of which are left. -/
structure Ahead (c : Cursor) (n : Nat) (s : Slice) : Prop where
  buffer : s.buffer = c.text
  start : s.start = c.position.byteOffset
  text : s.text = c.currentText.take n
  charLength : s.charLength = n

structure Consumes (c : Cursor) (s : Slice) (e : Effect (Option Slice)) : Prop where
  result : e.result = some s
  byteOffset : e.cursor.position.byteOffset = s.stop
  remaining : e.cursor.remaining + s.charLength = c.remaining
  unstaged : e.cursor.pending = 0

variable {text : Text} {options : CursorOptions} {c d e : Cursor} {v w : Text}

theorem charsFrom_ahead (h : c.Coherent text options) {n : Nat} (left : n ≤ c.remaining) :
    c.Ahead n (.charsFrom c.text c.position.byteOffset n) where
  buffer := rfl
  start := rfl
  text := Slice.text_charsFrom _ _ _
  charLength := by
    rw [remaining_coherent h] at left
    rw [Slice.charLength, Slice.text_charsFrom]
    exact List.length_take_of_le left

theorem consumeWith_consumes (h : c.Coherent text options) (countable : c.remaining ≤ maxCount)
    (left : c.hasRemaining = true) (length extra : Nat) :
    c.Consumes (.charsFrom c.text c.position.byteOffset (min (length + extra) c.remaining))
      (c.consumeWith length extra) := by
  have peeked := congrArg Effect.result (peekWith_left countable left length extra)
  have ahead := charsFrom_ahead h (Nat.min_le_right (length + extra) c.remaining)
  have moved := consumeWith_movesOn h countable length extra
  constructor
  · exact peeked
  · rw [(consumeWith_over peeked).position, Position.byteOffset_advanceOver, ahead.text,
      Text.byteLength_take]
    rfl
  · rw [ahead.charLength]
    exact moved.remaining
  · exact moved.unstaged

theorem accept_used (h : c.Coherent text options) (used : c.hasRemaining = false) :
    c.accept.cursor =
      { c with checkpoint := if c.isLocked then c.checkpoint else .unlocked c.position } := by
  have nothing := nothing_left h used
  have unstaged := nothing_staged h used
  have stays : c.currentText.charPrefix 0 = [] := by rw [Text.charPrefix_eq_take, List.take_zero]
  simp [accept, acceptWith, nothing, unstaged, stays, Position.advanceOver]

theorem consumeWith_used (h : c.Coherent text options) (used : c.hasRemaining = false)
    (length extra : Nat) :
    (c.consumeWith length extra).result = none ∧
      (c.consumeWith length extra).cursor =
        { c with checkpoint := if c.isLocked then c.checkpoint else .unlocked c.position } := by
  rw [consumeWith, peekWith_used used]
  exact ⟨rfl, accept_used h used⟩

theorem Walks.unique (first : c.Walks d v) (other : c.Walks e w) (length : v.length = w.length) :
    v = w ∧ d.position = e.position := by
  have same : v = w := by
    rw [List.prefix_iff_eq_take.mp first.next, List.prefix_iff_eq_take.mp other.next, length]
  exact ⟨same, by rw [first.position, other.position, same]⟩

theorem consume_length (h : c.Coherent text options) (countable : c.remaining ≤ maxCount)
    (n : Nat) : (c.consume n).given.length = min n c.remaining := by
  have walked := (consumeWith_walks h n 0).offset
  have moved := (consumeWith_movesOn h countable n 0).offset
  exact Nat.add_left_cancel (walked.symm.trans moved)

/-- The second read begins where the first ended, so both together give what one read would. -/
theorem consume_consume (h : c.Coherent text options) (countable : c.remaining ≤ maxCount)
    (a b : Nat) :
    (c.consume a).given ++ ((c.consume a).cursor.consume b).given = (c.consume (a + b)).given ∧
      ((c.consume a).cursor.consume b).cursor.position = (c.consume (a + b)).cursor.position := by
  have coherent : (c.consume a).cursor.Coherent text options := consumeWith_coherent h a 0
  have left : (c.consume a).cursor.remaining + min a c.remaining = c.remaining :=
    (consumeWith_movesOn h countable a 0).remaining
  have twice := (consumeWith_walks h a 0).trans (consumeWith_walks coherent b 0) h coherent
  have length : ((c.consume a).given ++ ((c.consume a).cursor.consume b).given).length =
      (c.consume (a + b)).given.length := by
    have first := consume_length h countable a
    have second := consume_length coherent (by omega) b
    have both := consume_length h countable (a + b)
    rw [List.length_append, first, second, both]
    omega
  exact twice.unique (consumeWith_walks h (a + b) 0) length

end Cursor

/-- In every state a peek and a consuming read give the next codepoints, as many as they are asked
for by the unbounded sum, or all that are left. The peek only stages them, the other ends behind
them. Without input they give nothing and stay. Reading twice gives and leaves what reading once
does, asked for both. -/
theorem requests_answered_exactly (text : Text) (options : CursorOptions) (ops : List Operation)
    (countable : text.length ≤ maxCount) :
    let c := runCursor (Cursor.ofText text options) ops
    (c.hasRemaining = true → ∀ length extra,
      ∃ s, c.Ahead (min (length + extra) c.remaining) s ∧
        c.peekWith length extra =
          ⟨some s, { c with pending := min (length + extra) c.remaining }, []⟩ ∧
        c.Consumes s (c.consumeWith length extra)) ∧
    (c.hasRemaining = false → ∀ length extra,
      c.peekWith length extra = ⟨none, c, []⟩ ∧
        (c.consumeWith length extra).result = none ∧
        (c.consumeWith length extra).cursor =
          { c with checkpoint := if c.isLocked then c.checkpoint else .unlocked c.position }) ∧
    ∀ a b,
      (c.consume a).given ++ ((c.consume a).cursor.consume b).given = (c.consume (a + b)).given ∧
        ((c.consume a).cursor.consume b).cursor.position =
          (c.consume (a + b)).cursor.position := by
  intro c
  have coherent := runCursor_coherent (Cursor.ofText_coherent text options) ops
  have few := Cursor.remaining_countable coherent countable
  refine ⟨?_, ?_, ?_⟩
  · intro left length extra
    exact ⟨_, Cursor.charsFrom_ahead coherent (Nat.min_le_right _ _),
      Cursor.peekWith_left few left length extra,
      Cursor.consumeWith_consumes coherent few left length extra⟩
  · intro used length extra
    exact ⟨Cursor.peekWith_used used length extra, Cursor.consumeWith_used coherent used length extra⟩
  · exact Cursor.consume_consume coherent few

theorem rest_of_line_requested :
    let text : Text := ['a', 'é', '\n', 'b']
    let c := runCursor (Cursor.ofText text {}) [.consumeWith 1 0]
    text.length ≤ maxCount ∧ c.hasRemaining = true ∧
      (∃ s, c.Ahead 3 s ∧ c.peekWith maxCount maxCount = ⟨some s, { c with pending := 3 }, []⟩ ∧
        c.Consumes s (c.consumeWith maxCount maxCount)) ∧
      (c.consume 1).given ++ ((c.consume 1).cursor.consume 1).given = ['é', '\n'] := by
  intro text c
  have countable : text.length ≤ maxCount := by decide
  have left : c.hasRemaining = true := by decide
  have all : min (maxCount + maxCount) c.remaining = 3 := by decide
  have both : (c.consume (1 + 1)).given = ['é', '\n'] := by decide
  obtain ⟨given, _, joined⟩ := requests_answered_exactly text {} [.consumeWith 1 0] countable
  have rest := given left maxCount maxCount
  rw [all] at rest
  exact ⟨countable, left, rest, (joined 1 1).1.trans both⟩

end TextCursor
