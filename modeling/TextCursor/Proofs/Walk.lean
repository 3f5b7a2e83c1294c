import TextCursor.Proofs.MatchStart
/-!
How far operations move a cursor. A cursor walks over a text if that text comes next and the cursor
ends up behind it; then what was consumed grows by the text, and what is left begins behind it. A
commit walks over as many codepoints as are staged and asked for, or over all that are left. Counts
stop at a limit, but no text in memory has more codepoints than that, so no commit falls short.
-/
namespace TextCursor

namespace Cursor

/-- `d` is `c` behind the text `walked`, which came next. -/
structure Walks (c d : Cursor) (walked : Text) : Prop where
  text : d.text = c.text
  next : walked <+: c.currentText
  position : d.position = c.position.advanceOver walked

variable {text : Text} {options : CursorOptions} {c d e : Cursor} {v w : Text}

theorem Walks.stay (text : d.text = c.text) (position : d.position = c.position) :
    c.Walks d [] where
  text := text
  next := List.nil_prefix
  position := position

theorem Walks.offset (walk : c.Walks d w) :
    d.position.offset = c.position.offset + w.length := by
  rw [walk.position, Position.offset_advanceOver]

theorem Walks.consumedText (walk : c.Walks d w) (hc : c.Coherent text options)
    (hd : d.Coherent text options) : d.consumedText = c.consumedText ++ w := by
  have next := walk.next
  rw [currentText_coherent hc, List.prefix_iff_eq_take] at next
  rw [consumedText_coherent hd, consumedText_coherent hc, walk.text, walk.offset, List.take_add,
    ← next]

theorem Walks.currentText (walk : c.Walks d w) (hc : c.Coherent text options)
    (hd : d.Coherent text options) : c.currentText = w ++ d.currentText := by
  obtain ⟨rest, split⟩ := walk.next
  have left : d.currentText = c.currentText.drop w.length := by
    rw [currentText_coherent hd, currentText_coherent hc, walk.text, walk.offset, List.drop_drop]
  rw [left, ← split, List.drop_left]

theorem Walks.trans (first : c.Walks d w) (second : d.Walks e v) (hc : c.Coherent text options)
    (hd : d.Coherent text options) : c.Walks e (w ++ v) := by
  constructor
  · exact second.text.trans first.text
  · rw [first.currentText hc hd, List.prefix_append_right_inj]
    exact second.next
  · rw [second.position, first.position, Position.advanceOver_append]

/-- `d` is `c` moved on by `n` codepoints, all of them left at `c`, with nothing staged. -/
structure MovesOn (c d : Cursor) (n : Nat) : Prop where
  enough : n ≤ c.remaining
  walks : c.Walks d (c.currentText.take n)
  offset : d.position.offset = c.position.offset + n
  remaining : d.remaining + n = c.remaining
  unstaged : d.pending = 0

theorem acceptWith_walks (c : Cursor) (length offset : Nat) :
    c.Walks (c.acceptWith length offset).cursor
      (c.currentText.take
        (min (saturatingAdd (saturatingAdd c.pending length) offset) c.remaining)) where
  text := rfl
  next := List.take_prefix _ _
  position := by rw [← Text.charPrefix_eq_take]; rfl

theorem acceptWith_movesOn (h : c.Coherent text options) (countable : c.remaining ≤ maxCount)
    (length offset : Nat) :
    c.MovesOn (c.acceptWith length offset).cursor
      (min (c.pending + length + offset) c.remaining) := by
  have walk := acceptWith_walks c length offset
  rw [min_saturatingAdd_add _ _ _ countable] at walk
  have enough : min (c.pending + length + offset) c.remaining ≤ c.remaining := Nat.min_le_right _ _
  have moved := walk.offset
  rw [List.length_take, ← remaining_coherent h, Nat.min_eq_left enough] at moved
  constructor
  · exact enough
  · exact walk
  · exact moved
  · have total : (c.acceptWith length offset).cursor.totalChars = c.totalChars := rfl
    simp only [remaining, total] at moved enough ⊢
    omega
  · rfl

theorem accept_movesOn (h : c.Coherent text options) (countable : c.remaining ≤ maxCount) :
    c.MovesOn c.accept.cursor c.pending := by
  have moved : c.MovesOn c.accept.cursor (min c.pending c.remaining) :=
    acceptWith_movesOn h countable 0 0
  rwa [Nat.min_eq_left h.staged] at moved

theorem remaining_countable (h : c.Coherent text options) (countable : text.length ≤ maxCount) :
    c.remaining ≤ maxCount := by
  rw [remaining, h.total, h.buffer]
  omega

theorem peekWith_walks (c : Cursor) (length extra : Nat) :
    c.Walks (c.peekWith length extra).cursor [] := by
  unfold peekWith
  split
  · exact Walks.stay rfl rfl
  · exact Walks.stay rfl rfl

theorem nothing_left (h : c.Coherent text options) (used : c.hasRemaining = false) :
    c.remaining = 0 := by
  have left := hasRemaining_coherent h
  simpa [used] using left

theorem nothing_staged (h : c.Coherent text options) (used : c.hasRemaining = false) :
    c.pending = 0 := by
  have nothing := nothing_left h used
  have staged := h.staged
  omega

theorem MovesOn.unstaged_start {n m : Nat} (moved : { c with pending := n }.MovesOn d m) :
    c.MovesOn d m :=
  ⟨moved.enough, ⟨moved.walks.text, moved.walks.next, moved.walks.position⟩, moved.offset,
    moved.remaining, moved.unstaged⟩

theorem peekWith_left (countable : c.remaining ≤ maxCount) (left : c.hasRemaining = true)
    (length extra : Nat) :
    c.peekWith length extra =
      ⟨some (.charsFrom c.text c.position.byteOffset (min (length + extra) c.remaining)),
        { c with pending := min (length + extra) c.remaining }, []⟩ := by
  simp [peekWith, left, min_saturatingAdd_min _ _ countable]

theorem peekWith_used (used : c.hasRemaining = false) (length extra : Nat) :
    c.peekWith length extra = ⟨none, c, []⟩ := by
  simp [peekWith, used]

theorem consumeWith_movesOn (h : c.Coherent text options) (countable : c.remaining ≤ maxCount)
    (length extra : Nat) :
    c.MovesOn (c.consumeWith length extra).cursor (min (length + extra) c.remaining) := by
  change c.MovesOn (c.peekWith length extra).cursor.accept.cursor _
  cases left : c.hasRemaining with
  | true =>
    have staged : (c.peekWith length extra).cursor =
        { c with pending := min (length + extra) c.remaining } := by
      rw [peekWith_left countable left]
    have coherent := stage_coherent h _ (Nat.min_le_right (length + extra) c.remaining)
    rw [staged]
    exact (accept_movesOn coherent countable).unstaged_start
  | false =>
    have moved := accept_movesOn h countable
    rw [nothing_staged h left] at moved
    rw [peekWith_used left, nothing_left h left, Nat.min_zero]
    exact moved

theorem saveWith_walks (c : Cursor) (lock : Bool) : c.Walks (c.saveWith lock).cursor [] := by
  unfold saveWith
  split
  · exact Walks.stay rfl rfl
  · exact Walks.stay rfl rfl

end Cursor

/-- In every state no more is staged than is left. So a bare commit moves on by exactly what is
staged, and any other by the unbounded sum of what is staged and asked for, or to the end of the
text. -/
theorem commits_move_exactly (text : Text) (options : CursorOptions) (ops : List Operation) :
    let c := runCursor (Cursor.ofText text options) ops
    c.pending ≤ c.remaining ∧
      (text.length ≤ maxCount →
        c.MovesOn c.accept.cursor c.pending ∧
          ∀ length offset, c.MovesOn (c.acceptWith length offset).cursor
            (min (c.pending + length + offset) c.remaining)) := by
  intro c
  have coherent := runCursor_coherent (Cursor.ofText_coherent text options) ops
  constructor
  · exact coherent.staged
  · intro countable
    have left := Cursor.remaining_countable coherent countable
    exact ⟨Cursor.accept_movesOn coherent left, Cursor.acceptWith_movesOn coherent left⟩

theorem staged_codepoint_committed :
    4 ≤ maxCount ∧
      let c := runCursor (Cursor.ofText ['a', 'é', '\n', 'b'] {})
        [.consumeWith 1 0, .peekWith 1 0]
      c.MovesOn c.accept.cursor 1 ∧ c.MovesOn (c.acceptWith maxCount maxCount).cursor 3 := by
  have countable : (['a', 'é', '\n', 'b'] : Text).length ≤ maxCount := by decide
  constructor
  · exact countable
  · intro c
    have staged : c.pending = 1 := by decide
    have all : min (c.pending + maxCount + maxCount) c.remaining = 3 := by decide
    obtain ⟨bare, asked⟩ := (commits_move_exactly ['a', 'é', '\n', 'b'] {}
      [.consumeWith 1 0, .peekWith 1 0]).2 countable
    constructor
    · rw [← staged]
      exact bare
    · rw [← all]
      exact asked maxCount maxCount

end TextCursor
