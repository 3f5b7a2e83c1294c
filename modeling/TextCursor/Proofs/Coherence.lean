import TextCursor.Operation
/-!
A cursor keeps where it stands in four coordinates, and beside them the length of its text and a
snapshot to go back to. `Cursor.Coherent` says how these hang together. Every elementary change
keeps it, so every operation does, and so does every run from a new cursor.
-/
namespace TextCursor

/-- `p` is the position behind the first `p.offset` codepoints of `text`. -/
structure Position.LiesIn (p : Position) (text : Text) : Prop where
  inside : p.offset ≤ text.length
  walked : p = Position.start.advanceOver (text.take p.offset)

/-- A cursor over `text` whose coordinates agree. A snapshot lies before the cursor or where it
stands. -/
structure Cursor.Coherent (text : Text) (options : CursorOptions) (c : Cursor) : Prop where
  buffer : c.text = text
  settings : c.options = options
  total : c.totalChars = c.text.length
  place : c.position.LiesIn c.text
  staged : c.pending ≤ c.remaining
  snapshot : ∀ p, c.checkpoint.snapshot = some p → p.LiesIn c.text ∧ p.offset ≤ c.position.offset

namespace Position

theorem start_lies (text : Text) : start.LiesIn text := ⟨Nat.zero_le _, rfl⟩

theorem byteOffset_lies {p : Position} {text : Text} (h : p.LiesIn text) :
    p.byteOffset = text.byteIndex p.offset := by
  have counted := byteOffset_advanceOver start (text.take p.offset)
  rw [← h.walked, Text.byteLength_take] at counted
  simpa [start] using counted

theorem advance_lies {p : Position} {text : Text} (h : p.LiesIn text) (n : Nat)
    (bound : n ≤ text.length - p.offset) :
    (p.advanceOver ((text.drop p.offset).take n)).LiesIn text := by
  have inside := h.inside
  have offset : (p.advanceOver ((text.drop p.offset).take n)).offset = p.offset + n := by
    rw [offset_advanceOver, List.length_take, List.length_drop]
    omega
  refine ⟨by omega, ?_⟩
  rw [offset, List.take_add, advanceOver_append, ← h.walked]

end Position

namespace Cursor
variable {text : Text} {options : CursorOptions} {c : Cursor}

theorem consumedText_coherent (h : c.Coherent text options) :
    c.consumedText = c.text.take c.position.offset := by
  rw [consumedText, Position.byteOffset_lies h.place, Text.takeBytes_byteIndex]

theorem currentText_coherent (h : c.Coherent text options) :
    c.currentText = c.text.drop c.position.offset := by
  rw [currentText, Position.byteOffset_lies h.place, Text.dropBytes_byteIndex]

theorem remaining_coherent (h : c.Coherent text options) :
    c.remaining = c.currentText.length := by
  rw [remaining, h.total, currentText_coherent h, List.length_drop]

theorem hasRemaining_coherent (h : c.Coherent text options) :
    c.hasRemaining = true ↔ 0 < c.remaining := by
  have inside := h.place.inside
  simp only [hasRemaining, decide_eq_true_eq, remaining, h.total,
    Position.byteOffset_lies h.place]
  constructor
  · intro left
    by_cases atEnd : c.position.offset = c.text.length
    · have whole := Text.byteLength_take c.text c.text.length
      rw [List.take_length, ← atEnd] at whole
      omega
    · omega
  · intro left
    exact Text.byteIndex_lt_byteLength c.text c.position.offset (by omega)

theorem ofText_coherent (text : Text) (options : CursorOptions) :
    (ofText text options).Coherent text options where
  buffer := rfl
  settings := rfl
  total := rfl
  place := Position.start_lies text
  staged := Nat.zero_le _
  snapshot := by intro p held; simp [ofText, Checkpoint.snapshot] at held

theorem stage_coherent (h : c.Coherent text options) (n : Nat) (bound : n ≤ c.remaining) :
    { c with pending := n }.Coherent text options :=
  ⟨h.buffer, h.settings, h.total, h.place, bound, h.snapshot⟩

theorem position_acceptWith (h : c.Coherent text options) (length offset : Nat) :
    ∃ n, n ≤ c.text.length - c.position.offset ∧ (c.acceptWith length offset).cursor.position =
      c.position.advanceOver ((c.text.drop c.position.offset).take n) := by
  refine ⟨min (saturatingAdd (saturatingAdd c.pending length) offset) c.remaining, ?_, ?_⟩
  · rw [remaining, h.total]
    exact Nat.min_le_right _ _
  · simp only [acceptWith, currentText_coherent h, Text.charPrefix_eq_take]

theorem acceptWith_coherent (h : c.Coherent text options) (length offset : Nat) :
    (c.acceptWith length offset).cursor.Coherent text options := by
  obtain ⟨n, bound, walked⟩ := position_acceptWith h length offset
  have forward : c.position.offset ≤ (c.acceptWith length offset).cursor.position.offset := by
    rw [walked, Position.offset_advanceOver]
    exact Nat.le_add_right _ _
  refine ⟨h.buffer, h.settings, h.total, ?_, Nat.zero_le _, ?_⟩
  · rw [walked]
    exact Position.advance_lies h.place n bound
  · intro p held
    by_cases locked : c.isLocked
    · have old : c.checkpoint.snapshot = some p := by simpa [acceptWith, locked] using held
      obtain ⟨lies, before⟩ := h.snapshot p old
      exact ⟨lies, Nat.le_trans before forward⟩
    · have here : c.position = p := by
        simpa [acceptWith, locked, Checkpoint.snapshot] using held
      subst here
      exact ⟨h.place, forward⟩

theorem saveWith_coherent (h : c.Coherent text options) (lock : Bool) :
    (c.saveWith lock).cursor.Coherent text options := by
  by_cases locked : c.isLocked
  · simpa [saveWith, locked] using h
  · refine ⟨?_, ?_, ?_, ?_, ?_, ?_⟩ <;>
      simp only [saveWith, locked, Bool.false_eq_true, ↓reduceIte]
    · exact h.buffer
    · exact h.settings
    · exact h.total
    · exact h.place
    · exact h.staged
    · intro p held
      have here : c.position = p := by cases lock <;> simpa [Checkpoint.snapshot] using held
      subst here
      exact ⟨h.place, Nat.le_refl _⟩

theorem cancel_coherent (h : c.Coherent text options) : c.cancel.cursor.Coherent text options := by
  have nothing : ∀ p, Checkpoint.empty.snapshot ≠ some p := by simp [Checkpoint.snapshot]
  cases held : c.checkpoint.snapshot with
  | none =>
    simp only [cancel, Checkpoint.take, held]
    exact ⟨h.buffer, h.settings, h.total, h.place, Nat.zero_le _, fun p some => absurd some (nothing p)⟩
  | some q =>
    simp only [cancel, Checkpoint.take, held]
    exact ⟨h.buffer, h.settings, h.total, (h.snapshot q held).1, Nat.zero_le _, fun p some => absurd some (nothing p)⟩

theorem reset_coherent (h : c.Coherent text options) : c.reset.cursor.Coherent text options where
  buffer := h.buffer
  settings := h.settings
  total := h.total
  place := Position.start_lies c.text
  staged := Nat.zero_le _
  snapshot := by intro p held; simp [reset, Checkpoint.snapshot] at held

theorem remember_coherent (h : c.Coherent text options) (key : CacheKey) (p : Pattern) :
    (c.remember key p).Coherent text options := by
  unfold remember
  split
  · exact ⟨h.buffer, h.settings, h.total, h.place, h.staged, h.snapshot⟩
  · exact h

theorem peekWith_coherent (h : c.Coherent text options) (length extra : Nat) :
    (c.peekWith length extra).cursor.Coherent text options := by
  unfold peekWith
  split
  · exact stage_coherent h _ (Nat.min_le_right _ _)
  · exact h

theorem consumeWith_coherent (h : c.Coherent text options) (length extra : Nat) :
    (c.consumeWith length extra).cursor.Coherent text options :=
  acceptWith_coherent (peekWith_coherent h length extra) 0 0

theorem chunksFuel_coherent (test : ChunkTest) (size : Nat) (fuel : Nat) (seen : List Text)
    (h : c.Coherent text options) : (chunksFuel test size fuel seen c).cursor.Coherent text options := by
  induction fuel generalizing seen c with
  | zero => exact h
  | succ fuel ih =>
    have peeked := peekWith_coherent h size 0
    simp only [chunksFuel]
    split
    · exact peeked
    · split
      · exact ih _ (acceptWith_coherent peeked 0 0)
      · exact peeked

theorem peekWhileChunked_coherent (h : c.Coherent text options) (test : ChunkTest) (size : Nat) :
    (c.peekWhileChunked test size).cursor.Coherent text options := by
  unfold peekWhileChunked
  split
  · exact h
  · exact chunksFuel_coherent test size _ [] h

theorem byteOffset_add_byteIndex (h : c.Coherent text options) (n : Nat) :
    c.position.byteOffset + Text.byteIndex c.currentText n =
      c.text.byteIndex (c.position.offset + n) := by
  rw [currentText_coherent h, Position.byteOffset_lies h.place, Text.byteIndex_add_drop]

theorem text_groupAt (h : c.Coherent text options) (capture : CaptureMode)
    (span : Pattern.CharSpan) :
    (Pattern.groupAt c.text c.position.byteOffset capture span).slice.text =
      (c.currentText.drop span.start).take (span.stop - span.start) := by
  have count : c.position.offset + span.stop - (c.position.offset + span.start) =
      span.stop - span.start := by omega
  change Text.takeBytes (c.text.dropBytes (c.position.byteOffset +
    Text.byteIndex c.currentText span.start)) (c.position.byteOffset +
    Text.byteIndex c.currentText span.stop - (c.position.byteOffset +
    Text.byteIndex c.currentText span.start)) = _
  rw [byteOffset_add_byteIndex h, byteOffset_add_byteIndex h, Text.takeBytes_dropBytes_byteIndex,
    count, currentText_coherent h, List.drop_drop]

theorem whole_matchAt {p : Pattern} {buffer : Text} {start : Nat} {capture : CaptureMode}
    {m : MatchOutcome} (found : p.matchAt? buffer start capture = some m) :
    ∃ spans span, p.find? (buffer.dropBytes start) = some spans ∧
      spans.head? = some (some span) ∧ m.whole = Pattern.groupAt buffer start capture span := by
  simp only [Pattern.matchAt?, Option.bind_eq_bind, Option.bind_eq_some_iff] at found
  obtain ⟨spans, search, whole, head, made⟩ := found
  cases Option.some.inj made
  cases spans with
  | nil => simp at head
  | cons first others =>
    cases first with
    | none => simp at head
    | some span => exact ⟨_, span, search, rfl, by simpa using head.symm⟩

theorem charLength_matchAt (h : c.Coherent text options) {p : Pattern} {capture : CaptureMode}
    {m : MatchOutcome}
    (found : p.matchAt? c.text c.position.byteOffset capture = some m) :
    m.charLength ≤ c.remaining := by
  obtain ⟨_, span, _, _, whole⟩ := whole_matchAt found
  rw [MatchOutcome.charLength, Slice.charLength, whole, text_groupAt h, remaining_coherent h,
    List.length_take, List.length_drop]
  omega

theorem matchCompiled_coherent (h : c.Coherent text options) (p : Pattern)
    (how : MatchOptions) : (c.matchCompiled p how).cursor.Coherent text options := by
  unfold matchCompiled
  split
  · exact h
  · rename_i m found
    have staged := stage_coherent h m.charLength (charLength_matchAt h found)
    split
    · exact acceptWith_coherent staged 0 0
    · exact staged

theorem matchKey_coherent (h : c.Coherent text options) (key : CacheKey)
    (how : MatchOptions) : (c.matchKey key how).cursor.Coherent text options := by
  unfold matchKey
  split
  · exact matchCompiled_coherent h _ how
  · split
    · exact h
    · exact remember_coherent (matchCompiled_coherent h _ how) key _

theorem matchWith_coherent (h : c.Coherent text options) (source flags : Text)
    (how : MatchOptions) : (c.matchWith source flags how).cursor.Coherent text options := by
  unfold matchWith
  split
  · exact h
  · exact matchKey_coherent h _ how

end Cursor

variable {text : Text} {options : CursorOptions}

theorem run_coherent {c : Cursor} (h : c.Coherent text options) (op : Operation) :
    (op.run c).cursor.Coherent text options := by
  cases op with
  | peekWith length extra => exact Cursor.peekWith_coherent h length extra
  | consumeWith length extra => exact Cursor.consumeWith_coherent h length extra
  | peekWhileChunked test size => exact Cursor.peekWhileChunked_coherent h test size
  | acceptWith length offset => exact Cursor.acceptWith_coherent h length offset
  | saveWith lock => exact Cursor.saveWith_coherent h lock
  | cancel => exact Cursor.cancel_coherent h
  | reset => exact Cursor.reset_coherent h
  | matchPattern source flags => exact Cursor.matchWith_coherent h source flags _
  | matchWith source flags how => exact Cursor.matchWith_coherent h source flags how
  | matchCompiled pattern how => exact Cursor.matchCompiled_coherent h pattern how

structure Cursor.Consistent (original : Text) (c : Cursor) : Prop where
  text : c.text = original
  boundary : original.isBoundary c.position.byteOffset = true
  inside : c.position.byteOffset ≤ original.byteLength
  split : c.consumedText ++ c.currentText = original
  position : c.position = Position.start.advanceOver c.consumedText
  no_underflow : c.position.offset ≤ c.totalChars
  remaining : c.remaining = c.currentText.length
  hasRemaining : c.hasRemaining = true ↔ 0 < c.remaining
  snapshot : ∀ p, c.checkpoint.snapshot = some p →
    ∃ walked, walked <+: original ∧ p = Position.start.advanceOver walked ∧
      walked <+: c.consumedText ∧ p.offset ≤ c.position.offset ∧
      p.byteOffset ≤ c.position.byteOffset

theorem coherent_consistent {c : Cursor} (h : c.Coherent text options) : c.Consistent text where
  text := h.buffer
  boundary := by
    rw [Position.byteOffset_lies h.place, h.buffer]
    exact Text.isBoundary_byteIndex _ _
  inside := by
    rw [Position.byteOffset_lies h.place, h.buffer]
    exact Text.byteIndex_le_byteLength _ _
  split := by
    rw [← h.buffer]
    exact Text.takeBytes_append_dropBytes c.text c.position.byteOffset
  position := by
    rw [Cursor.consumedText_coherent h]
    exact h.place.walked
  no_underflow := by
    rw [h.total]
    exact h.place.inside
  remaining := Cursor.remaining_coherent h
  hasRemaining := Cursor.hasRemaining_coherent h
  snapshot := by
    intro p held
    obtain ⟨lies, before⟩ := h.snapshot p held
    have shorter : c.text.take p.offset <+: c.text.take c.position.offset := by
      rw [List.prefix_take_iff, List.length_take]
      exact ⟨List.take_prefix _ _, by omega⟩
    refine ⟨c.text.take p.offset, ?_, lies.walked, ?_, before, ?_⟩
    · rw [← h.buffer]
      exact List.take_prefix _ _
    · rwa [Cursor.consumedText_coherent h]
    · obtain ⟨k, later⟩ := Nat.exists_eq_add_of_le before
      rw [Position.byteOffset_lies lies, Position.byteOffset_lies h.place, later,
        Text.byteIndex_add_drop]
      exact Nat.le_add_right _ _

theorem runCursor_coherent {c : Cursor} (h : c.Coherent text options) (ops : List Operation) :
    (runCursor c ops).Coherent text options := by
  induction ops generalizing c with
  | nil => exact h
  | cons op rest ih => exact ih (run_coherent h op)

/-- Whatever is done with a new cursor, its coordinates stay in step with the text it consumed. -/
theorem every_run_consistent (text : Text) (options : CursorOptions) (ops : List Operation) :
    (runCursor (Cursor.ofText text options) ops).Consistent text :=
  coherent_consistent (runCursor_coherent (Cursor.ofText_coherent text options) ops)

end TextCursor
