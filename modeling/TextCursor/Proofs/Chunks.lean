import TextCursor.Proofs.Conservation
/-!
Consuming chunks while a test accepts them. The remaining text is cut into chunks of one length, and
the test is given one after the other until it refuses one. The loop gives it those chunks and no
others, consumes those it accepts and leaves the one it refuses staged; and it ends, since each
round but the last consumes a codepoint at least.
-/
namespace TextCursor

def Text.chunksOf (size : Nat) (text : Text) : List Text :=
  (List.range ((text.length + size - 1) / size)).map fun i => (text.drop (i * size)).take size

namespace Text

theorem chunksOf_nil (size : Nat) : chunksOf size [] = [] := by
  simp only [chunksOf, List.length_nil, List.map_eq_nil_iff, List.range_eq_nil,
    Nat.div_eq_zero_iff]
  omega

theorem chunksOf_cons {size : Nat} (positive : 0 < size) {text : Text} (left : text ≠ []) :
    chunksOf size text = text.take size :: chunksOf size (text.drop size) := by
  have length := List.length_pos_iff.mpr left
  -- the number of chunks is rounded up: a whole chunk less is one chunk less
  have count : (text.length + size - 1) / size =
      ((text.drop size).length + size - 1) / size + 1 := by
    rw [List.length_drop]
    by_cases long : size ≤ text.length
    · rw [← Nat.add_div_right _ positive]
      congr 1
      omega
    · rw [Nat.div_eq_of_lt (by omega : text.length - size + size - 1 < size)]
      exact Nat.div_eq_of_lt_le (by omega) (by omega)
  simp only [chunksOf]
  rw [count, List.range_succ_eq_map, List.map_cons, List.map_map, Nat.zero_mul, List.drop_zero]
  congr 1
  apply List.map_congr_left
  intro i _
  simp only [Function.comp_apply, List.drop_drop, Nat.succ_mul, Nat.add_comm]

theorem flatten_chunksOf {size : Nat} (positive : 0 < size) (text : Text) :
    (chunksOf size text).flatten = text := by
  induction length : text.length using Nat.strongRecOn generalizing text with
  | ind n ih =>
    by_cases empty : text = []
    · rw [empty, chunksOf_nil, List.flatten_nil]
    · have shorter : (text.drop size).length < n := by
        have := List.length_pos_iff.mpr empty
        rw [List.length_drop]
        omega
      rw [chunksOf_cons positive empty, List.flatten_cons, ih _ shorter _ rfl,
        List.take_append_drop]

end Text

/-- How many chunks a test accepts that is given them in order, until it refuses one; `seen` are
those it was given before. -/
def acceptedCount (test : Cursor.ChunkTest) (seen : List Text) : List Text → Nat
  | [] => 0
  | chunk :: rest =>
    if test seen chunk then acceptedCount test (seen ++ [chunk]) rest + 1 else 0

namespace Cursor
variable {text : Text} {options : CursorOptions} {c : Cursor}

/-- The cursor behind the first `k` of the chunks, with the next one staged, if there is one. The
last commit was at the start of the last of the `k` chunks. -/
def behindChunks (c : Cursor) (chunks : List Text) (k : Nat) : Cursor :=
  { c with
    position := c.position.advanceOver (chunks.take k).flatten
    pending := (chunks[k]?.getD []).length
    checkpoint :=
      if c.isLocked ∨ k = 0 then c.checkpoint
      else .unlocked (c.position.advanceOver (chunks.take (k - 1)).flatten) }

theorem behindChunks_nil (h : c.Coherent text options) (used : c.remaining = 0) :
    c.behindChunks [] 0 = c := by
  have unstaged : c.pending = 0 := by
    have staged := h.staged
    omega
  simp [behindChunks, Position.advanceOver, ← unstaged]

theorem peek_chunk (h : c.Coherent text options) (countable : c.remaining ≤ maxCount) {size : Nat}
    {s : Slice} (peeked : (c.peek size).result = some s) :
    s.text = c.currentText.take size ∧
      (c.peek size).cursor = { c with pending := s.text.length } ∧ 0 < c.remaining := by
  cases left : c.hasRemaining with
  | false => simp [peek, peekWith, left] at peeked
  | true =>
    have count := remaining_coherent h
    rw [peek, peekWith_left countable left] at peeked ⊢
    cases peeked
    have chunk : (Slice.charsFrom c.text c.position.byteOffset
        (min (size + 0) c.remaining)).text = c.currentText.take size := by
      rw [Slice.text_charsFrom, count, Nat.add_zero]
      exact List.take_eq_take_min.symm
    refine ⟨chunk, ?_, (hasRemaining_coherent h).mp left⟩
    rw [chunk, List.length_take, ← count]
    rfl

theorem consume_chunk {size : Nat} {s : Slice} (peeked : (c.peek size).result = some s) :
    (c.consume size).cursor =
      { c with
        position := c.position.advanceOver s.text
        pending := 0
        checkpoint := if c.isLocked then c.checkpoint else .unlocked c.position } := by
  have place := position_accept_peek c size 0 peeked
  obtain ⟨n, staged⟩ : ∃ n, (c.peekWith size 0).cursor = { c with pending := n } := by
    unfold peekWith
    split
    · exact ⟨_, rfl⟩
    · exact ⟨c.pending, rfl⟩
  change (c.peekWith size 0).cursor.accept.cursor = _
  rw [staged] at place ⊢
  rw [← place]
  rfl

theorem behindChunks_cons (chunk : Text) (chunks : List Text) (k : Nat) :
    behindChunks
        { c with
          position := c.position.advanceOver chunk
          pending := 0
          checkpoint := if c.isLocked then c.checkpoint else .unlocked c.position } chunks k =
      c.behindChunks (chunk :: chunks) (k + 1) := by
  cases slot : c.checkpoint <;> cases k <;>
    simp [behindChunks, isLocked, Checkpoint.isLocked, slot, Position.advanceOver]

theorem consume_ahead (h : c.Coherent text options) (countable : c.remaining ≤ maxCount)
    {size : Nat} (positive : 0 < size) {s : Slice} (peeked : (c.peek size).result = some s) :
    c.currentText.chunksOf size = s.text :: (c.consume size).cursor.currentText.chunksOf size ∧
      (c.consume size).cursor.remaining < c.remaining := by
  obtain ⟨chunk, _, left⟩ := peek_chunk h countable peeked
  have consumed := consumeWith_coherent h size 0
  have ahead : c.currentText = s.text ++ (c.consume size).cursor.currentText :=
    (consumeWith_over peeked).currentText h consumed
  have count := remaining_coherent h
  have count' : (c.consume size).cursor.remaining = _ := remaining_coherent consumed
  have nonempty : c.currentText ≠ [] := by
    rw [← List.length_pos_iff, ← count]
    exact left
  have taken : s.text.length = min size c.currentText.length := by rw [chunk, List.length_take]
  have lengths := congrArg List.length ahead
  rw [List.length_append] at lengths
  constructor
  · have rest : c.currentText.drop size = (c.consume size).cursor.currentText := by
      have split := List.take_append_drop size c.currentText
      rw [← chunk] at split
      exact List.append_cancel_left (split.trans ahead)
    rw [Text.chunksOf_cons positive nonempty, ← chunk, rest]
  · rw [count', count]
    omega

theorem chunksFuel_chunks (h : c.Coherent text options) (countable : text.length ≤ maxCount)
    (test : ChunkTest) {size fuel : Nat} (positive : 0 < size) (enough : c.remaining < fuel)
    (seen : List Text) {chunks : List Text} (cut : chunks = c.currentText.chunksOf size) {k : Nat}
    (accepted : k = acceptedCount test seen chunks) :
    (chunksFuel test size fuel seen c).result =
        ⟨(chunks.take k).flatten, seen ++ chunks.take (k + 1)⟩ ∧
      (chunksFuel test size fuel seen c).cursor = c.behindChunks chunks k := by
  -- what is behind the first chunk is again cut into chunks, for a cursor with less to read
  induction fuel generalizing seen c chunks k with
  | zero => omega
  | succ fuel ih =>
    have countable' := remaining_countable h countable
    cases peeked : (c.peek size).result with
    | none =>
      obtain ⟨used, unmoved⟩ := peekWith_nothing peeked
      have nothing := nothing_left h used
      have count := remaining_coherent h
      rw [nothing] at count
      have empty : c.currentText = [] := List.eq_nil_of_length_eq_zero count.symm
      rw [empty, Text.chunksOf_nil] at cut
      subst cut accepted
      rw [chunksFuel_none peeked]
      exact ⟨by simp, unmoved.trans (behindChunks_nil h nothing).symm⟩
    | some s =>
      obtain ⟨others, fewer⟩ := consume_ahead h countable' positive peeked
      rw [others] at cut
      cases fits : test seen s.text with
      | false =>
        have refused : k = 0 := by simp [accepted, cut, acceptedCount, fits]
        have staged := (peek_chunk h countable' peeked).2.1
        rw [chunksFuel_rejected peeked fits, refused, cut]
        simp [staged, behindChunks, Position.advanceOver]
      | true =>
        have one_more : k = acceptedCount test (seen ++ [s.text])
            ((c.consume size).cursor.currentText.chunksOf size) + 1 := by
          simp [accepted, cut, acceptedCount, fits]
        have consumed : (c.consume size).cursor.Coherent text options :=
          consumeWith_coherent h size 0
        obtain ⟨result, cursor⟩ := ih consumed (by omega) (seen ++ [s.text]) rfl rfl
        rw [chunksFuel_accepted peeked fits, one_more, cut, ← behindChunks_cons,
          ← consume_chunk peeked]
        constructor
        · simp only [result, List.take_succ_cons, List.flatten_cons, List.append_assoc,
            List.singleton_append]
        · exact cursor

/-- More rounds than there are codepoints make no difference: the loop ends before. -/
theorem chunksFuel_ends (h : c.Coherent text options) (countable : text.length ≤ maxCount)
    (test : ChunkTest) {size fuel fuel' : Nat} (positive : 0 < size) (enough : c.remaining < fuel)
    (enough' : c.remaining < fuel') (seen : List Text) :
    chunksFuel test size fuel seen c = chunksFuel test size fuel' seen c := by
  induction fuel generalizing seen c fuel' with
  | zero => omega
  | succ fuel ih =>
    obtain ⟨fuel', rfl⟩ := Nat.exists_eq_add_one_of_ne_zero (Nat.ne_zero_of_lt enough')
    cases peeked : (c.peek size).result with
    | none => rw [chunksFuel_none peeked, chunksFuel_none peeked]
    | some s =>
      cases fits : test seen s.text with
      | false => rw [chunksFuel_rejected peeked fits, chunksFuel_rejected peeked fits]
      | true =>
        have consumed : (c.consume size).cursor.Coherent text options :=
          consumeWith_coherent h size 0
        have fewer := (consume_ahead h (remaining_countable h countable) positive peeked).2
        have few : (c.consume size).cursor.remaining < fuel := by omega
        have few' : (c.consume size).cursor.remaining < fuel' := by omega
        rw [chunksFuel_accepted peeked fits, chunksFuel_accepted peeked fits]
        simp only [ih consumed few few' (seen ++ [s.text])]

end Cursor

/-- A test is given the chunks of the remaining text in order, each once, up to the first that it
refuses. Those before that one are given back and consumed one by one, and that one stays staged.
With chunks of no length nothing is done. -/
theorem accepted_chunks_consumed (text : Text) (options : CursorOptions) (ops : List Operation)
    (countable : text.length ≤ maxCount) (test : Cursor.ChunkTest) (size : Nat) :
    let c := runCursor (Cursor.ofText text options) ops
    let chunks := c.currentText.chunksOf size
    let k := acceptedCount test [] chunks
    let e := c.peekWhileChunked test size
    (0 < size →
      chunks.flatten = c.currentText ∧
      (∀ rounds, c.remaining < rounds → Cursor.chunksFuel test size rounds [] c = e) ∧
      e.result.seen = chunks.take (min (k + 1) chunks.length) ∧
      e.result.text = (chunks.take k).flatten ∧
      e.cursor =
        { c with
          position := c.position.advanceOver (chunks.take k).flatten
          pending := (chunks[k]?.getD []).length
          checkpoint :=
            if c.isLocked ∨ k = 0 then c.checkpoint
            else .unlocked (c.position.advanceOver (chunks.take (k - 1)).flatten) }) ∧
    (size = 0 → e = ⟨⟨[], []⟩, c, []⟩) := by
  intro c chunks k e
  have coherent := runCursor_coherent (Cursor.ofText_coherent text options) ops
  constructor
  · intro positive
    have loop : e = Cursor.chunksFuel test size (c.remaining + 1) [] c :=
      if_neg (Nat.ne_of_gt positive)
    have cut : chunks = c.currentText.chunksOf size := rfl
    have accepted : k = acceptedCount test [] chunks := rfl
    obtain ⟨result, cursor⟩ := Cursor.chunksFuel_chunks coherent countable test positive
      (Nat.lt_succ_self c.remaining) [] cut accepted
    rw [← loop] at result cursor
    refine ⟨Text.flatten_chunksOf positive c.currentText, ?_, ?_, ?_, cursor⟩
    · intro rounds enough
      rw [loop]
      exact Cursor.chunksFuel_ends coherent countable test positive enough
        (Nat.lt_succ_self c.remaining) []
    · rw [result, ← List.take_eq_take_min]
      rfl
    · rw [result]
  · intro none_asked
    exact if_pos none_asked

theorem third_chunk_refused :
    let text : Text := ['a', 'é', '\n', 'b', 'c', 'd', 'e']
    let c := runCursor (Cursor.ofText text {}) [.consumeWith 1 0]
    let e := c.peekWhileChunked (fun seen _ => seen.length < 2) 2
    text.length ≤ maxCount ∧ 0 < 2 ∧ e.result.seen = [['é', '\n'], ['b', 'c'], ['d', 'e']] ∧
      e.result.text = ['é', '\n', 'b', 'c'] ∧ e.cursor.pending = 2 ∧
      e.cursor.checkpoint = .unlocked ⟨2, 1, 3, 4⟩ := by
  intro text c e
  have countable : text.length ≤ maxCount := by decide
  have positive : 0 < 2 := by decide
  obtain ⟨_, _, seen, given, cursor⟩ := (accepted_chunks_consumed text {} [.consumeWith 1 0]
    countable (fun seen _ => seen.length < 2) 2).1 positive
  refine ⟨countable, positive, ?_, ?_, ?_, ?_⟩
  · rw [seen]
    decide +kernel
  · rw [given]
    decide +kernel
  · rw [cursor]
    decide +kernel
  · rw [cursor]
    decide +kernel

end TextCursor
