import TextCursor.Proofs.History
import TextCursor.Proofs.Walk
/-!
Reading loses no text and gives none twice. Operations that read hand out, in some form or other,
the text that they move a cursor over: a slice, accepted chunks, the whole of a committed match. So
along a run that only reads, what was handed out is what was consumed. Whatever was staged before,
by a peek, a failing chunk or a match, a commit of one of them takes only what it hands out itself.
Texts that fit in memory are meant, which are no longer than counts go.
-/
namespace TextCursor

def Operation.isReading : Operation → Bool
  | acceptWith _ _ => false
  | cancel => false
  | reset => false
  | _ => true

def matchTaken (commit : Bool) : Answer → Text
  | .outcome (some m) => if commit then m.text else []
  | _ => []

def Operation.taken : Operation → Answer → Text
  | consumeWith _ _, .slice s => s.elim [] Slice.text
  | peekWhileChunked _ _, .chunks c => c.text
  | matchPattern _ _, answer => matchTaken true answer
  | matchWith _ _ how, answer => matchTaken how.commit answer
  | matchCompiled _ how, answer => matchTaken how.commit answer
  | _, _ => []

def takenAll (c : Cursor) : List Operation → Text
  | [] => []
  | op :: rest => op.taken (op.run c).result ++ takenAll (op.run c).cursor rest

namespace Cursor
variable {text : Text} {options : CursorOptions} {c : Cursor}

theorem text_peekWith (c : Cursor) (length extra : Nat) {s : Slice}
    (peeked : (c.peekWith length extra).result = some s) : s.text <+: c.currentText := by
  unfold peekWith at peeked
  split at peeked
  · cases peeked
    rw [Slice.text_charsFrom]
    exact List.take_prefix _ _
  · cases peeked

theorem peekWith_nothing {length extra : Nat} (peeked : (c.peekWith length extra).result = none) :
    c.hasRemaining = false ∧ (c.peekWith length extra).cursor = c := by
  unfold peekWith at *
  split at peeked
  · cases peeked
  · rename_i used
    exact ⟨Bool.eq_false_iff.mpr used, by rw [if_neg used]⟩

theorem consumeWith_over {length extra : Nat} {s : Slice}
    (peeked : (c.peekWith length extra).result = some s) :
    c.Walks (c.consumeWith length extra).cursor s.text where
  text := (peekWith_walks c length extra).text
  next := text_peekWith c length extra peeked
  position := position_accept_peek c length extra peeked

theorem consumeWith_walks (h : c.Coherent text options) (length extra : Nat) :
    c.Walks (c.consumeWith length extra).cursor
      ((c.consumeWith length extra).result.elim [] Slice.text) := by
  change c.Walks (c.consumeWith length extra).cursor
    ((c.peekWith length extra).result.elim [] Slice.text)
  cases peeked : (c.peekWith length extra).result with
  | some s => exact consumeWith_over peeked
  | none =>
    obtain ⟨still, same⟩ := peekWith_nothing peeked
    have nothing := nothing_left h still
    have walk := acceptWith_walks c 0 0
    rw [nothing, Nat.min_zero, List.take_zero] at walk
    change c.Walks (c.peekWith length extra).cursor.accept.cursor _
    rw [same]
    exact walk

theorem chunksFuel_walks (test : ChunkTest) (size fuel : Nat) (seen : List Text)
    (h : c.Coherent text options) :
    c.Walks (chunksFuel test size fuel seen c).cursor
      (chunksFuel test size fuel seen c).result.text := by
  induction fuel generalizing seen c with
  | zero => exact Walks.stay rfl rfl
  | succ fuel ih =>
    cases peeked : (c.peek size).result with
    | none =>
      rw [chunksFuel_none peeked]
      exact peekWith_walks c size 0
    | some s =>
      cases fits : test seen s.text with
      | false =>
        rw [chunksFuel_rejected peeked fits]
        exact peekWith_walks c size 0
      | true =>
        have consumed := consumeWith_coherent h size 0
        rw [chunksFuel_accepted peeked fits]
        exact (consumeWith_over peeked).trans (ih _ consumed) h consumed

theorem peekWhileChunked_walks (h : c.Coherent text options) (test : ChunkTest) (size : Nat) :
    c.Walks (c.peekWhileChunked test size).cursor (c.peekWhileChunked test size).result.text := by
  unfold peekWhileChunked
  split
  · exact Walks.stay rfl rfl
  · exact chunksFuel_walks test size _ [] h

theorem matchCompiled_walks (h : c.Coherent text options) (countable : c.remaining ≤ maxCount)
    (p : Pattern) (how : MatchOptions) :
    c.Walks (c.matchCompiled p how).cursor
      (matchTaken how.commit (.outcome (c.matchCompiled p how).result)) := by
  unfold matchCompiled
  split
  · exact Walks.stay rfl rfl
  · rename_i m found
    have staged := stage_coherent h m.charLength (charLength_matchAt h found)
    cases commit : how.commit with
    | false => exact Walks.stay rfl rfl
    | true =>
      have walk := (accept_movesOn staged countable).walks
      have whole : c.currentText.take m.charLength = m.text :=
        (List.prefix_iff_eq_take.mp (matchAt_beginsHere h found).2).symm
      constructor
      · exact walk.text
      · exact (matchAt_beginsHere h found).2
      · exact walk.position.trans (congrArg c.position.advanceOver whole)

theorem remember_walks {d : Cursor} {w : Text} (walk : c.Walks d w) (key : CacheKey)
    (p : Pattern) : c.Walks (d.remember key p) w := by
  unfold remember
  split
  · exact ⟨walk.text, walk.next, walk.position⟩
  · exact walk

theorem matchKey_walks (h : c.Coherent text options) (countable : c.remaining ≤ maxCount)
    (key : CacheKey) (how : MatchOptions) :
    c.Walks (c.matchKey key how).cursor
      (matchTaken how.commit (.ofMatch (c.matchKey key how).result)) := by
  unfold matchKey
  split
  · exact matchCompiled_walks h countable _ how
  · split
    · exact Walks.stay rfl rfl
    · exact remember_walks (matchCompiled_walks h countable _ how) key _

theorem matchWith_walks (h : c.Coherent text options) (countable : c.remaining ≤ maxCount)
    (source flags : Text) (how : MatchOptions) :
    c.Walks (c.matchWith source flags how).cursor
      (matchTaken how.commit (.ofMatch (c.matchWith source flags how).result)) := by
  unfold matchWith
  split
  · exact Walks.stay rfl rfl
  · exact matchKey_walks h countable _ how

end Cursor

variable {text : Text} {options : CursorOptions} {c : Cursor}

theorem run_walks (h : c.Coherent text options) (countable : text.length ≤ maxCount)
    (op : Operation) (reading : op.isReading = true) :
    c.Walks (op.run c).cursor (op.taken (op.run c).result) := by
  have left := Cursor.remaining_countable h countable
  cases op with
  | peekWith length extra => exact Cursor.peekWith_walks c length extra
  | consumeWith length extra => exact Cursor.consumeWith_walks h length extra
  | peekWhileChunked test size => exact Cursor.peekWhileChunked_walks h test size
  | saveWith lock => exact Cursor.saveWith_walks c lock
  | matchPattern source flags => exact Cursor.matchWith_walks h left source flags _
  | matchWith source flags how => exact Cursor.matchWith_walks h left source flags how
  | matchCompiled pattern how => exact Cursor.matchCompiled_walks h left pattern how
  | acceptWith length offset => cases reading
  | cancel => cases reading
  | reset => cases reading

theorem runCursor_walks (h : c.Coherent text options) (countable : text.length ≤ maxCount)
    (ops : List Operation) (reading : ∀ op ∈ ops, op.isReading = true) :
    c.Walks (runCursor c ops) (takenAll c ops) := by
  induction ops generalizing c with
  | nil => exact Cursor.Walks.stay rfl rfl
  | cons op rest ih =>
    have after := run_coherent h op
    have first := run_walks h countable op (reading op List.mem_cons_self)
    have others := ih after fun op member => reading op (List.mem_cons_of_mem _ member)
    exact first.trans others h after

/-- What a run that only reads hands out as consumed, is the text up to where it ends, and what is
left is the rest. -/
theorem reading_conserves_text (text : Text) (options : CursorOptions) (ops : List Operation)
    (countable : text.length ≤ maxCount) (reading : ∀ op ∈ ops, op.isReading = true) :
    let c := runCursor (Cursor.ofText text options) ops
    takenAll (Cursor.ofText text options) ops = c.consumedText ∧
      takenAll (Cursor.ofText text options) ops ++ c.currentText = text := by
  intro c
  have fresh := Cursor.ofText_coherent text options
  have coherent := runCursor_coherent fresh ops
  have walk := runCursor_walks fresh countable ops reading
  have begun : (Cursor.ofText text options).consumedText = [] := Text.takeBytes_zero text
  have taken := walk.consumedText fresh coherent
  rw [begun, List.nil_append] at taken
  constructor
  · exact taken.symm
  · rw [← taken]
    exact (coherent_consistent coherent).split

/-- A staged match, a peek and a chunk that failed are left behind; a pattern that is none gives
nothing. -/
theorem mixed_reading_conserves_text :
    let text : Text := ['a', 'é', '\n', 'b', 'c', 'd']
    let ops : List Operation :=
      [.matchWith ['a', '.'] [] .staged, .consumeWith 1 0, .peekWith 3 0, .saveWith true,
        .matchPattern ['é'] [], .matchPattern ['('] [],
        .peekWhileChunked (fun _ chunk => chunk == ['\n', 'b']) 2]
    let c := runCursor (Cursor.ofText text {}) ops
    text.length ≤ maxCount ∧ (∀ op ∈ ops, op.isReading = true) ∧
      c.consumedText = ['a', 'é', '\n', 'b'] ∧
      takenAll (Cursor.ofText text {}) ops = c.consumedText ∧
      takenAll (Cursor.ofText text {}) ops ++ c.currentText = text := by
  intro text ops c
  have countable : text.length ≤ maxCount := by decide
  have reading : ∀ op ∈ ops, op.isReading = true := by simp [ops, Operation.isReading]
  have conserved := reading_conserves_text text {} ops countable reading
  have consumed : c.consumedText = ['a', 'é', '\n', 'b'] := by decide +kernel
  exact ⟨countable, reading, consumed, conserved⟩

end TextCursor
