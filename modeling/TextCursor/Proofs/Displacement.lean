import TextCursor.Proofs.Caching
import TextCursor.Proofs.History
import TextCursor.Proofs.Walk
import Mathlib.Data.List.Forall2
/-!
What was consumed has no influence. A cursor that consumed `p` from `p ++ s` is a cursor on `s`
displaced by `p`: its buffer, its counts and all its positions take `p` into account, and all else
is the same. Every operation but a reset does the same on both and displaces what it gives by `p`:
the same texts, with their ends later by the bytes of `p`. A reset is where they part, since it goes
back to before `p`.
-/
namespace TextCursor

/-! What it means that one thing is another one displaced by a text that lies before it. -/

structure Slice.Displaced (p : Text) (far near : Slice) : Prop where
  text : far.text = near.text
  start : far.start = p.byteLength + near.start
  stop : far.stop = p.byteLength + near.stop

structure Group.Displaced (p : Text) (far near : Group) : Prop where
  slice : far.slice.Displaced p near.slice
  offset : far.offset = near.offset

structure MatchOutcome.Displaced (p : Text) (far near : MatchOutcome) : Prop where
  whole : far.whole.Displaced p near.whole
  groups : List.Forall₂ (Option.Rel (Group.Displaced p)) far.groups near.groups
  names : far.names = near.names

inductive Answer.Displaced (p : Text) : Answer → Answer → Prop where
  | done : Answer.Displaced p .done .done
  | slice {far near : Option Slice} : Option.Rel (Slice.Displaced p) far near →
      Answer.Displaced p (.slice far) (.slice near)
  | chunks (c : Cursor.Chunks) : Answer.Displaced p (.chunks c) (.chunks c)
  | outcome {far near : Option MatchOutcome} : Option.Rel (MatchOutcome.Displaced p) far near →
      Answer.Displaced p (.outcome far) (.outcome near)
  | failed (e : CursorError) : Answer.Displaced p (.failed e) (.failed e)

/-- `near` is the position behind some part of `text` from its start, and `far` the one behind `p`
and that part. -/
def Position.Displaced (p text : Text) (far near : Position) : Prop :=
  ∃ walked, walked <+: text ∧ near = start.advanceOver walked ∧
    far = start.advanceOver (p ++ walked)

structure Cursor.Displaced (p : Text) (far near : Cursor) : Prop where
  currentText : far.currentText = near.currentText
  consumedText : far.consumedText = p ++ near.consumedText
  remaining : far.remaining = near.remaining
  hasRemaining : far.hasRemaining = near.hasRemaining
  pending : far.pending = near.pending
  isLocked : far.isLocked = near.isLocked
  hasCheckpoint : far.hasCheckpoint = near.hasCheckpoint
  position : far.position = Position.start.advanceOver (p ++ near.consumedText)
  snapshot : Option.Rel (Position.Displaced p near.text) far.checkpoint.snapshot
    near.checkpoint.snapshot

def Position.behind (q : Position) (p text : Text) : Position :=
  start.advanceOver (p ++ text.take q.offset)

def Checkpoint.behind (slot : Checkpoint) (p text : Text) : Checkpoint :=
  match slot with
  | .empty => .empty
  | .unlocked q => .unlocked (q.behind p text)
  | .locked q => .locked (q.behind p text)

/-- The cursor with `p` put before its text, as a text that it consumed. -/
def Cursor.behind (c : Cursor) (p : Text) : Cursor :=
  { c with
    text := p ++ c.text
    totalChars := p.length + c.totalChars
    position := c.position.behind p c.text
    checkpoint := c.checkpoint.behind p c.text }

structure Effect.Behind {α : Type} (p : Text) (R : α → α → Prop) (far near : Effect α) : Prop where
  result : R far.result near.result
  cursor : far.cursor = near.cursor.behind p

namespace Position
variable {q : Position} {text : Text}

theorem offset_behind (p : Text) (h : q.LiesIn text) :
    (q.behind p text).offset = p.length + q.offset := by
  have inside := h.inside
  simp only [behind, offset_advanceOver, start, List.length_append, List.length_take]
  omega

theorem byteOffset_behind (p : Text) (h : q.LiesIn text) :
    (q.behind p text).byteOffset = p.byteLength + q.byteOffset := by
  rw [behind, byteOffset_advanceOver, Text.byteLength_append, Text.byteLength_take,
    byteOffset_lies h]
  simp only [start]
  omega

theorem advanceOver_behind (p : Text) {w : Text} (next : w <+: text.drop q.offset) :
    (q.advanceOver w).behind p text = (q.behind p text).advanceOver w := by
  rw [List.prefix_iff_eq_take] at next
  rw [behind, behind, offset_advanceOver, List.take_add, ← next, ← List.append_assoc,
    advanceOver_append]

theorem displaced_behind (p : Text) (h : q.LiesIn text) : (q.behind p text).Displaced p text q :=
  ⟨text.take q.offset, List.take_prefix _ _, h.walked, rfl⟩

end Position

theorem Slice.text_behind (p buffer : Text) (i j : Nat) :
    (⟨p ++ buffer, p.byteLength + i, p.byteLength + j⟩ : Slice).text =
      (⟨buffer, i, j⟩ : Slice).text := by
  simp only [text]
  rw [Text.dropBytes_append, Nat.add_sub_add_left]

theorem Slice.charsFrom_displaced (p buffer : Text) (start n : Nat) :
    (charsFrom (p ++ buffer) (p.byteLength + start) n).Displaced p (charsFrom buffer start n) := by
  have ends : p.byteLength + start + (buffer.dropBytes start).byteIndex n =
      p.byteLength + (start + (buffer.dropBytes start).byteIndex n) := Nat.add_assoc _ _ _
  simp only [charsFrom, Text.dropBytes_append, ends]
  exact ⟨Slice.text_behind p buffer _ _, rfl, rfl⟩

namespace Pattern

theorem groupAt_displaced (p buffer : Text) (start : Nat) (capture : CaptureMode)
    (span : CharSpan) :
    (groupAt (p ++ buffer) (p.byteLength + start) capture span).Displaced p
      (groupAt buffer start capture span) := by
  simp only [groupAt, Text.dropBytes_append, Nat.add_assoc]
  exact ⟨⟨Slice.text_behind p buffer _ _, rfl, rfl⟩, rfl⟩

theorem matchAt?_displaced (pattern : Pattern) (p buffer : Text) (start : Nat)
    (capture : CaptureMode) :
    Option.Rel (MatchOutcome.Displaced p)
      (pattern.matchAt? (p ++ buffer) (p.byteLength + start) capture)
      (pattern.matchAt? buffer start capture) := by
  simp only [matchAt?, Text.dropBytes_append]
  cases pattern.find? (buffer.dropBytes start) with
  | none => exact .none
  | some spans =>
    have groups : List.Forall₂ (Option.Rel (Group.Displaced p))
        (spans.map fun span => span.map (groupAt (p ++ buffer) (p.byteLength + start) capture))
        (spans.map fun span => span.map (groupAt buffer start capture)) := by
      rw [List.forall₂_map_left_iff, List.forall₂_map_right_iff, List.forall₂_same]
      intro span _
      cases span with
      | none => exact .none
      | some span => exact .some (groupAt_displaced p buffer start capture span)
    cases spans with
    | nil => exact .none
    | cons first others =>
      cases first with
      | none => exact .none
      | some span => exact .some ⟨groupAt_displaced p buffer start capture span, groups, rfl⟩

end Pattern

namespace Cursor
variable {text : Text} {options : CursorOptions} {c : Cursor} (p : Text)

theorem eq_behind {far near : Cursor} (text : far.text = p ++ near.text)
    (total : far.totalChars = p.length + near.totalChars)
    (position : far.position = near.position.behind p near.text)
    (pending : far.pending = near.pending)
    (checkpoint : far.checkpoint = near.checkpoint.behind p near.text)
    (options : far.options = near.options) (cache : far.cache = near.cache) :
    far = near.behind p := by
  cases far
  simp_all only [behind]

theorem byteOffset_behind (h : c.Coherent text options) :
    (c.behind p).position.byteOffset = p.byteLength + c.position.byteOffset :=
  Position.byteOffset_behind p h.place

theorem currentText_behind (h : c.Coherent text options) :
    (c.behind p).currentText = c.currentText := by
  have buffer : (c.behind p).text = p ++ c.text := rfl
  rw [currentText, byteOffset_behind p h, buffer, Text.dropBytes_append, currentText]

theorem consumedText_behind (h : c.Coherent text options) :
    (c.behind p).consumedText = p ++ c.consumedText := by
  have buffer : (c.behind p).text = p ++ c.text := rfl
  rw [consumedText, byteOffset_behind p h, buffer, Text.takeBytes_append, consumedText]

theorem remaining_behind (h : c.Coherent text options) :
    (c.behind p).remaining = c.remaining := by
  simp only [remaining, behind, Position.offset_behind p h.place]
  omega

theorem hasRemaining_behind (h : c.Coherent text options) :
    (c.behind p).hasRemaining = c.hasRemaining := by
  simp only [hasRemaining, behind, Position.byteOffset_behind p h.place, Text.byteLength_append,
    Nat.add_lt_add_iff_left]

theorem isLocked_behind (c : Cursor) : (c.behind p).isLocked = c.isLocked := by
  simp only [isLocked, behind]
  cases c.checkpoint <;> rfl

theorem snapshot_behind (c : Cursor) : (c.behind p).checkpoint.snapshot =
    c.checkpoint.snapshot.map fun q => q.behind p c.text := by
  simp only [behind]
  cases c.checkpoint <;> rfl

theorem displaced_behind (h : c.Coherent text options) : (c.behind p).Displaced p c where
  currentText := currentText_behind p h
  consumedText := consumedText_behind p h
  remaining := remaining_behind p h
  hasRemaining := hasRemaining_behind p h
  pending := rfl
  isLocked := isLocked_behind p c
  hasCheckpoint := by rw [hasCheckpoint, snapshot_behind, Option.isSome_map]; rfl
  position := by rw [consumedText_coherent h]; rfl
  snapshot := by
    rw [snapshot_behind]
    cases held : c.checkpoint.snapshot with
    | none => exact .none
    | some q => exact .some (Position.displaced_behind p (h.snapshot q held).1)

theorem Walks.position_behind {d : Cursor} {w : Text} (walk : c.Walks d w)
    (h : c.Coherent text options) :
    (c.behind p).position.advanceOver w = d.position.behind p d.text := by
  have next := walk.next
  rw [currentText_coherent h] at next
  rw [walk.text, walk.position, Position.advanceOver_behind p next]
  rfl

theorem acceptWith_behind (h : c.Coherent text options) (length offset : Nat) :
    ((c.behind p).acceptWith length offset).cursor =
      (c.acceptWith length offset).cursor.behind p := by
  have walk := acceptWith_walks c length offset
  have walk' := acceptWith_walks (c.behind p) length offset
  rw [currentText_behind p h, remaining_behind p h] at walk'
  apply eq_behind
  · rfl
  · rfl
  · exact walk'.position.trans (walk.position_behind p h)
  · rfl
  · simp only [acceptWith, isLocked_behind]
    split <;> rfl
  · rfl
  · rfl

theorem saveWith_behind (c : Cursor) (lock : Bool) :
    ((c.behind p).saveWith lock).cursor = (c.saveWith lock).cursor.behind p := by
  unfold saveWith
  rw [isLocked_behind]
  split
  · rfl
  · cases lock <;> rfl

theorem cancel_behind (c : Cursor) : (c.behind p).cancel.cursor = c.cancel.cursor.behind p := by
  rw [cancel_eq, cancel_eq, snapshot_behind]
  cases c.checkpoint.snapshot <;> rfl

theorem remember_behind (c : Cursor) (key : CacheKey) (pattern : Pattern) :
    (c.behind p).remember key pattern = (c.remember key pattern).behind p := by
  have same : (c.behind p).options = c.options := rfl
  unfold remember
  rw [same]
  split <;> rfl

theorem peekWith_behind (h : c.Coherent text options) (length extra : Nat) :
    Effect.Behind p (Option.Rel (Slice.Displaced p)) ((c.behind p).peekWith length extra)
      (c.peekWith length extra) := by
  unfold peekWith
  rw [hasRemaining_behind p h, remaining_behind p h]
  split
  · constructor
    · rw [byteOffset_behind p h]
      exact .some (Slice.charsFrom_displaced p c.text _ _)
    · rfl
  · exact ⟨.none, rfl⟩

theorem consumeWith_behind (h : c.Coherent text options) (length extra : Nat) :
    Effect.Behind p (Option.Rel (Slice.Displaced p)) ((c.behind p).consumeWith length extra)
      (c.consumeWith length extra) := by
  have peeked := peekWith_behind p h length extra
  constructor
  · exact peeked.result
  · simp only [consumeWith, peeked.cursor]
    exact acceptWith_behind p (peekWith_coherent h length extra) 0 0

theorem chunksFuel_behind (test : ChunkTest) (size fuel : Nat) (seen : List Text)
    (h : c.Coherent text options) :
    Effect.Behind p Eq (chunksFuel test size fuel seen (c.behind p))
      (chunksFuel test size fuel seen c) := by
  induction fuel generalizing seen c with
  | zero => exact ⟨rfl, rfl⟩
  | succ fuel ih =>
    have peeked : Effect.Behind p (Option.Rel (Slice.Displaced p)) ((c.behind p).peek size)
      (c.peek size) := peekWith_behind p h size 0
    -- Both peeks give a chunk or neither does, so the cases are told by how they are related.
    have given := peeked.result
    generalize far : ((c.behind p).peek size).result = there at given
    generalize near : (c.peek size).result = here at given
    cases given with
    | none =>
      rw [chunksFuel_none far, chunksFuel_none near]
      exact ⟨rfl, peeked.cursor⟩
    | @some s t same =>
      have chunk := same.text
      cases fits : test seen t.text with
      | false =>
        rw [chunksFuel_rejected far (chunk ▸ fits), chunksFuel_rejected near fits, chunk]
        exact ⟨rfl, peeked.cursor⟩
      | true =>
        have consumed : ((c.behind p).consume size).cursor = (c.consume size).cursor.behind p :=
          (consumeWith_behind p h size 0).cursor
        have others : Effect.Behind p Eq
            (chunksFuel test size fuel (seen ++ [t.text]) ((c.behind p).consume size).cursor)
            (chunksFuel test size fuel (seen ++ [t.text]) (c.consume size).cursor) := by
          rw [consumed]
          exact ih (seen ++ [t.text]) (consumeWith_coherent h size 0)
        rw [chunksFuel_accepted far (chunk ▸ fits), chunksFuel_accepted near fits, chunk]
        constructor
        · exact congrArg (fun r : Chunks => (⟨t.text ++ r.text, r.seen⟩ : Chunks)) others.result
        · exact others.cursor

theorem peekWhileChunked_behind (h : c.Coherent text options) (test : ChunkTest) (size : Nat) :
    Effect.Behind p Eq ((c.behind p).peekWhileChunked test size)
      (c.peekWhileChunked test size) := by
  unfold peekWhileChunked
  rw [remaining_behind p h]
  split
  · exact ⟨rfl, rfl⟩
  · exact chunksFuel_behind p test size _ [] h

theorem matchCompiled_behind (h : c.Coherent text options) (pattern : Pattern)
    (how : MatchOptions) :
    Effect.Behind p (Option.Rel (MatchOutcome.Displaced p))
      ((c.behind p).matchCompiled pattern how) (c.matchCompiled pattern how) := by
  have buffer : (c.behind p).text = p ++ c.text := rfl
  have found := pattern.matchAt?_displaced p c.text c.position.byteOffset how.capture
  have bound (n : MatchOutcome)
      (here : pattern.matchAt? c.text c.position.byteOffset how.capture = some n) :
      n.charLength ≤ c.remaining := charLength_matchAt h here
  unfold matchCompiled
  rw [byteOffset_behind p h, buffer]
  -- As for chunks: what the two searches found is told apart by how it is related.
  generalize pattern.matchAt? (p ++ c.text) (p.byteLength + c.position.byteOffset) how.capture = far
    at *
  generalize pattern.matchAt? c.text c.position.byteOffset how.capture = near at *
  cases found with
  | none => exact ⟨.none, rfl⟩
  | @some m n same =>
    have length : m.charLength = n.charLength := congrArg List.length same.whole.slice.text
    simp only [length]
    split
    · constructor
      · exact .some same
      · exact acceptWith_behind p (stage_coherent h n.charLength (bound n rfl)) 0 0
    · exact ⟨.some same, rfl⟩

def AnswersDisplaced (p : Text) (far near : Except CursorError (Option MatchOutcome)) : Prop :=
  Answer.Displaced p (.ofMatch far) (.ofMatch near)

theorem matchKey_behind (h : c.Coherent text options) (key : CacheKey) (how : MatchOptions) :
    Effect.Behind p (AnswersDisplaced p) ((c.behind p).matchKey key how) (c.matchKey key how) := by
  have cache : (c.behind p).cache = c.cache := rfl
  unfold matchKey
  rw [cache]
  cases c.cache.get? key with
  | some pattern =>
    have matched := matchCompiled_behind p h pattern how
    exact ⟨.outcome matched.result, matched.cursor⟩
  | none =>
    cases compilePattern key.source key.modifiers with
    | error err => exact ⟨.failed err, rfl⟩
    | ok pattern =>
      have matched := matchCompiled_behind p h pattern how
      constructor
      · exact .outcome matched.result
      · simp only [matched.cursor]
        exact remember_behind p _ key pattern

theorem matchWith_behind (h : c.Coherent text options) (source flags : Text)
    (how : MatchOptions) :
    Effect.Behind p (AnswersDisplaced p) ((c.behind p).matchWith source flags how)
      (c.matchWith source flags how) := by
  unfold matchWith
  cases readModifiers flags with
  | error err => exact ⟨.failed err, rfl⟩
  | ok modifiers => exact matchKey_behind p h (c.cacheKey source modifiers) how

end Cursor

variable {text : Text} {options : CursorOptions} {c : Cursor} (p : Text)

theorem run_behind (h : c.Coherent text options) (op : Operation) (stays : op ≠ .reset) :
    Effect.Behind p (Answer.Displaced p) (op.run (c.behind p)) (op.run c) := by
  cases op with
  | peekWith length extra =>
    have peeked := Cursor.peekWith_behind p h length extra
    exact ⟨.slice peeked.result, peeked.cursor⟩
  | consumeWith length extra =>
    have consumed := Cursor.consumeWith_behind p h length extra
    exact ⟨.slice consumed.result, consumed.cursor⟩
  | peekWhileChunked test size =>
    have chunks := Cursor.peekWhileChunked_behind p h test size
    constructor
    · simp only [Operation.run, Effect.map, chunks.result]
      exact .chunks _
    · exact chunks.cursor
  | acceptWith length offset => exact ⟨.done, Cursor.acceptWith_behind p h length offset⟩
  | saveWith lock => exact ⟨.done, Cursor.saveWith_behind p c lock⟩
  | cancel => exact ⟨.done, Cursor.cancel_behind p c⟩
  | reset => exact absurd rfl stays
  | matchPattern source flags =>
    have matched := Cursor.matchWith_behind p h source flags { capture := c.options.capture }
    exact ⟨matched.result, matched.cursor⟩
  | matchWith source flags how =>
    have matched := Cursor.matchWith_behind p h source flags how
    exact ⟨matched.result, matched.cursor⟩
  | matchCompiled pattern how =>
    have matched := Cursor.matchCompiled_behind p h pattern how
    exact ⟨.outcome matched.result, matched.cursor⟩

theorem runAll_behind (h : c.Coherent text options) (ops : List Operation)
    (stay : ∀ op ∈ ops, op ≠ .reset) :
    List.Forall₂
      (fun far near => far.result.Displaced p near.result ∧ far.cursor.Displaced p near.cursor)
      (runAll (c.behind p) ops) (runAll c ops) := by
  induction ops generalizing c with
  | nil => exact .nil
  | cons op rest ih =>
    have here := run_behind p h op (stay op List.mem_cons_self)
    have after := run_coherent h op
    have others := ih after fun op member => stay op (List.mem_cons_of_mem _ member)
    simp only [runAll]
    constructor
    · rw [here.cursor]
      exact ⟨here.result, Cursor.displaced_behind p after⟩
    · rw [here.cursor]
      exact others

namespace Cursor

theorem position_cancel_accept (c : Cursor) (unlocked : c.isLocked = false) :
    c.accept.cursor.cancel.cursor.position = c.position := by
  have slot : c.accept.cursor.checkpoint = .unlocked c.position := by
    rw [accept, checkpoint_acceptWith, Checkpoint.mark]
    exact if_neg (Bool.eq_false_iff.mp unlocked)
  rw [cancel_eq, slot]
  rfl

theorem position_consume_front (p s : Text) (options : CursorOptions)
    (countable : (p ++ s).length ≤ maxCount) :
    ((ofText (p ++ s) options).consume p.length).cursor.position =
      Position.start.advanceOver p := by
  have fresh := ofText_coherent (p ++ s) options
  have moved := consumeWith_movesOn fresh (remaining_countable fresh countable) p.length 0
  have left : (ofText (p ++ s) options).remaining = p.length + s.length := List.length_append
  have all : min (p.length + 0) (p.length + s.length) = p.length := by omega
  have ahead : (ofText (p ++ s) options).currentText = p ++ s := Text.dropBytes_zero (p ++ s)
  have position := moved.walks.position
  rw [left, all, ahead, List.take_left] at position
  exact position

end Cursor

theorem consumed_behind (p s : Text) (options : CursorOptions)
    (countable : (p ++ s).length ≤ maxCount) :
    runCursor (Cursor.ofText (p ++ s) options) [.consumeWith p.length 0, .acceptWith 0 0, .cancel] =
      (Cursor.ofText s options).behind p := by
  have coherent := runCursor_coherent (Cursor.ofText_coherent (p ++ s) options)
    [.consumeWith p.length 0, .acceptWith 0 0, .cancel]
  have unlocked :
      ((Cursor.ofText (p ++ s) options).consume p.length).cursor.isLocked = false := by
    rw [Cursor.isLocked, Cursor.consume, Cursor.checkpoint_consumeWith]
    rfl
  have cancelled (c : Cursor) :
      c.cancel.cursor.pending = 0 ∧ c.cancel.cursor.checkpoint = .empty := by
    rw [Cursor.cancel_eq]
    exact ⟨rfl, rfl⟩
  apply Cursor.eq_behind
  · exact coherent.buffer
  · rw [coherent.total, coherent.buffer, List.length_append]
    rfl
  · have place := Cursor.position_cancel_accept _ unlocked
    rw [Cursor.position_consume_front p s options countable] at place
    apply place.trans
    simp [Position.behind, Cursor.ofText, Position.start]
  · exact (cancelled _).1
  · exact (cancelled _).2
  · exact coherent.settings
  · rw [runCursor, List.foldl_cons, List.foldl_cons, List.foldl_cons, List.foldl_nil]
    rw [cache_run _ _ rfl, cache_run _ _ rfl, cache_run _ _ rfl]
    rfl

/-- A cursor that consumed `p` from `p ++ s` goes the same way as a fresh one on `s`: whatever run
without a reset both are led through, it gives and leaves the same, displaced by `p`. -/
theorem consumed_text_without_influence (p s : Text) (options : CursorOptions)
    (ops : List Operation) (countable : (p ++ s).length ≤ maxCount)
    (stay : ∀ op ∈ ops, op ≠ .reset) :
    let far := runCursor (Cursor.ofText (p ++ s) options)
      [.consumeWith p.length 0, .acceptWith 0 0, .cancel]
    let near := Cursor.ofText s options
    far.Displaced p near ∧
      List.Forall₂
        (fun far near => far.result.Displaced p near.result ∧ far.cursor.Displaced p near.cursor)
        (runAll far ops) (runAll near ops) := by
  intro far near
  have fresh := Cursor.ofText_coherent s options
  have begun : far = near.behind p := consumed_behind p s options countable
  rw [begun]
  constructor
  · exact Cursor.displaced_behind p fresh
  · exact runAll_behind p fresh ops stay

/-- What is behind `é` and a line feed is read and matched as if it stood alone: `a` matches at the
start of a line, at bytes 3 and 0, and `b` comes next. -/
theorem second_line_without_influence :
    (['é', '\n'] ++ ['a', 'b'] : Text).length ≤ maxCount ∧
      let far := runCursor (Cursor.ofText (['é', '\n'] ++ ['a', 'b']) {})
        [.consumeWith 2 0, .acceptWith 0 0, .cancel]
      let near := Cursor.ofText ['a', 'b'] {}
      let ops : List Operation :=
        [.matchPattern ['^', 'a'] ['m'], .peekWith 1 0, .cancel, .matchPattern ['('] []]
      let lineRead (buffer : Text) (start : Nat) : List Answer :=
        let a : Group := ⟨⟨buffer, start, start + 1⟩, none⟩
        [.outcome (some ⟨a, [some a], [none]⟩), .slice (some ⟨buffer, start + 1, start + 2⟩), .done]
      (∀ op ∈ ops, op ≠ .reset) ∧
        ((runAll far ops).take 3).map (·.result) = lineRead ['é', '\n', 'a', 'b'] 3 ∧
        ((runAll near ops).take 3).map (·.result) = lineRead ['a', 'b'] 0 ∧
        far.Displaced ['é', '\n'] near ∧
        List.Forall₂
          (fun far near => far.result.Displaced ['é', '\n'] near.result ∧
            far.cursor.Displaced ['é', '\n'] near.cursor)
          (runAll far ops) (runAll near ops) := by
  have countable : (['é', '\n'] ++ ['a', 'b'] : Text).length ≤ maxCount := by decide
  have stay : ∀ op ∈ ([.matchPattern ['^', 'a'] ['m'], .peekWith 1 0, .cancel,
      .matchPattern ['('] []] : List Operation), op ≠ .reset := by simp
  constructor
  · exact countable
  · intro far near ops lineRead
    refine ⟨stay, ?_, ?_, ?_⟩
    · decide +kernel
    · decide +kernel
    · exact consumed_text_without_influence ['é', '\n'] ['a', 'b'] {} ops countable stay

end TextCursor
