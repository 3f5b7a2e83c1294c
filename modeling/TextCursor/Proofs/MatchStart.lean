import TextCursor.Proofs.Coherence
import TextCursor.Proofs.Pattern.Anchoring
/-!
Where the matches of a cursor begin. A pattern only matches at the start of the text that it is
given, and that text is the remaining input, whichever operation matches: so a match begins where
the cursor stands, and what it holds is what comes next.
-/
namespace TextCursor

theorem start_groupAt (buffer : Text) (start stop : Nat) (capture : CaptureMode) :
    (Pattern.groupAt buffer start capture ⟨0, stop⟩).slice.start = start := by
  simp [Pattern.groupAt, Text.byteIndex_zero]

theorem whole_fromStart {p : Pattern} {buffer : Text} {start : Nat} {capture : CaptureMode}
    {m : MatchOutcome} (found : p.matchAt? buffer start capture = some m) :
    ∃ stop, m.whole = Pattern.groupAt buffer start capture ⟨0, stop⟩ := by
  obtain ⟨spans, span, search, head, whole⟩ := Cursor.whole_matchAt found
  obtain ⟨stop, first⟩ := Pattern.find?_start p search
  rw [head, Option.some_inj, Option.some_inj] at first
  exact ⟨stop, first ▸ whole⟩

namespace Cursor
variable {text : Text} {options : CursorOptions} {c : Cursor}

def BeginsHere (c : Cursor) (m : MatchOutcome) : Prop :=
  m.whole.slice.start = c.position.byteOffset ∧ m.text <+: c.currentText

theorem matchAt_beginsHere (h : c.Coherent text options) {p : Pattern} {capture : CaptureMode}
    {m : MatchOutcome} (found : p.matchAt? c.text c.position.byteOffset capture = some m) :
    c.BeginsHere m := by
  obtain ⟨stop, whole⟩ := whole_fromStart found
  refine ⟨?_, ?_⟩
  · rw [whole, start_groupAt]
  · rw [MatchOutcome.text, whole, text_groupAt h]
    exact List.take_prefix _ _

theorem matchCompiled_result (c : Cursor) (p : Pattern) (how : MatchOptions) :
    (c.matchCompiled p how).result = p.matchAt? c.text c.position.byteOffset how.capture := by
  unfold matchCompiled
  split
  · rename_i unmatched
    exact unmatched.symm
  · rename_i m found
    split
    · exact found.symm
    · exact found.symm

theorem matchCompiled_found {p : Pattern} {how : MatchOptions} {m : MatchOutcome}
    (matched : (c.matchCompiled p how).result = some m) :
    p.matchAt? c.text c.position.byteOffset how.capture = some m :=
  (matchCompiled_result c p how).symm.trans matched

theorem matchKey_found {key : CacheKey} {how : MatchOptions} {m : MatchOutcome}
    (matched : (c.matchKey key how).result = .ok (some m)) :
    ∃ p : Pattern, p.matchAt? c.text c.position.byteOffset how.capture = some m := by
  unfold matchKey at matched
  split at matched
  · exact ⟨_, matchCompiled_found (Except.ok.inj matched)⟩
  · split at matched
    · cases matched
    · exact ⟨_, matchCompiled_found (Except.ok.inj matched)⟩

theorem matchWith_found {source flags : Text} {how : MatchOptions} {m : MatchOutcome}
    (matched : (c.matchWith source flags how).result = .ok (some m)) :
    ∃ p : Pattern, p.matchAt? c.text c.position.byteOffset how.capture = some m := by
  unfold matchWith at matched
  split at matched
  · cases matched
  · exact matchKey_found matched

end Cursor

theorem ofMatch_outcome {r : Except CursorError (Option MatchOutcome)} {m : MatchOutcome}
    (answered : Answer.ofMatch r = .outcome (some m)) : r = .ok (some m) := by
  cases r with
  | ok found => exact congrArg _ (Answer.outcome.inj answered)
  | error e => cases answered

/-- Only the three operations that match answer with a match, and each got it from a pattern that
was run where the cursor stands. -/
theorem run_found {c : Cursor} {op : Operation} {m : MatchOutcome}
    (answered : (op.run c).result = .outcome (some m)) :
    ∃ (p : Pattern) (capture : CaptureMode),
      p.matchAt? c.text c.position.byteOffset capture = some m := by
  cases op with
  | matchPattern source flags =>
    obtain ⟨p, found⟩ := Cursor.matchWith_found (ofMatch_outcome answered)
    exact ⟨p, _, found⟩
  | matchWith source flags how =>
    obtain ⟨p, found⟩ := Cursor.matchWith_found (ofMatch_outcome answered)
    exact ⟨p, _, found⟩
  | matchCompiled pattern how =>
    exact ⟨pattern, _, Cursor.matchCompiled_found (Answer.outcome.inj answered)⟩
  | peekWith length extra => cases answered
  | consumeWith length extra => cases answered
  | peekWhileChunked test size => cases answered
  | acceptWith length offset => cases answered
  | saveWith lock => cases answered
  | cancel => cases answered
  | reset => cases answered

/-- Every match of a text that is a pattern begins at the start of what is searched, and every match
that a cursor ever finds begins where the cursor stands. -/
theorem matches_begin_at_start :
    (∀ (source : Text) (modifiers : Modifiers) (p : Pattern),
      Pattern.compile source modifiers = .ok p →
        (∀ (text : Text) (spans : List (Option Pattern.CharSpan)), p.find? text = some spans →
          ∃ stop, spans.head? = some (some ⟨0, stop⟩)) ∧
        ∀ (buffer : Text) (start : Nat) (capture : CaptureMode) (m : MatchOutcome),
          p.matchAt? buffer start capture = some m → m.whole.slice.start = start) ∧
    ∀ (text : Text) (options : CursorOptions) (ops : List Operation) (op : Operation)
      (m : MatchOutcome),
      (op.run (runCursor (Cursor.ofText text options) ops)).result = .outcome (some m) →
        (runCursor (Cursor.ofText text options) ops).BeginsHere m := by
  refine ⟨?_, ?_⟩
  · intro source modifiers p _
    refine ⟨fun text spans found => Pattern.find?_start p found, ?_⟩
    intro buffer start capture m found
    obtain ⟨stop, whole⟩ := whole_fromStart found
    rw [whole, start_groupAt]
  · intro text options ops op m answered
    obtain ⟨p, capture, found⟩ := run_found answered
    have coherent := runCursor_coherent (Cursor.ofText_coherent text options) ops
    exact Cursor.matchAt_beginsHere coherent found

theorem second_branch_begins_at_start :
    (∃ p spans stop, Pattern.compile ['b', '|', 'a', 'c'] .none = .ok p ∧
      p.find? ['a', 'c'] = some spans ∧ spans.head? = some (some ⟨0, stop⟩)) ∧
    ∃ m, ((Operation.matchWith ['b', '|', 'a', 'c'] [] {}).run
        (runCursor (Cursor.ofText ['x', 'a', 'c'] {}) [.consumeWith 1 0])).result =
          .outcome (some m) ∧
      (runCursor (Cursor.ofText ['x', 'a', 'c'] {}) [.consumeWith 1 0]).BeginsHere m := by
  refine ⟨?_, ?_⟩
  · obtain ⟨p, compiled, program⟩ := Pattern.compiles ['b', '|', 'a', 'c'] .none (by decide +kernel)
    have run : (Pattern.Program.compile ['b', '|', 'a', 'c'] .none).toOption.bind
        (·.find? ['a', 'c']) = some [some ⟨0, 2⟩] := by decide +kernel
    rw [program] at run
    obtain ⟨stop, head⟩ := (matches_begin_at_start.1 _ _ p compiled).1 ['a', 'c'] _ run
    exact ⟨p, _, stop, compiled, run, head⟩
  · have answered : ((Operation.matchWith ['b', '|', 'a', 'c'] [] {}).run
        (runCursor (Cursor.ofText ['x', 'a', 'c'] {}) [.consumeWith 1 0])).result =
          .outcome (some ⟨⟨⟨['x', 'a', 'c'], 1, 3⟩, none⟩,
            [some ⟨⟨['x', 'a', 'c'], 1, 3⟩, none⟩], [none]⟩) := by decide +kernel
    exact ⟨_, answered, matches_begin_at_start.2 _ _ _ _ _ answered⟩

end TextCursor
