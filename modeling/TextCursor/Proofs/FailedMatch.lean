import TextCursor.Proofs.MatchStart
import TextCursor.Proofs.Reset
/-!
A match that does not succeed changes nothing. There are four ways out of one: the flags are not
read, the pattern does not compile, a pattern that was kept does not match, one that was compiled
for this match does not. The first two leave the very cursor that there was; the last may leave one
pattern more that is kept, which no later operation shows.
-/
namespace TextCursor

def Answer.Unsuccessful (a : Answer) : Prop :=
  a = .outcome none ∨ ∃ e, a = .failed e

def Cursor.SameButKept (c d : Cursor) : Prop := c = { d with cache := c.cache }

namespace Cursor
variable {c : Cursor}

theorem SameButKept.refl (c : Cursor) : c.SameButKept c := rfl

theorem SameButKept.uncached {d : Cursor} (same : c.SameButKept d) : c.uncached = d.uncached := by
  rw [same]
  rfl

theorem remember_same (c : Cursor) (key : CacheKey) (p : Pattern) :
    (c.remember key p).SameButKept c := by
  unfold remember
  split
  · rfl
  · rfl

theorem matchCompiled_unmatched {p : Pattern} {how : MatchOptions}
    (unmatched : (c.matchCompiled p how).result = none) : (c.matchCompiled p how).cursor = c := by
  have nowhere := (matchCompiled_result c p how).symm.trans unmatched
  simp only [matchCompiled, nowhere]

theorem matchKey_unmatched {key : CacheKey} {how : MatchOptions}
    (unmatched : (c.matchKey key how).result = .ok none) :
    (c.matchKey key how).cursor.SameButKept c := by
  unfold matchKey at unmatched ⊢
  split
  · rename_i p kept
    simp only [kept] at unmatched
    rw [matchCompiled_unmatched (Except.ok.inj unmatched)]
    exact .refl c
  · rename_i fresh
    simp only [fresh] at unmatched
    split
    · exact .refl c
    · rename_i p compiled
      simp only [compiled] at unmatched
      have unmoved := matchCompiled_unmatched (Except.ok.inj unmatched)
      change ((c.matchCompiled p how).cursor.remember key p).SameButKept c
      rw [unmoved]
      exact remember_same c key p

theorem matchKey_failed {key : CacheKey} {how : MatchOptions} {e : CursorError}
    (failed : (c.matchKey key how).result = .error e) : c.matchKey key how = ⟨.error e, c, []⟩ := by
  unfold matchKey at failed ⊢
  split
  · rename_i p kept
    simp only [kept] at failed
    cases failed
  · rename_i fresh
    simp only [fresh] at failed
    split
    · rename_i err rejected
      simp only [rejected] at failed
      rw [Except.error.inj failed]
    · rename_i p compiled
      simp only [compiled] at failed
      cases failed

theorem matchWith_unmatched {source flags : Text} {how : MatchOptions}
    (unmatched : (c.matchWith source flags how).result = .ok none) :
    (c.matchWith source flags how).cursor.SameButKept c := by
  unfold matchWith at unmatched ⊢
  cases read : readModifiers flags with
  | error err =>
    rw [read] at unmatched
    cases unmatched
  | ok modifiers =>
    rw [read] at unmatched
    exact matchKey_unmatched unmatched

/-- An error leaves the very cursor, the patterns it keeps included. -/
theorem matchWith_failed {source flags : Text} {how : MatchOptions} {e : CursorError}
    (failed : (c.matchWith source flags how).result = .error e) :
    c.matchWith source flags how = ⟨.error e, c, []⟩ := by
  unfold matchWith at failed ⊢
  cases read : readModifiers flags with
  | error err =>
    rw [read] at failed
    rw [Except.error.inj failed]
  | ok modifiers =>
    rw [read] at failed
    exact matchKey_failed failed

end Cursor

theorem ofMatch_unmatched {r : Except CursorError (Option MatchOutcome)}
    (answered : Answer.ofMatch r = .outcome none) : r = .ok none := by
  cases r with
  | ok found => rw [Answer.outcome.inj answered]
  | error e => cases answered

theorem ofMatch_failed {r : Except CursorError (Option MatchOutcome)} {e : CursorError}
    (answered : Answer.ofMatch r = .failed e) : r = .error e := by
  cases r with
  | ok found => cases answered
  | error err => rw [Answer.failed.inj answered]

theorem run_unmatched {c : Cursor} {op : Operation}
    (answered : (op.run c).result = .outcome none) : (op.run c).cursor.SameButKept c := by
  cases op with
  | matchPattern source flags => exact Cursor.matchWith_unmatched (ofMatch_unmatched answered)
  | matchWith source flags how => exact Cursor.matchWith_unmatched (ofMatch_unmatched answered)
  | matchCompiled pattern how =>
    have unmatched := Cursor.matchCompiled_unmatched (Answer.outcome.inj answered)
    change (c.matchCompiled pattern how).cursor.SameButKept c
    rw [unmatched]
    exact .refl c
  | peekWith length extra => cases answered
  | consumeWith length extra => cases answered
  | peekWhileChunked test size => cases answered
  | acceptWith length offset => cases answered
  | saveWith lock => cases answered
  | cancel => cases answered
  | reset => cases answered

theorem run_failed {c : Cursor} {op : Operation} {e : CursorError}
    (answered : (op.run c).result = .failed e) : op.run c = ⟨.failed e, c, []⟩ := by
  cases op with
  | matchPattern source flags =>
    have failed := Cursor.matchWith_failed (ofMatch_failed answered)
    simp only [Operation.run, Cursor.matchPattern, failed, Effect.map, Answer.ofMatch]
  | matchWith source flags how =>
    have failed := Cursor.matchWith_failed (ofMatch_failed answered)
    simp only [Operation.run, failed, Effect.map, Answer.ofMatch]
  | matchCompiled pattern how => cases answered
  | peekWith length extra => cases answered
  | consumeWith length extra => cases answered
  | peekWhileChunked test size => cases answered
  | acceptWith length offset => cases answered
  | saveWith lock => cases answered
  | cancel => cases answered
  | reset => cases answered

theorem run_unsuccessful {c : Cursor} {op : Operation} (failed : (op.run c).result.Unsuccessful) :
    (op.run c).cursor.SameButKept c := by
  rcases failed with unmatched | ⟨e, failed⟩
  · exact run_unmatched unmatched
  · rw [run_failed failed]
    exact .refl c

/-- Whatever happened in a session before, a match on one of its cursors that gives no outcome
leaves the cursor as it was, but for the patterns it keeps, and an error leaves those as well, so
that the same call fails the same way again; and every run from there on gives and leaves what it
would without the call. -/
theorem failed_match_changes_nothing (text : Text) (options : CursorOptions)
    (steps : List Session.Step) :
    ∀ c ∈ ((Session.ofCursor (.ofText text options)).run steps).cursors, ∀ op : Operation,
      (op.run c).result.Unsuccessful →
        (op.run c).cursor.SameButKept c ∧
        (∀ e, (op.run c).result = .failed e →
          (op.run c).cursor = c ∧ (op.run (op.run c).cursor).result = .failed e) ∧
        ∀ later, List.Forall₂ Effect.SameButKept
          (runAll (op.run c).cursor later) (runAll c later) := by
  intro c held op failed
  obtain ⟨before, rfl⟩ := Session.run_reached (.ofText text options) steps c held
  have coherent := runCursor_coherent (Cursor.ofText_coherent text options) before
  have sound := runCursor_sound (c := .ofText text options) Cache.empty_sound before
  have same := run_unsuccessful failed
  refine ⟨same, ?_, ?_⟩
  · intro e answered
    have unmoved := congrArg Effect.cursor (run_failed answered)
    refine ⟨unmoved, ?_⟩
    rw [unmoved]
    exact answered
  · intro later
    exact runAll_sameButKept (run_coherent coherent op) coherent (run_sound sound op) sound
      same.uncached later

/-- Behind the first codepoint of `ab`, with `b` staged and the checkpoint locked: `a` is compiled,
kept and not found there, and `(` is no pattern. -/
theorem failed_matches_behind_lock :
    let s := (Session.ofCursor (.ofText ['a', 'b'] {})).run
      [.operate (.consumeWith 1 0), .operate (.saveWith true), .operate (.peekWith 1 0)]
    let absent := Operation.matchPattern ['a'] []
    let broken := Operation.matchPattern ['('] []
    ∃ c ∈ s.cursors, c.pending = 1 ∧ c.isLocked = true ∧
      ((absent.run c).cursor.cache.length = 1 ∧ (absent.run c).cursor.SameButKept c ∧
        ∀ later, List.Forall₂ Effect.SameButKept
          (runAll (absent.run c).cursor later) (runAll c later)) ∧
      (broken.run c).cursor = c ∧
        (broken.run (broken.run c).cursor).result = (broken.run c).result := by
  intro s absent broken
  have seen : s.cursor?.map (fun c => (c.pending, c.isLocked, (absent.run c).result,
      (absent.run c).cursor.cache.length, (broken.run c).result)) =
      some (1, true, .outcome none, 1, .failed (.invalidPattern ['(']
        (.unreadable ⟨['('], ⟨⟨.start, ⟨1, 2⟩⟩, .groupUnclosed⟩⟩))) := by decide +kernel
  obtain ⟨c, used, facts⟩ := Option.map_eq_some_iff.mp seen
  obtain ⟨staged, locked, unmatched, kept, failed⟩ := by simpa only [Prod.mk.injEq] using facts
  have held : c ∈ s.cursors := Session.mem_cursor? used
  have first := failed_match_changes_nothing _ _ _ c held absent (.inl unmatched)
  have second := failed_match_changes_nothing _ _ _ c held broken (.inr ⟨_, failed⟩)
  obtain ⟨unmoved, again⟩ := second.2.1 _ failed
  exact ⟨c, held, staged, locked, ⟨kept, first.1, first.2.2⟩, unmoved, again.trans failed.symm⟩

end TextCursor
