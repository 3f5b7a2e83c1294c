import TextCursor.Proofs.Caching
import TextCursor.Proofs.Coherence
import Mathlib.Data.List.Forall2
/-!
A reset erases history. It takes a cursor back to what it was when it was new, except that patterns
compiled meanwhile are still kept. Cursors that differ in the patterns they keep, and in nothing
else, stay so through every operation and answer alike. So whatever was done before a reset, what
follows it goes as on a new cursor.
-/
namespace TextCursor

variable {text : Text} {options : CursorOptions} {c d : Cursor}

structure Effect.SameButKept {α : Type} (e f : Effect α) : Prop where
  result : e.result = f.result
  cursor : e.cursor = { f.cursor with cache := e.cursor.cache }

theorem Cursor.eq_of_uncached (alike : c.uncached = d.uncached) (settings : c.options = d.options) :
    c = { d with cache := c.cache } := by
  cases c
  cases d
  simp_all [uncached, keeping, withCaching]

theorem Cursor.reset_fresh (h : c.Coherent text options) :
    c.reset.cursor = { ofText text options with cache := c.cache } := by
  have total : c.totalChars = text.length := by rw [h.total, h.buffer]
  simp only [reset, ofText, h.buffer, h.settings, total]

theorem runAll_sameButKept (hc : c.Coherent text options) (hd : d.Coherent text options)
    (sound : c.cache.Sound) (sound' : d.cache.Sound) (alike : c.uncached = d.uncached)
    (ops : List Operation) :
    List.Forall₂ Effect.SameButKept (runAll c ops) (runAll d ops) := by
  induction ops generalizing c d with
  | nil => exact .nil
  | cons op rest ih =>
    have here := run_seen sound sound' alike op
    have after := run_coherent hc op
    have after' := run_coherent hd op
    have alike' : (op.run c).cursor.uncached = (op.run d).cursor.uncached := congrArg Prod.snd here
    have settings : (op.run c).cursor.options = (op.run d).cursor.options :=
      after.settings.trans after'.settings.symm
    constructor
    · exact ⟨congrArg Prod.fst here, Cursor.eq_of_uncached alike' settings⟩
    · exact ih after after' (run_sound sound op) (run_sound sound' op) alike'

/-- After any operations and a reset, a cursor is a new one that keeps patterns already, and every
run gives and leaves what it does on a new cursor, but for kept patterns. -/
theorem reset_erases_history (text : Text) (options : CursorOptions)
    (before after : List Operation) :
    let fresh := Cursor.ofText text options
    let used := runCursor fresh (before ++ [.reset])
    used = { fresh with cache := (runCursor fresh before).cache } ∧
      List.Forall₂ Effect.SameButKept (runAll used after) (runAll fresh after) := by
  intro fresh used
  have coherent := Cursor.ofText_coherent text options
  have reset : used = (runCursor fresh before).reset.cursor := by
    simp only [used, runCursor, List.foldl_append]
    rfl
  have begun : used = { fresh with cache := (runCursor fresh before).cache } :=
    reset.trans (Cursor.reset_fresh (runCursor_coherent coherent before))
  have alike : used.uncached = fresh.uncached := by
    rw [begun]
    rfl
  have sound : fresh.cache.Sound := Cache.empty_sound
  constructor
  · exact begun
  · exact runAll_sameButKept (runCursor_coherent coherent (before ++ [.reset])) coherent
      (runCursor_sound sound (before ++ [.reset])) sound alike after

end TextCursor
