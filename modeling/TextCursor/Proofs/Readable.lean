import TextCursor.Proofs.Outcome
import TextCursor.Proofs.Slicing
/-!
What a slice holds is told without looking at its range again, so a range that cannot be read must
not be answered with. None is: the slices of an answer lie in the text of the cursor, and their ends
between codepoints.
-/
namespace TextCursor

def MatchOutcome.slices (m : MatchOutcome) : List Slice :=
  m.whole.slice :: (m.groups.filterMap id).map Group.slice

def Answer.slices : Answer → List Slice
  | slice s => s.toList
  | outcome m => m.toList.flatMap MatchOutcome.slices
  | done | chunks _ | failed _ => []

structure Slice.ReadableIn (text : Text) (s : Slice) : Prop where
  buffer : s.buffer = text
  made : between? s.buffer s.start s.stop = some s
  read : s.read? = some s.text

theorem Slice.ReadableIn.of_made {text : Text} {s : Slice} (buffer : s.buffer = text)
    (made : between? s.buffer s.start s.stop = some s) : s.ReadableIn text :=
  ⟨buffer, made, read?_eq_some_iff.mpr ⟨(between?_eq_some_iff.mp made).1, rfl⟩⟩

theorem ofMatch_ne_slice (r : Except CursorError (Option MatchOutcome)) (s : Option Slice) :
    Answer.ofMatch r ≠ .slice s := by
  cases r with
  | ok m => exact Answer.noConfusion
  | error e => exact Answer.noConfusion

/-- A slice that stands for itself in an answer was peeked. -/
theorem run_peeked {c : Cursor} {op : Operation} {s : Slice}
    (answered : (op.run c).result = .slice (some s)) :
    ∃ length extra, (c.peekWith length extra).result = some s := by
  cases op with
  | peekWith length extra => exact ⟨length, extra, Answer.slice.inj answered⟩
  | consumeWith length extra => exact ⟨length, extra, Answer.slice.inj answered⟩
  | matchPattern source flags => exact absurd answered (ofMatch_ne_slice _ _)
  | matchWith source flags how => exact absurd answered (ofMatch_ne_slice _ _)
  | matchCompiled pattern how => cases answered
  | peekWhileChunked test size => cases answered
  | acceptWith length offset => cases answered
  | saveWith lock => cases answered
  | cancel => cases answered
  | reset => cases answered

namespace Cursor
variable {text : Text} {options : CursorOptions} {c : Cursor}

theorem peekWith_readable (h : c.Coherent text options) {length extra : Nat} {s : Slice}
    (peeked : (c.peekWith length extra).result = some s) : s.ReadableIn text := by
  have cut := Text.isBoundary_iff_cutAt.mp (coherent_consistent h).boundary
  unfold peekWith at peeked
  split at peeked
  · obtain rfl := Option.some.inj peeked
    rw [h.buffer]
    exact Slice.ReadableIn.of_made rfl (Slice.charsFrom_readable cut _)
  · cases peeked

theorem Places.readable (h : c.Coherent text options) {capture : CaptureMode} {m : MatchOutcome}
    {g : Group} (placed : c.Places capture m g) : g.slice.ReadableIn text := by
  have first := Text.isBoundary_iff_cutAt.mp placed.start_boundary
  have last := Text.isBoundary_iff_cutAt.mp placed.stop_boundary
  rw [← placed.buffer] at first last
  have made := Slice.between?_eq_some_iff.mpr ⟨⟨placed.ordered, first, last⟩, rfl⟩
  exact Slice.ReadableIn.of_made (placed.buffer.trans h.buffer) made

theorem matchAt_readable (h : c.Coherent text options) {p : Pattern} {capture : CaptureMode}
    {m : MatchOutcome} (found : p.matchAt? c.text c.position.byteOffset capture = some m) :
    ∀ s ∈ m.slices, s.ReadableIn text := by
  have reports := matchAt_reports h found
  intro s mem
  rcases List.mem_cons.mp mem with rfl | group
  · have first : some m.whole ∈ m.groups :=
      List.mem_of_getElem? (Option.join_eq_some_iff.mp reports.whole)
    exact (reports.groups m.whole first).readable h
  · obtain ⟨g, listed, rfl⟩ := List.mem_map.mp group
    obtain ⟨_, member, rfl⟩ := List.mem_filterMap.mp listed
    exact (reports.groups g member).readable h

theorem run_readable (h : c.Coherent text options) (op : Operation) :
    ∀ s ∈ (op.run c).result.slices, s.ReadableIn text := by
  intro s
  cases answer : (op.run c).result with
  | slice peeked =>
    intro mem
    obtain rfl := Option.mem_toList.mp mem
    obtain ⟨length, extra, peeked⟩ := run_peeked answer
    exact peekWith_readable h peeked
  | outcome matched =>
    intro mem
    obtain ⟨m, found, held⟩ := List.mem_flatMap.mp mem
    obtain rfl := Option.mem_toList.mp found
    obtain ⟨p, capture, found⟩ := run_found answer
    exact matchAt_readable h found s held
  | done =>
    intro mem
    cases mem
  | chunks r =>
    intro mem
    cases mem
  | failed e =>
    intro mem
    cases mem

theorem runAll_readable (h : c.Coherent text options) (ops : List Operation) :
    ∀ e ∈ runAll c ops, ∀ s ∈ e.result.slices, s.ReadableIn text := by
  induction ops generalizing c with
  | nil =>
    intro e mem
    cases mem
  | cons op rest ih =>
    intro e mem
    rcases List.mem_cons.mp mem with rfl | later
    · exact run_readable h op
    · exact ih (run_coherent h op) e later

end Cursor

/-- Whatever is asked of a new cursor, each slice that it answers with, the groups of its matches
among them, lies in the text of the cursor and can be read. -/
theorem answered_slices_readable (text : Text) (options : CursorOptions) (ops : List Operation) :
    ∀ e ∈ runAll (Cursor.ofText text options) ops,
      ∀ s ∈ e.result.slices, s.ReadableIn text :=
  Cursor.runAll_readable (Cursor.ofText_coherent text options) ops

end TextCursor
