import Mathlib.Data.List.DropRight
import TextCursor.Proofs.PositionOrder
import TextCursor.Proofs.Slicing
/-!
Where a text leads is told from the text as a whole. Lines, codepoints and bytes are only ever added
to, so walking over one text and then another is walking over both. The column starts anew at each
line feed: behind one it is told by what follows the last, whatever came before, and only a text
without any adds to the column that it began at. No coordinate on the way is larger than these sums
allow, so none overflows while a cursor walks over a text that fits in memory.
-/
namespace TextCursor

namespace Text

def lastLine (text : Text) : Text := text.rtakeWhile (· ≠ '\n')

theorem lastLine_of_notMem {text : Text} (unbroken : '\n' ∉ text) : text.lastLine = text := by
  refine List.rtakeWhile_eq_self_iff.mpr fun c listed => decide_eq_true ?_
  rintro rfl
  exact unbroken listed

theorem notMem_lastLine (text : Text) : '\n' ∉ text.lastLine := by
  intro listed
  have differs := List.mem_rtakeWhile_imp (p := (· ≠ '\n')) listed
  exact of_decide_eq_true differs rfl

theorem exists_append_lastLine {text : Text} (broken : '\n' ∈ text) :
    ∃ front, text = front ++ '\n' :: text.lastLine := by
  have split : text.rdropWhile (· ≠ '\n') ++ text.lastLine = text :=
    List.rdropWhile_append_rtakeWhile
  rcases List.eq_nil_or_concat' (text.rdropWhile (· ≠ '\n')) with nothing | ⟨front, c, ended⟩
  · -- then the whole text would be its last line
    rw [nothing, List.nil_append] at split
    rw [← split] at broken
    exact absurd broken text.notMem_lastLine
  · have feed : c = '\n' := by
      have last := List.rdropWhile_last_not (· ≠ '\n') text (by rw [ended]; simp)
      simp only [ended, List.getLast_append_singleton] at last
      simpa using last
    refine ⟨front, ?_⟩
    rw [ended, feed, List.append_assoc, List.singleton_append] at split
    exact split.symm

theorem length_le_byteLength (text : Text) : text.length ≤ text.byteLength := by
  induction text with
  | nil => exact Nat.le_refl 0
  | cons c rest ih =>
    have positive := c.utf8Size_pos
    rw [List.length_cons, byteLength]
    omega

end Text

namespace Position
variable {p : Position} {text walked : Text}

theorem line_next (p : Position) (c : Char) :
    (p.next c).line = p.line + if c = '\n' then 1 else 0 := by
  unfold next
  split <;> rfl

theorem column_next (p : Position) (c : Char) :
    (p.next c).column = if c = '\n' then 1 else p.column + 1 := by
  unfold next
  split <;> rfl

theorem line_advanceOver (p : Position) (text : Text) :
    (p.advanceOver text).line = p.line + text.count '\n' := by
  induction text generalizing p with
  | nil => rfl
  | cons c rest ih =>
    have step := ih (p.next c)
    rw [line_next] at step
    rw [List.count_cons]
    simp only [beq_iff_eq]
    exact step.trans (by omega)

theorem column_advanceOver_of_notMem (p : Position) (unbroken : '\n' ∉ text) :
    (p.advanceOver text).column = p.column + text.length := by
  induction text generalizing p with
  | nil => rfl
  | cons c rest ih =>
    rw [List.mem_cons, not_or] at unbroken
    have step := ih (p.next c) unbroken.2
    rw [column_next, if_neg (Ne.symm unbroken.1)] at step
    rw [List.length_cons]
    exact step.trans (by omega)

theorem column_advanceOver (p : Position) (text : Text) :
    (p.advanceOver text).column =
      if '\n' ∈ text then 1 + text.lastLine.length else p.column + text.length := by
  split
  · rename_i broken
    obtain ⟨front, split⟩ := Text.exists_append_lastLine broken
    have rest := column_advanceOver_of_notMem ((p.advanceOver front).next '\n')
      text.notMem_lastLine
    rw [column_next, if_pos rfl] at rest
    calc (p.advanceOver text).column
        = (p.advanceOver (front ++ '\n' :: text.lastLine)).column := by rw [← split]
      _ = (((p.advanceOver front).next '\n').advanceOver text.lastLine).column := by
          rw [advanceOver_append]; rfl
      _ = 1 + text.lastLine.length := rest
  · rename_i unbroken
    exact column_advanceOver_of_notMem p unbroken

theorem column_advanceOver_le (p : Position) (text : Text) :
    (p.advanceOver text).column ≤ p.column + text.length := by
  induction text generalizing p with
  | nil => exact Nat.le_refl _
  | cons c rest ih =>
    have further : (p.next c).column ≤ p.column + 1 := by
      rw [column_next]
      split <;> omega
    have step := ih (p.next c)
    rw [List.length_cons]
    exact Nat.le_trans step (by omega)

structure Fits (p : Position) : Prop where
  line : p.line ≤ maxCount
  column : p.column ≤ maxCount
  offset : p.offset ≤ maxCount
  byteOffset : p.byteOffset ≤ maxCount

/-- What walking over `text` can add to each coordinate leaves it a count that can be held. -/
structure HasRoom (p : Position) (text : Text) : Prop where
  line : p.line + text.count '\n' ≤ maxCount
  column : p.column + text.length ≤ maxCount
  offset : p.offset + text.length ≤ maxCount
  byteOffset : p.byteOffset + (text.flatMap String.utf8EncodeChar).length ≤ maxCount

theorem advanceOver_fits (room : p.HasRoom text) (begun : walked <+: text) :
    (p.advanceOver walked).Fits := by
  have lines := room.line
  have columns := room.column
  have offsets := room.offset
  have bytes := room.byteOffset
  obtain ⟨rest, rfl⟩ := begun
  rw [List.count_append] at lines
  rw [List.length_append] at columns offsets
  rw [Text.length_utf8, Text.byteLength_append] at bytes
  constructor
  · rw [line_advanceOver]
    omega
  · exact Nat.le_trans (column_advanceOver_le p walked) (by omega)
  · rw [offset_advanceOver]
    omega
  · rw [byteOffset_advanceOver]
    omega

theorem start_hasRoom (held : text.byteLength < maxCount) : start.HasRoom text := by
  have codepoints := text.length_le_byteLength
  have lines := List.count_le_length (a := '\n') (l := text)
  constructor <;> simp only [start, Text.length_utf8] <;> omega

theorem advanceOver_eq (p : Position) (text : Text) :
    p.advanceOver text =
      { line := p.line + text.count '\n'
        column := if '\n' ∈ text then 1 + text.lastLine.length else p.column + text.length
        offset := p.offset + text.length
        byteOffset := p.byteOffset + text.byteLength } := by
  rw [← line_advanceOver, ← column_advanceOver, ← offset_advanceOver, ← byteOffset_advanceOver]

theorem start_advanceOver (walked : Text) :
    start.advanceOver walked =
      ⟨1 + walked.count '\n', 1 + walked.lastLine.length, walked.length, walked.byteLength⟩ := by
  have column : (if '\n' ∈ walked then 1 + walked.lastLine.length else 1 + walked.length) =
      1 + walked.lastLine.length := by
    split
    · rfl
    · rename_i unbroken
      rw [Text.lastLine_of_notMem unbroken]
  rw [advanceOver_eq]
  simp only [start, column, Nat.zero_add]

end Position

/-- Walking over one text and then another is walking over both. A text adds its line feeds, its
codepoints and its bytes; it leads to the column behind its last line, or, if it has no line feed,
as many columns on as it has codepoints. Where these sums can be held, so can all coordinates on the
way. -/
theorem advances_add_up (p : Position) :
    (∀ a b : Text, (p.advanceOver a).advanceOver b = p.advanceOver (a ++ b)) ∧
    ∀ text : Text,
      p.advanceOver text =
        { line := p.line + text.count '\n'
          column := if '\n' ∈ text then 1 + text.lastLine.length else p.column + text.length
          offset := p.offset + text.length
          byteOffset := p.byteOffset + (text.flatMap String.utf8EncodeChar).length } ∧
      (p.HasRoom text → ∀ walked, walked <+: text → (p.advanceOver walked).Fits) := by
  constructor
  · intro a b
    exact (Position.advanceOver_append p a b).symm
  · intro text
    constructor
    · rw [Text.length_utf8]
      exact Position.advanceOver_eq p text
    · intro room walked begun
      exact Position.advanceOver_fits room begun

theorem last_counts_add_up :
    let p : Position := ⟨maxCount - 1, maxCount - 3, maxCount - 3, maxCount - 4⟩
    p.HasRoom ['é', '\n', 'b'] ∧ (p.advanceOver ['é', '\n']).Fits ∧
      (p.advanceOver ['é', '\n']).advanceOver ['b'] = ⟨maxCount, 2, maxCount, maxCount⟩ := by
  intro p
  have room : p.HasRoom ['é', '\n', 'b'] := by constructor <;> decide
  have begun : ['é', '\n'] <+: ['é', '\n', 'b'] := by decide
  obtain ⟨joined, told⟩ := advances_add_up p
  refine ⟨room, (told _).2 room _ begun, ?_⟩
  rw [joined, List.cons_append, List.cons_append, List.nil_append, (told _).1]
  decide

/-- Every position that a cursor holds after any run is told from the text before it, and a text
that fits in memory leads to no count beyond the last. -/
theorem held_positions_told (text : Text) (options : CursorOptions) (ops : List Operation) :
    ∀ p ∈ (runCursor (Cursor.ofText text options) ops).held,
      (∃ walked : Text, walked <+: text ∧ p =
        ⟨1 + walked.count '\n', 1 + walked.lastLine.length, walked.length, walked.byteLength⟩) ∧
      (text.byteLength < maxCount → p.Fits) := by
  intro p held
  have coherent := runCursor_coherent (Cursor.ofText_coherent text options) ops
  have lies := Cursor.held_lies coherent p held
  constructor
  · refine ⟨text.take p.offset, List.take_prefix _ _, ?_⟩
    rw [← Position.start_advanceOver]
    exact lies.walked
  · intro countable
    rw [lies.walked]
    exact Position.advanceOver_fits (Position.start_hasRoom countable) (List.take_prefix _ _)

end TextCursor
