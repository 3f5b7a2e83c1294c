import Mathlib.Data.List.Basic
import TextCursor.Proofs.Coherence
/-!
Line and column order the places of a text, and tell them apart. The column falls back at each line
feed, but only as the line grows, so every codepoint leads to a later place. Hence of two positions
in one text the one behind more codepoints is the later in every coordinate, and positions that are
displayed alike are the same.
-/
namespace TextCursor

namespace Position

structure Before (p q : Position) : Prop where
  offset : p.offset < q.offset
  byteOffset : p.byteOffset < q.byteOffset
  place : p.line < q.line ∨ p.line = q.line ∧ p.column < q.column

theorem Before.trans {p q r : Position} (first : p.Before q) (later : q.Before r) :
    p.Before r where
  offset := Nat.lt_trans first.offset later.offset
  byteOffset := Nat.lt_trans first.byteOffset later.byteOffset
  place := by
    have here := first.place
    have there := later.place
    omega

theorem next_before (p : Position) (c : Char) : p.Before (p.next c) where
  offset := by
    rw [offset_next]
    exact Nat.lt_succ_self _
  byteOffset := by
    rw [byteOffset_next]
    exact Nat.lt_add_of_pos_right c.utf8Size_pos
  place := by
    unfold next
    split
    · exact .inl (Nat.lt_succ_self _)
    · exact .inr ⟨rfl, Nat.lt_succ_self _⟩

theorem advanceOver_before (p : Position) {text : Text} (some_text : text ≠ []) :
    p.Before (p.advanceOver text) := by
  induction text generalizing p with
  | nil => exact absurd rfl some_text
  | cons c rest ih =>
    have first := next_before p c
    cases rest with
    | nil => exact first
    | cons d rest => exact first.trans (ih (p.next c) (List.cons_ne_nil d rest))

theorem prefix_before (p : Position) {a b : Text} (shorter : a <+: b) (proper : a ≠ b) :
    (p.advanceOver a).Before (p.advanceOver b) := by
  obtain ⟨rest, rfl⟩ := shorter
  have more : rest ≠ [] := by
    rintro rfl
    exact proper (List.append_nil a).symm
  rw [advanceOver_append]
  exact advanceOver_before _ more

theorem LiesIn.before {p q : Position} {text : Text} (hp : p.LiesIn text) (hq : q.LiesIn text)
    (fewer : p.offset < q.offset) : p.Before q := by
  have inside := hq.inside
  have shorter : text.take p.offset <+: text.take q.offset := by
    rw [List.prefix_take_iff, List.length_take]
    exact ⟨List.take_prefix _ _, by omega⟩
  have proper : text.take p.offset ≠ text.take q.offset := by
    intro same
    have lengths := congrArg List.length same
    rw [List.length_take, List.length_take] at lengths
    omega
  rw [hp.walked, hq.walked]
  exact prefix_before start shorter proper

/-- The digits of a line hold no colon, so the first colon ends them. -/
theorem display_inj {p q : Position} (shown : p.display = q.display) :
    p.line = q.line ∧ p.column = q.column := by
  have no_colon (n : Nat) : ':' ∉ Nat.toDigits 10 n := by
    intro listed
    have digit := Nat.isDigit_of_mem_toDigits (by decide) (by decide) listed
    exact absurd digit (by decide)
  have lists (r : Position) :
      r.display.toList = Nat.toDigits 10 r.line ++ ':' :: Nat.toDigits 10 r.column := by
    simp [display, Nat.toString_eq_repr]
  have same := congrArg String.toList shown
  rw [lists, lists] at same
  obtain ⟨line, _, column⟩ :=
    (List.append_cons_inj_of_notMem (no_colon _) (no_colon _)).mp same
  have digits_inj {m n : Nat} (digits : Nat.toDigits 10 m = Nat.toDigits 10 n) : m = n := by
    rw [← Nat.ofDigitChars_ten_toDigits (n := m), digits, Nat.ofDigitChars_ten_toDigits]
  exact ⟨digits_inj line, digits_inj column⟩

theorem LiesIn.eq_of_display {p q : Position} {text : Text} (hp : p.LiesIn text)
    (hq : q.LiesIn text) (shown : p.display = q.display) : p = q := by
  obtain ⟨line, column⟩ := display_inj shown
  rcases Nat.lt_trichotomy p.offset q.offset with fewer | same | more
  · have place := (hp.before hq fewer).place
    omega
  · rw [hp.walked, hq.walked, same]
  · have place := (hq.before hp more).place
    omega

end Position

def Cursor.held (c : Cursor) : List Position := c.position :: c.checkpoint.snapshot.toList

theorem Cursor.held_lies {text : Text} {options : CursorOptions} {c : Cursor}
    (h : c.Coherent text options) : ∀ p ∈ c.held, p.LiesIn text := by
  intro p held
  rw [← h.buffer]
  rcases List.mem_cons.mp held with here | kept
  · rw [here]
    exact h.place
  · exact (h.snapshot p (Option.mem_toList.mp kept)).1

/-- Behind more of a text there is a later place, however its lines are arranged. Two positions that
cursors over the text hold after any runs, or one cursor at any two moments of a run, are the same if
they are displayed alike. -/
theorem display_identifies_position (text : Text) :
    (∀ a b : Text, a <+: b → a ≠ b → b <+: text →
      (Position.start.advanceOver a).Before (Position.start.advanceOver b)) ∧
    ∀ options options' ops ops',
      ∀ p ∈ (runCursor (Cursor.ofText text options) ops).held,
      ∀ q ∈ (runCursor (Cursor.ofText text options') ops').held,
        p.display = q.display → p = q := by
  constructor
  · intro a b shorter proper _
    exact Position.prefix_before .start shorter proper
  · intro options options' ops ops' p hp q hq shown
    have coherent := runCursor_coherent (Cursor.ofText_coherent text options) ops
    have coherent' := runCursor_coherent (Cursor.ofText_coherent text options') ops'
    exact (Cursor.held_lies coherent p hp).eq_of_display (Cursor.held_lies coherent' q hq) shown

theorem line_feed_leads_on :
    let text : Text := ['a', 'é', '\n', 'b']
    let locked := runCursor (Cursor.ofText text {}) [.consumeWith 3 0, .saveWith true, .acceptWith 1 0]
    let again := runCursor (Cursor.ofText text {}) [.consumeWith 2 0, .consumeWith 1 0]
    (Position.start.advanceOver ['a', 'é']).Before (Position.start.advanceOver ['a', 'é', '\n']) ∧
      ⟨2, 1, 3, 4⟩ ∈ locked.held ∧ locked.position ≠ ⟨2, 1, 3, 4⟩ ∧
      again.position.display = "2:1" ∧ again.position = ⟨2, 1, 3, 4⟩ := by
  intro text locked again
  obtain ⟨ordered, told⟩ := display_identifies_position text
  have kept : ⟨2, 1, 3, 4⟩ ∈ locked.held := by decide
  have shown : again.position.display = "2:1" := by decide
  have shorter : ['a', 'é'] <+: ['a', 'é', '\n'] := by decide
  have inside : ['a', 'é', '\n'] <+: text := by decide
  refine ⟨ordered _ _ shorter (by decide) inside, kept, by decide, shown, ?_⟩
  exact told {} {} _ _ _ List.mem_cons_self ⟨2, 1, 3, 4⟩ kept shown

end TextCursor
