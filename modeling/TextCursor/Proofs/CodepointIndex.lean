import Mathlib.Data.List.Basic
import TextCursor.Proofs.Slicing
/-!
Counting codepoints is counting the places where a text can be cut. The byte index of a count is
such a place, and each place is the index of just one count up to the length of the text. So at the
index of a count a text falls apart into so many codepoints and the rest, in its bytes as well, and
counting on behind a cut is counting in the whole text.
-/
namespace TextCursor

namespace Text
variable {text : Text} {k m n : Nat}

theorem byteIndex_length_append (front rest : Text) :
    byteIndex (front ++ rest) front.length = front.byteLength := by
  rw [← byteLength_take, List.take_left]

theorem cutAt_byteIndex (text : Text) (n : Nat) : text.CutAt (text.byteIndex n) :=
  isBoundary_iff_cutAt.mp (isBoundary_byteIndex text n)

theorem byteIndex_lt (fewer : m < n) (inside : n ≤ text.length) :
    text.byteIndex m < text.byteIndex n := by
  obtain ⟨more, rfl⟩ := Nat.exists_eq_add_of_lt fewer
  have left : 0 < (text.drop m).length := by
    rw [List.length_drop]
    omega
  obtain ⟨c, rest, next⟩ := List.exists_cons_of_length_pos left
  have positive := c.utf8Size_pos
  rw [Nat.add_assoc, byteIndex_add_drop, next, byteIndex]
  omega

theorem cutAt_iff_existsUnique : text.CutAt k ↔ ∃! n, n ≤ text.length ∧ text.byteIndex n = k := by
  constructor
  · intro cut
    obtain ⟨front, rest, rfl, rfl⟩ := cutAt_iff.mp cut
    have inside : front.length ≤ (front ++ rest).length := by
      rw [List.length_append]
      exact Nat.le_add_right _ _
    refine ⟨front.length, ⟨inside, byteIndex_length_append front rest⟩, ?_⟩
    rintro n ⟨counted, same⟩
    rw [← byteIndex_length_append front rest] at same
    -- of two counts up to the length the larger has the larger index
    rcases Nat.lt_trichotomy n front.length with fewer | equal | more
    · exact absurd same (Nat.ne_of_lt (byteIndex_lt fewer inside))
    · exact equal
    · exact absurd same (Nat.ne_of_gt (byteIndex_lt more counted))
  · rintro ⟨n, ⟨_, rfl⟩, _⟩
    exact cutAt_byteIndex text n

theorem charPrefix_append_charSuffix (text : Text) (n : Nat) :
    text.charPrefix n ++ text.charSuffix n = text :=
  takeBytes_append_dropBytes text (text.byteIndex n)

theorem utf8_charPrefix (text : Text) (n : Nat) :
    (text.charPrefix n).flatMap String.utf8EncodeChar =
      (text.flatMap String.utf8EncodeChar).take (text.byteIndex n) := by
  have size : ((text.take n).flatMap String.utf8EncodeChar).length = text.byteIndex n := by
    rw [length_utf8, byteLength_take]
  calc (text.charPrefix n).flatMap String.utf8EncodeChar
      = (text.take n).flatMap String.utf8EncodeChar := by rw [charPrefix_eq_take]
    _ = ((text.take n ++ text.drop n).flatMap String.utf8EncodeChar).take (text.byteIndex n) := by
        rw [List.flatMap_append, ← size, List.take_left]
    _ = (text.flatMap String.utf8EncodeChar).take (text.byteIndex n) := by
        rw [List.take_append_drop]

theorem utf8_charSuffix (text : Text) (n : Nat) :
    (text.charSuffix n).flatMap String.utf8EncodeChar =
      (text.flatMap String.utf8EncodeChar).drop (text.byteIndex n) := by
  have joined : (text.charPrefix n).flatMap String.utf8EncodeChar ++
      (text.charSuffix n).flatMap String.utf8EncodeChar =
        (text.flatMap String.utf8EncodeChar).take (text.byteIndex n) ++
          (text.flatMap String.utf8EncodeChar).drop (text.byteIndex n) := by
    rw [← List.flatMap_append, charPrefix_append_charSuffix, List.take_append_drop]
  rw [utf8_charPrefix] at joined
  exact List.append_cancel_left joined

/-- At the index of `n` the text falls apart into `n` codepoints, or all if there are fewer, and the
rest, and so do its bytes. -/
structure Splits (text : Text) (n : Nat) : Prop where
  boundary : text.CutAt (text.byteIndex n)
  inside : text.byteIndex n ≤ (text.flatMap String.utf8EncodeChar).length
  joined : text.charPrefix n ++ text.charSuffix n = text
  length : (text.charPrefix n).length = min n text.length
  before : (text.charPrefix n).flatMap String.utf8EncodeChar =
    (text.flatMap String.utf8EncodeChar).take (text.byteIndex n)
  behind : (text.charSuffix n).flatMap String.utf8EncodeChar =
    (text.flatMap String.utf8EncodeChar).drop (text.byteIndex n)

theorem splits (text : Text) (n : Nat) : text.Splits n where
  boundary := cutAt_byteIndex text n
  inside := by
    rw [length_utf8]
    exact byteIndex_le_byteLength text n
  joined := charPrefix_append_charSuffix text n
  length := by rw [charPrefix_eq_take, List.length_take]
  before := utf8_charPrefix text n
  behind := utf8_charSuffix text n

end Text

/-- A text splits at the index of every count of codepoints, and a larger count has no smaller
index. The places where it can be cut are the indices of the counts up to its length, each of
another count. What a prefix counts has its length in bytes as index, and counting on behind a split
is counting in the whole text. -/
theorem counts_index_cuts (text : Text) :
    (∀ n, text.Splits n) ∧
    (∀ m n, m ≤ n → text.byteIndex m ≤ text.byteIndex n) ∧
    (∀ k, text.CutAt k ↔ ∃! n, n ≤ text.length ∧ text.byteIndex n = k) ∧
    (∀ front : Text, front <+: text →
      text.byteIndex front.length = (front.flatMap String.utf8EncodeChar).length) ∧
    ∀ m n, text.byteIndex (m + n) = text.byteIndex m + (text.charSuffix m).byteIndex n := by
  refine ⟨Text.splits text, ?_, ?_, ?_, ?_⟩
  · intro m n fewer
    exact Text.byteIndex_mono text fewer
  · intro k
    exact Text.cutAt_iff_existsUnique
  · rintro front ⟨rest, rfl⟩
    rw [Text.byteIndex_length_append, Text.length_utf8]
  · intro m n
    rw [Text.charSuffix_eq_drop]
    exact Text.byteIndex_add_drop text m n

theorem multibyte_counts_index_cuts :
    let text : Text := ['a', 'é', '😀', 'b']
    text.Splits maxCount ∧ text.byteIndex 2 ≤ text.byteIndex maxCount ∧ ¬ text.CutAt 5 ∧
      text.byteIndex ['a', 'é', '😀'].length = 7 ∧
      text.byteIndex (1 + 2) = text.byteIndex 1 + Text.byteIndex ['é', '😀', 'b'] 2 := by
  intro text
  obtain ⟨splits, grows, cuts, fronts, adds⟩ := counts_index_cuts text
  have begun : (['a', 'é', '😀'] : Text) <+: text := by decide
  refine ⟨splits maxCount, grows 2 maxCount (by decide), ?_, fronts _ begun, adds 1 2⟩
  intro cut
  obtain ⟨n, ⟨counted, index⟩, _⟩ := (cuts 5).mp cut
  have none : ∀ n ≤ 4, text.byteIndex n ≠ 5 := by decide
  exact none n counted index

end TextCursor
