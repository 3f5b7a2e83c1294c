import Mathlib.Data.List.Basic
import TextCursor.Count
import TextCursor.Proofs.Utf8
import TextCursor.Text.Slice
/-!
A slice is a range of bytes. It can be read if the range is in order and its ends lie between
codepoints of the buffer, and no other can; then its text has just the bytes of the range. The slice
of so many codepoints from a byte on can be made if a codepoint may begin there, however many are
asked for, and adjacent slices join to the slice of both.
-/
namespace TextCursor

namespace Utf8

def isLead (b : UInt8) : Bool := b < 0x80 || 0xC0 ≤ b

theorem leads_encodeChar (c : Char) : (encodeChar c).countP isLead = 1 := by
  have first {a : UInt8} (lead : a.toNat < 0x80 ∨ 0xC0 ≤ a.toNat) : isLead a = true := by
    simpa [isLead, UInt8.lt_iff_toNat_lt, UInt8.le_iff_toNat_le] using lead
  have tail {b : UInt8} (goes_on : 0x80 ≤ b.toNat ∧ b.toNat < 0xC0) : isLead b = false := by
    simpa [isLead, UInt8.lt_iff_toNat_lt, UInt8.le_iff_toNat_le] using goes_on
  obtain ⟨a, written⟩ | ⟨a, b, written⟩ | ⟨a, b, x, written⟩ | ⟨a, b, x, y, written⟩ :=
    encodeChar_cases c
  · have bytes := encodeChar_eq_one.mp written
    simp [written, first (a := a) (by omega)]
  · have bytes := encodeChar_eq_two.mp written
    simp [written, first (a := a) (by omega), tail (b := b) (by omega)]
  · have bytes := encodeChar_eq_three.mp written
    simp [written, first (a := a) (by omega), tail (b := b) (by omega), tail (b := x) (by omega)]
  · have bytes := encodeChar_eq_four.mp written
    simp [written, first (a := a) (by omega), tail (b := b) (by omega), tail (b := x) (by omega),
      tail (b := y) (by omega)]

theorem encode_append (a b : Text) : encode (a ++ b) = encode a ++ encode b :=
  List.flatMap_append

theorem leads_encode (text : Text) : (encode text).countP isLead = text.length := by
  induction text with
  | nil => rfl
  | cons c rest ih =>
    rw [encode_cons, List.countP_append, leads_encodeChar, ih, List.length_cons]
    omega

theorem length_encode (text : Text) : (encode text).length = text.byteLength := by
  induction text with
  | nil => rfl
  | cons c rest ih =>
    rw [encode_cons, List.length_append, ih, encodeChar_eq, String.length_utf8EncodeChar,
      Text.byteLength]

end Utf8

namespace Text
variable {text : Text} {n start stop : Nat}

/-- Byte index `n` lies between two codepoints, or at one of the ends of the text. -/
def CutAt (text : Text) (n : Nat) : Prop :=
  ∃ front rest, text = front ++ rest ∧ (front.flatMap String.utf8EncodeChar).length = n

theorem cutAt_iff : text.CutAt n ↔ ∃ front rest, text = front ++ rest ∧ front.byteLength = n := by
  simp only [CutAt, ← Utf8.encode_eq, Utf8.length_encode]

theorem isBoundary_iff_cutAt : text.isBoundary n = true ↔ text.CutAt n := by
  rw [cutAt_iff]
  constructor
  · intro boundary
    induction text generalizing n with
    | nil =>
      cases n with
      | zero => exact ⟨[], [], rfl, rfl⟩
      | succ n => cases boundary
    | cons c rest ih =>
      cases n with
      | zero => exact ⟨[], c :: rest, rfl, rfl⟩
      | succ n =>
        rw [isBoundary, Bool.and_eq_true, decide_eq_true_eq] at boundary
        obtain ⟨front, more, rfl, bytes⟩ := ih boundary.2
        refine ⟨c :: front, more, rfl, ?_⟩
        rw [byteLength, bytes]
        omega
  · rintro ⟨front, rest, rfl, rfl⟩
    have here : isBoundary (front ++ rest) (front.byteLength + 0) = true := by
      rw [isBoundary_append]
      cases rest <;> rfl
    exact here

theorem length_utf8 (text : Text) :
    (text.flatMap String.utf8EncodeChar).length = text.byteLength := by
  rw [← Utf8.encode_eq, Utf8.length_encode]

theorem CutAt.le (cut : text.CutAt n) : n ≤ text.byteLength := by
  obtain ⟨front, rest, rfl, rfl⟩ := cutAt_iff.mp cut
  rw [byteLength_append]
  exact Nat.le_add_right _ _

theorem eq_nil_of_byteLength (empty : text.byteLength = 0) : text = [] := by
  cases text with
  | nil => rfl
  | cons c rest =>
    have positive := c.utf8Size_pos
    rw [byteLength] at empty
    omega

theorem CutAt.between (first : text.CutAt start) (second : text.CutAt stop)
    (ordered : start ≤ stop) : ∃ front middle rest, text = front ++ (middle ++ rest) ∧
      front.byteLength = start ∧ middle.byteLength = stop - start := by
  obtain ⟨front, behind, split, before⟩ := cutAt_iff.mp first
  obtain ⟨longer, rest, rfl, within⟩ := cutAt_iff.mp second
  rcases List.append_eq_append_iff.mp split with ⟨middle, grown, same⟩ | ⟨middle, grown, same⟩
  · -- the later cut has fewer codepoints before it, so nothing lies between
    have empty : middle = [] := by
      apply eq_nil_of_byteLength
      rw [grown, byteLength_append] at before
      omega
    rw [empty, List.append_nil] at grown
    refine ⟨front, [], rest, ?_, before, ?_⟩
    · rw [grown, List.nil_append]
    · rw [grown] at before
      rw [byteLength]
      omega
  · refine ⟨front, middle, rest, ?_, before, ?_⟩
    · rw [grown, List.append_assoc]
    · rw [grown, byteLength_append] at within
      omega

end Text

namespace Slice
variable {buffer : Text} {start stop n : Nat} {s : Slice}

/-- What is read of a slice are these bytes, however it is read: its text, its lengths in bytes and
in codepoints, and whether it equals another. -/
structure Reads (s : Slice) (bytes : List UInt8) : Prop where
  text : s.text.flatMap String.utf8EncodeChar = bytes
  byteLength : s.byteLength = bytes.length
  charLength : s.charLength = bytes.countP Utf8.isLead
  sameText : ∀ other : Slice,
    s.sameText other = true ↔ other.text.flatMap String.utf8EncodeChar = bytes

theorem read?_eq_some_iff {t : Text} : s.read? = some t ↔
    (s.start ≤ s.stop ∧ s.buffer.CutAt s.start ∧ s.buffer.CutAt s.stop) ∧ t = s.text := by
  simp only [read?, Text.isBoundary_iff_cutAt, Option.ite_none_right_eq_some, Option.some.injEq,
    eq_comm (b := t)]

/-- What making a slice may look at, reading it looks at anyway. -/
theorem ofRange?_read? (checked : Bool) (buffer : Text) (start stop : Nat) :
    (ofRange? checked buffer start stop).bind read? = read? ⟨buffer, start, stop⟩ := by
  by_cases refused : checked = true ∧ ¬ (start ≤ stop ∧ stop ≤ buffer.byteLength)
  · have unread : read? ⟨buffer, start, stop⟩ = none := by
      rw [Option.eq_none_iff_forall_ne_some]
      intro t read
      obtain ⟨⟨ordered, _, last⟩, _⟩ := read?_eq_some_iff.mp read
      exact refused.2 ⟨ordered, last.le⟩
    rw [ofRange?, if_pos refused, unread, Option.bind_none]
  · rw [ofRange?, if_neg refused, Option.bind_some]

theorem between?_eq_some_iff : between? buffer start stop = some s ↔
    (start ≤ stop ∧ buffer.CutAt start ∧ buffer.CutAt stop) ∧ s = ⟨buffer, start, stop⟩ := by
  constructor
  · intro made
    obtain ⟨range, ranged, read⟩ := Option.bind_eq_some_iff.mp made
    obtain ⟨t, text, rfl⟩ := Option.map_eq_some_iff.mp read
    obtain ⟨_, same⟩ := Option.ite_none_left_eq_some.mp ranged
    obtain rfl := Option.some.inj same
    exact ⟨(read?_eq_some_iff.mp text).1, rfl⟩
  · rintro ⟨valid, rfl⟩
    have read : read? ⟨buffer, start, stop⟩ = some (text ⟨buffer, start, stop⟩) :=
      read?_eq_some_iff.mpr ⟨valid, rfl⟩
    have inside : ¬ (true = true ∧ ¬ (start ≤ stop ∧ stop ≤ buffer.byteLength)) := by
      rintro ⟨_, outside⟩
      exact outside ⟨valid.1, valid.2.2.le⟩
    rw [between?, ofRange?, if_neg inside, Option.bind_some, read, Option.map_some]

/-- Making and reading fails for the ranges that `between?` refuses, and for no others. -/
theorem ofRange?_between? (checked : Bool) (buffer : Text) (start stop : Nat) :
    (ofRange? checked buffer start stop).bind read? = (between? buffer start stop).map text := by
  rw [ofRange?_read?]
  apply Option.ext
  intro t
  rw [read?_eq_some_iff, Option.map_eq_some_iff]
  simp only [between?_eq_some_iff]
  constructor
  · rintro ⟨valid, rfl⟩
    exact ⟨_, ⟨valid, rfl⟩, rfl⟩
  · rintro ⟨_, ⟨valid, rfl⟩, rfl⟩
    exact ⟨valid, rfl⟩

theorem charsFrom?_eq_some_iff : charsFrom? buffer start n = some s ↔
    buffer.CutAt start ∧ s = charsFrom buffer start n := by
  simp only [charsFrom?, Text.isBoundary_iff_cutAt, Option.ite_none_right_eq_some,
    Option.some.injEq, eq_comm (b := s)]

theorem text_range (front middle rest : Text) :
    text ⟨front ++ (middle ++ rest), front.byteLength, front.byteLength + middle.byteLength⟩ =
      middle := by
  rw [text, Text.dropBytes_byteLength, Nat.add_sub_cancel_left, Text.takeBytes_byteLength]

theorem reads_range (ordered : start ≤ stop) (first : buffer.CutAt start)
    (second : buffer.CutAt stop) :
    Reads ⟨buffer, start, stop⟩
      (((buffer.flatMap String.utf8EncodeChar).drop start).take (stop - start)) := by
  obtain ⟨front, middle, rest, rfl, rfl, within⟩ := first.between second ordered
  obtain rfl : stop = front.byteLength + middle.byteLength := by omega
  have bytes : ((Utf8.encode (front ++ (middle ++ rest))).drop front.byteLength).take
      (front.byteLength + middle.byteLength - front.byteLength) = Utf8.encode middle := by
    rw [Nat.add_sub_cancel_left, Utf8.encode_append, Utf8.encode_append,
      ← Utf8.length_encode front, List.drop_left, ← Utf8.length_encode middle, List.take_left]
  rw [← Utf8.encode_eq, bytes]
  constructor
  · rw [text_range, Utf8.encode_eq]
  · rw [byteLength, Utf8.length_encode]
    exact within.symm
  · rw [charLength, text_range, Utf8.leads_encode]
  · intro other
    rw [sameText, text_range, beq_iff_eq, ← Utf8.encode_eq]
    constructor
    · rintro rfl
      rfl
    · intro same
      exact (Utf8.encode_inj same).symm

theorem charsFrom_append (front rest : Text) (n : Nat) :
    (charsFrom (front ++ rest) front.byteLength n).text = rest.take n ∧
      (charsFrom (front ++ rest) front.byteLength n).stop = (front ++ rest.take n).byteLength := by
  constructor
  · rw [text_charsFrom, Text.dropBytes_byteLength]
  · rw [charsFrom, Text.dropBytes_byteLength, Text.byteLength_append, Text.byteLength_take]

theorem charsFrom_readable (cut : buffer.CutAt start) (n : Nat) :
    between? buffer start (charsFrom buffer start n).stop = some (charsFrom buffer start n) := by
  obtain ⟨front, rest, rfl, rfl⟩ := Text.cutAt_iff.mp cut
  have ending : (front ++ rest).CutAt (charsFrom (front ++ rest) front.byteLength n).stop := by
    rw [(charsFrom_append front rest n).2]
    refine Text.cutAt_iff.mpr ⟨front ++ rest.take n, rest.drop n, ?_, rfl⟩
    rw [List.append_assoc, List.take_append_drop]
  exact between?_eq_some_iff.mpr ⟨⟨Nat.le_add_right _ _, cut, ending⟩, rfl⟩

theorem charsFrom_add (cut : buffer.CutAt start) (m n : Nat) :
    buffer.CutAt (charsFrom buffer start m).stop ∧
      (charsFrom buffer start (m + n)).text = (charsFrom buffer start m).text ++
        (charsFrom buffer (charsFrom buffer start m).stop n).text ∧
      (charsFrom buffer start (m + n)).stop =
        (charsFrom buffer (charsFrom buffer start m).stop n).stop := by
  obtain ⟨front, rest, rfl, rfl⟩ := Text.cutAt_iff.mp cut
  obtain ⟨first, ending⟩ := charsFrom_append front rest m
  obtain ⟨both, last⟩ := charsFrom_append front rest (m + n)
  have split : front ++ rest = (front ++ rest.take m) ++ rest.drop m := by
    rw [List.append_assoc, List.take_append_drop]
  obtain ⟨second, behind⟩ := charsFrom_append (front ++ rest.take m) (rest.drop m) n
  rw [← split, ← ending] at second behind
  refine ⟨?_, ?_, ?_⟩
  · rw [ending]
    exact Text.cutAt_iff.mpr ⟨_, _, split, rfl⟩
  · rw [first, both, second, List.take_add]
  · rw [last, behind, List.take_add, List.append_assoc]

end Slice

/-- Making a slice of a range and reading it succeeds exactly if the range is in order and inside the
buffer, both its ends lying between codepoints, whatever the making looks at; then the bytes of the
range are read. A slice of `n` codepoints can be made exactly if its start is such an end, for every
`n`, and holds so many codepoints from there on, or all that are left; it is the slice of a range.
One of `m` codepoints and one of `n` behind it make up that of `m + n`. -/
theorem slices_hold_their_range (buffer : Text) :
    let bytes := buffer.flatMap String.utf8EncodeChar
    (∀ start stop,
      (∀ checked, (Slice.ofRange? checked buffer start stop).bind Slice.read? =
        (Slice.between? buffer start stop).map Slice.text) ∧
      (Slice.between? buffer start stop = none ↔
        ¬ (start ≤ stop ∧ stop ≤ bytes.length ∧ buffer.CutAt start ∧ buffer.CutAt stop)) ∧
      ∀ s, Slice.between? buffer start stop = some s →
        s.Reads ((bytes.drop start).take (stop - start))) ∧
    (∀ start n,
      (Slice.charsFrom? buffer start n = none ↔ bytes.length < start ∨ ¬ buffer.CutAt start) ∧
      ∀ s, Slice.charsFrom? buffer start n = some s →
        Slice.between? buffer start s.stop = some s ∧
        ∃ front rest, buffer = front ++ rest ∧
          (front.flatMap String.utf8EncodeChar).length = start ∧
          s.text = rest.take (min n rest.length)) ∧
    ∀ start m n s, Slice.charsFrom? buffer start m = some s →
      ∃ t u, Slice.charsFrom? buffer s.stop n = some t ∧
        Slice.charsFrom? buffer start (m + n) = some u ∧
        u.text = s.text ++ t.text ∧ u.stop = t.stop := by
  intro bytes
  have total : bytes.length = buffer.byteLength := by
    rw [← Utf8.length_encode, Utf8.encode_eq]
  have inside {n : Nat} (cut : buffer.CutAt n) : n ≤ bytes.length := total ▸ cut.le
  refine ⟨?_, ?_, ?_⟩
  · intro start stop
    refine ⟨fun checked => Slice.ofRange?_between? checked buffer start stop, ?_, ?_⟩
    · simp only [Option.eq_none_iff_forall_ne_some, Ne, Slice.between?_eq_some_iff]
      constructor
      · rintro refused ⟨ordered, _, first, second⟩
        exact refused _ ⟨⟨ordered, first, second⟩, rfl⟩
      · rintro invalid s ⟨⟨ordered, first, second⟩, _⟩
        exact invalid ⟨ordered, inside second, first, second⟩
    · intro s made
      obtain ⟨⟨ordered, first, second⟩, rfl⟩ := Slice.between?_eq_some_iff.mp made
      exact Slice.reads_range ordered first second
  · intro start n
    constructor
    · simp only [Option.eq_none_iff_forall_ne_some, Ne, Slice.charsFrom?_eq_some_iff]
      constructor
      · intro refused
        exact .inr fun cut => refused _ ⟨cut, rfl⟩
      · rintro (beyond | uncut) s ⟨cut, _⟩
        · exact Nat.not_le_of_lt beyond (inside cut)
        · exact uncut cut
    · intro s made
      obtain ⟨cut, rfl⟩ := Slice.charsFrom?_eq_some_iff.mp made
      refine ⟨Slice.charsFrom_readable cut n, ?_⟩
      obtain ⟨front, rest, rfl, within⟩ := Text.cutAt_iff.mp cut
      refine ⟨front, rest, rfl, ?_, ?_⟩
      · rw [← Utf8.encode_eq, Utf8.length_encode, within]
      · rw [← within, (Slice.charsFrom_append front rest n).1, ← List.take_eq_take_min]
  · intro start m n s made
    obtain ⟨cut, rfl⟩ := Slice.charsFrom?_eq_some_iff.mp made
    obtain ⟨again, joined, ending⟩ := Slice.charsFrom_add cut m n
    exact ⟨_, _, Slice.charsFrom?_eq_some_iff.mpr ⟨again, rfl⟩,
      Slice.charsFrom?_eq_some_iff.mpr ⟨cut, rfl⟩, joined, ending⟩

/-- The codepoints of `aé😀b` begin at bytes 0, 1, 3 and 7; a range that ends inside one can be made
but not read. -/
theorem multibyte_slices_hold_their_range :
    let buffer : Text := ['a', 'é', '😀', 'b']
    ((Slice.ofRange? true buffer 1 5).isSome ∧
      (Slice.ofRange? true buffer 1 5).bind Slice.read? = none) ∧
    (∃ s, Slice.between? buffer 1 7 = some s ∧ s.Reads [0xC3, 0xA9, 0xF0, 0x9F, 0x98, 0x80]) ∧
    (∃ s, Slice.charsFrom? buffer 3 maxCount = some s ∧ Slice.between? buffer 3 s.stop = some s) ∧
    ∃ s t u, Slice.charsFrom? buffer 1 1 = some s ∧ Slice.charsFrom? buffer s.stop 1 = some t ∧
      Slice.charsFrom? buffer 1 (1 + 1) = some u ∧ u.text = s.text ++ t.text := by
  intro buffer
  obtain ⟨ranges, counts, joined⟩ := slices_hold_their_range buffer
  have inner : Slice.between? buffer 1 5 = none := by decide
  have range : Slice.between? buffer 1 7 = some ⟨buffer, 1, 7⟩ := by decide
  have rest : Slice.charsFrom? buffer 3 maxCount = some ⟨buffer, 3, 8⟩ := by decide
  have first : Slice.charsFrom? buffer 1 1 = some ⟨buffer, 1, 3⟩ := by decide
  obtain ⟨t, u, second, both, text, _⟩ := joined 1 1 1 _ first
  refine ⟨⟨by decide, ?_⟩, ?_, ?_, ?_⟩
  · rw [(ranges 1 5).1 true, inner, Option.map_none]
  · exact ⟨_, range, (ranges 1 7).2.2 _ range⟩
  · exact ⟨_, rest, ((counts 3 maxCount).2 _ rest).1⟩
  · exact ⟨_, t, u, first, second, both, text⟩

end TextCursor
