/-!
Text is a list of codepoints, and every length that a caller states counts codepoints. Positions
also carry indices into the UTF-8 form, so this module relates the two measures: `byteIndex` goes
from a codepoint count to a byte index, `takeBytes` and `dropBytes` cut at a byte index, and
`isBoundary` tells the byte indices at which a codepoint starts or the text ends.
-/
namespace TextCursor

abbrev Text := List Char

theorem toNat_ofNat {n : Nat} (valid : n.isValidChar) : (Char.ofNat n).toNat = n := by
  rw [Char.ofNat, dif_pos valid]
  exact UInt32.toNat_ofNatLT

namespace Text

def byteLength : Text → Nat
  | [] => 0
  | c :: rest => c.utf8Size + byteLength rest

/-- The byte index of codepoint `n`, or the byte length of a text without that many codepoints. -/
def byteIndex : Text → Nat → Nat
  | [], _ => 0
  | _ :: _, 0 => 0
  | c :: rest, n + 1 => c.utf8Size + byteIndex rest n

/-- The codepoints that start before byte index `n`. -/
def takeBytes : Text → Nat → Text
  | [], _ => []
  | _ :: _, 0 => []
  | c :: rest, n + 1 => c :: takeBytes rest (n + 1 - c.utf8Size)

def dropBytes : Text → Nat → Text
  | [], _ => []
  | c :: rest, 0 => c :: rest
  | c :: rest, n + 1 => dropBytes rest (n + 1 - c.utf8Size)

/-- Whether a codepoint starts at byte index `n`, or the text ends there. -/
def isBoundary : Text → Nat → Bool
  | _, 0 => true
  | [], _ + 1 => false
  | c :: rest, n + 1 => c.utf8Size ≤ n + 1 && isBoundary rest (n + 1 - c.utf8Size)

def charPrefix (text : Text) (n : Nat) : Text := text.takeBytes (text.byteIndex n)

def charSuffix (text : Text) (n : Nat) : Text := text.dropBytes (text.byteIndex n)

theorem byteLength_append (a b : Text) : byteLength (a ++ b) = byteLength a + byteLength b := by
  induction a with
  | nil => simp [byteLength]
  | cons c rest ih => simp [byteLength, ih, Nat.add_assoc]

theorem takeBytes_append_dropBytes (text : Text) (n : Nat) :
    takeBytes text n ++ dropBytes text n = text := by
  induction text generalizing n with
  | nil => rfl
  | cons c rest ih => cases n <;> simp [takeBytes, dropBytes, ih]

theorem byteIndex_zero (text : Text) : byteIndex text 0 = 0 := by
  cases text <;> rfl

theorem dropBytes_zero (text : Text) : dropBytes text 0 = text := by
  cases text <;> rfl

theorem takeBytes_zero (text : Text) : takeBytes text 0 = [] := by
  cases text <;> rfl

theorem takeBytes_cons_add (c : Char) (rest : Text) (n : Nat) :
    takeBytes (c :: rest) (c.utf8Size + n) = c :: takeBytes rest n := by
  have positive := c.utf8Size_pos
  obtain ⟨k, size⟩ : ∃ k, c.utf8Size = k + 1 := ⟨c.utf8Size - 1, by omega⟩
  rw [size, Nat.add_right_comm, takeBytes, size]
  exact congrArg (c :: takeBytes rest ·) (by omega)

theorem dropBytes_cons_add (c : Char) (rest : Text) (n : Nat) :
    dropBytes (c :: rest) (c.utf8Size + n) = dropBytes rest n := by
  have positive := c.utf8Size_pos
  obtain ⟨k, size⟩ : ∃ k, c.utf8Size = k + 1 := ⟨c.utf8Size - 1, by omega⟩
  rw [size, Nat.add_right_comm, dropBytes, size]
  exact congrArg (dropBytes rest ·) (by omega)

theorem isBoundary_cons_add (c : Char) (rest : Text) (n : Nat) :
    isBoundary (c :: rest) (c.utf8Size + n) = isBoundary rest n := by
  have positive := c.utf8Size_pos
  obtain ⟨k, size⟩ : ∃ k, c.utf8Size = k + 1 := ⟨c.utf8Size - 1, by omega⟩
  have rest_index : k + n + 1 - (k + 1) = n := by omega
  rw [size, Nat.add_right_comm, isBoundary, size, rest_index]
  simp only [Bool.and_eq_right_iff_imp, decide_eq_true_eq]
  omega

theorem takeBytes_byteIndex (text : Text) (n : Nat) :
    takeBytes text (byteIndex text n) = text.take n := by
  induction text generalizing n with
  | nil => simp [takeBytes]
  | cons c rest ih =>
    cases n with
    | zero => rfl
    | succ n => rw [byteIndex, takeBytes_cons_add, ih, List.take_succ_cons]

theorem dropBytes_byteIndex (text : Text) (n : Nat) :
    dropBytes text (byteIndex text n) = text.drop n := by
  induction text generalizing n with
  | nil => simp [dropBytes]
  | cons c rest ih =>
    cases n with
    | zero => rfl
    | succ n => rw [byteIndex, dropBytes_cons_add, ih, List.drop_succ_cons]

theorem isBoundary_byteIndex (text : Text) (n : Nat) : text.isBoundary (text.byteIndex n) := by
  induction text generalizing n with
  | nil => rfl
  | cons c rest ih =>
    cases n with
    | zero => rfl
    | succ n => rw [byteIndex, isBoundary_cons_add]; exact ih n

theorem charPrefix_eq_take (text : Text) (n : Nat) : text.charPrefix n = text.take n :=
  takeBytes_byteIndex text n

theorem charSuffix_eq_drop (text : Text) (n : Nat) : text.charSuffix n = text.drop n :=
  dropBytes_byteIndex text n

theorem byteLength_take (text : Text) (n : Nat) :
    byteLength (text.take n) = text.byteIndex n := by
  induction text generalizing n with
  | nil => simp [byteLength, byteIndex]
  | cons c rest ih =>
    cases n with
    | zero => rfl
    | succ n => rw [List.take_succ_cons, byteLength, ih, byteIndex]

theorem dropBytes_append (p text : Text) (n : Nat) :
    dropBytes (p ++ text) (p.byteLength + n) = text.dropBytes n := by
  induction p with
  | nil => rw [byteLength, Nat.zero_add, List.nil_append]
  | cons c rest ih => rw [List.cons_append, byteLength, Nat.add_assoc, dropBytes_cons_add, ih]

theorem takeBytes_append (p text : Text) (n : Nat) :
    takeBytes (p ++ text) (p.byteLength + n) = p ++ text.takeBytes n := by
  induction p with
  | nil => rw [byteLength, Nat.zero_add, List.nil_append, List.nil_append]
  | cons c rest ih =>
    rw [List.cons_append, byteLength, Nat.add_assoc, takeBytes_cons_add, ih, List.cons_append]

theorem dropBytes_byteLength (p text : Text) : dropBytes (p ++ text) p.byteLength = text := by
  have dropped := dropBytes_append p text 0
  rwa [Nat.add_zero, dropBytes_zero] at dropped

theorem takeBytes_byteLength (p text : Text) : takeBytes (p ++ text) p.byteLength = p := by
  have taken := takeBytes_append p text 0
  rwa [Nat.add_zero, takeBytes_zero, List.append_nil] at taken

theorem isBoundary_append (p text : Text) (n : Nat) :
    isBoundary (p ++ text) (p.byteLength + n) = text.isBoundary n := by
  induction p with
  | nil => rw [byteLength, Nat.zero_add, List.nil_append]
  | cons c rest ih => rw [List.cons_append, byteLength, Nat.add_assoc, isBoundary_cons_add, ih]

theorem byteIndex_lt_byteLength (text : Text) (n : Nat) (h : n < text.length) :
    text.byteIndex n < text.byteLength := by
  induction text generalizing n with
  | nil => simp at h
  | cons c rest ih =>
    have positive := c.utf8Size_pos
    cases n with
    | zero =>
      simp only [byteIndex, byteLength]
      omega
    | succ n =>
      have tail := ih n (by simpa using h)
      simp only [byteIndex, byteLength]
      omega

theorem byteIndex_le_byteLength (text : Text) (n : Nat) :
    text.byteIndex n ≤ text.byteLength := by
  by_cases inside : n < text.length
  · exact Nat.le_of_lt (byteIndex_lt_byteLength text n inside)
  · have whole := byteLength_take text n
    rw [List.take_of_length_le (by omega)] at whole
    exact Nat.le_of_eq whole.symm

theorem byteIndex_add_drop (text : Text) (m n : Nat) :
    text.byteIndex (m + n) = text.byteIndex m + byteIndex (text.drop m) n := by
  rw [← byteLength_take, ← byteLength_take, ← byteLength_take, List.take_add, byteLength_append]

/-- The slice between two codepoint counts holds the codepoints between them. -/
theorem takeBytes_dropBytes_byteIndex (text : Text) (a b : Nat) :
    takeBytes (text.dropBytes (text.byteIndex a)) (text.byteIndex b - text.byteIndex a) =
      (text.drop a).take (b - a) := by
  rw [dropBytes_byteIndex]
  by_cases ordered : a ≤ b
  · obtain ⟨k, rfl⟩ := Nat.exists_eq_add_of_le ordered
    rw [byteIndex_add_drop, Nat.add_sub_cancel_left, Nat.add_sub_cancel_left, takeBytes_byteIndex]
  · obtain ⟨k, rfl⟩ := Nat.exists_eq_add_of_le (Nat.le_of_not_le ordered)
    have empty : text.byteIndex b - text.byteIndex (b + k) = 0 := by
      rw [byteIndex_add_drop]
      omega
    have none_left : b - (b + k) = 0 := by omega
    rw [empty, none_left, takeBytes_zero, List.take_zero]

theorem byteIndex_mono (text : Text) {a b : Nat} (h : a ≤ b) :
    text.byteIndex a ≤ text.byteIndex b := by
  obtain ⟨k, rfl⟩ := Nat.exists_eq_add_of_le h
  rw [byteIndex_add_drop]
  exact Nat.le_add_right _ _

end Text

end TextCursor
