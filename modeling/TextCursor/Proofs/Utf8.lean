import Mathlib.Order.Bounds.Basic
import Mathlib.Tactic.SplitIfs
import TextCursor.Text.Utf8
/-!
Reading UTF-8 undoes writing it, and nothing else can be read. Each reader of one to four bytes
accepts just the bytes that its codepoint is written as, the shortest form and no surrogate. What is
written of a codepoint tells by its first byte how long it is, so no form is the start of another.
Hence bytes are read as a text exactly if the text is written so; and where reading stops, what lies
before is the longest part that can be read.
-/
namespace TextCursor.Utf8

theorem scalar?_eq_some_iff {least n : Nat} {c : Char} :
    scalar? least n = some c ↔ least ≤ n ∧ c.toNat = n := by
  unfold scalar?
  constructor
  · intro read
    split at read
    · rename_i fits
      cases read
      exact ⟨fits.1, toNat_ofNat fits.2⟩
    · cases read
  · rintro ⟨enough, rfl⟩
    rw [if_pos ⟨enough, c.valid⟩, Char.ofNat_toNat]

theorem tailBits?_eq_some_iff {b : UInt8} {n : Nat} :
    tailBits? b = some n ↔ n < 64 ∧ b.toNat = 0x80 + n := by
  simp only [tailBits?, UInt8.le_iff_toNat_le, UInt8.toNat_ofNat, Option.ite_none_right_eq_some,
    Option.some.injEq]
  omega

theorem byte_eq_iff {b : UInt8} {n : Nat} : n.toUInt8 = b ↔ b.toNat = n % 256 := by
  rw [← UInt8.toNat_inj, eq_comm]
  rfl

theorem toNat_lt (c : Char) : c.toNat < 0x110000 := by
  have valid : c.toNat.isValidChar := c.valid
  simp only [Nat.isValidChar] at valid
  omega

section
variable {a b x y : UInt8} {c : Char}

theorem encodeChar_eq_one : encodeChar c = [a] ↔ c.toNat < 0x80 ∧ a.toNat = c.toNat := by
  unfold encodeChar
  simp only
  split_ifs <;>
    simp only [List.cons.injEq, byte_eq_iff, reduceCtorEq, and_true, and_false, false_iff] <;> omega

theorem encodeChar_eq_two :
    encodeChar c = [a, b] ↔ (0x80 ≤ c.toNat ∧ c.toNat < 0x800) ∧
      a.toNat = 0xC0 + c.toNat / 64 ∧ b.toNat = 0x80 + c.toNat % 64 := by
  unfold encodeChar
  simp only
  split_ifs <;>
    simp only [List.cons.injEq, byte_eq_iff, reduceCtorEq, and_true, and_false, false_iff] <;> omega

theorem encodeChar_eq_three :
    encodeChar c = [a, b, x] ↔ (0x800 ≤ c.toNat ∧ c.toNat < 0x10000) ∧
      a.toNat = 0xE0 + c.toNat / 4096 ∧ b.toNat = 0x80 + c.toNat / 64 % 64 ∧
      x.toNat = 0x80 + c.toNat % 64 := by
  unfold encodeChar
  simp only
  split_ifs <;>
    simp only [List.cons.injEq, byte_eq_iff, reduceCtorEq, and_true, and_false, false_iff] <;> omega

theorem encodeChar_eq_four :
    encodeChar c = [a, b, x, y] ↔ 0x10000 ≤ c.toNat ∧
      a.toNat = 0xF0 + c.toNat / 262144 ∧ b.toNat = 0x80 + c.toNat / 4096 % 64 ∧
      x.toNat = 0x80 + c.toNat / 64 % 64 ∧ y.toNat = 0x80 + c.toNat % 64 := by
  have top := toNat_lt c
  unfold encodeChar
  simp only
  split_ifs <;>
    simp only [List.cons.injEq, byte_eq_iff, reduceCtorEq, and_true, and_false, false_iff] <;> omega

theorem encodeChar_eq (c : Char) : encodeChar c = String.utf8EncodeChar c := by
  have top := toNat_lt c
  have number : c.val.toNat = c.toNat := rfl
  unfold String.utf8EncodeChar
  rw [number]
  simp only
  split_ifs with small medium large
  · rw [encodeChar_eq_one, UInt8.toNat_ofNat']
    omega
  · rw [encodeChar_eq_two, UInt8.toNat_ofNat', UInt8.toNat_ofNat']
    omega
  · rw [encodeChar_eq_three, UInt8.toNat_ofNat', UInt8.toNat_ofNat', UInt8.toNat_ofNat']
    omega
  · rw [encodeChar_eq_four, UInt8.toNat_ofNat', UInt8.toNat_ofNat', UInt8.toNat_ofNat',
      UInt8.toNat_ofNat']
    omega

theorem oneByte?_eq_some_iff : oneByte? a = some c ↔ encodeChar c = [a] := by
  rw [encodeChar_eq_one]
  unfold oneByte?
  constructor
  · intro read
    split at read
    · rename_i below
      have small : a.toNat < 0x80 := UInt8.lt_iff_toNat_lt.mp below
      have valid : a.toNat.isValidChar := .inl (by omega)
      cases read
      rw [toNat_ofNat valid]
      exact ⟨small, rfl⟩
    · cases read
  · rintro ⟨small, value⟩
    have below : a < 0x80 := UInt8.lt_iff_toNat_lt.mpr (value ▸ small)
    rw [if_pos below, value, Char.ofNat_toNat]

theorem twoBytes?_eq_some_iff : twoBytes? a b = some c ↔ encodeChar c = [a, b] := by
  rw [encodeChar_eq_two]
  simp only [twoBytes?, UInt8.le_iff_toNat_le, UInt8.toNat_ofNat, Option.ite_none_right_eq_some,
    Option.bind_eq_bind, Option.bind_eq_some_iff, tailBits?_eq_some_iff, scalar?_eq_some_iff]
  constructor
  · rintro ⟨lead, t, ⟨small, tail⟩, least, value⟩
    omega
  · rintro ⟨range, lead, tail⟩
    exact ⟨by omega, c.toNat % 64, by omega, by omega⟩

theorem threeBytes?_eq_some_iff : threeBytes? a b x = some c ↔ encodeChar c = [a, b, x] := by
  rw [encodeChar_eq_three]
  simp only [threeBytes?, UInt8.le_iff_toNat_le, UInt8.toNat_ofNat, Option.ite_none_right_eq_some,
    Option.bind_eq_bind, Option.bind_eq_some_iff, tailBits?_eq_some_iff, scalar?_eq_some_iff]
  constructor
  · rintro ⟨lead, t, ⟨small, tail⟩, u, ⟨small', tail'⟩, least, value⟩
    omega
  · rintro ⟨range, lead, tail, tail'⟩
    exact ⟨by omega, c.toNat / 64 % 64, by omega, c.toNat % 64, by omega, by omega⟩

theorem fourBytes?_eq_some_iff : fourBytes? a b x y = some c ↔ encodeChar c = [a, b, x, y] := by
  have top := toNat_lt c
  rw [encodeChar_eq_four]
  simp only [fourBytes?, UInt8.le_iff_toNat_le, UInt8.toNat_ofNat, Option.ite_none_right_eq_some,
    Option.bind_eq_bind, Option.bind_eq_some_iff, tailBits?_eq_some_iff, scalar?_eq_some_iff]
  constructor
  · rintro ⟨lead, t, ⟨small, tail⟩, u, ⟨small', tail'⟩, v, ⟨small'', tail''⟩, least, value⟩
    omega
  · rintro ⟨range, lead, tail, tail', tail''⟩
    exact ⟨by omega, c.toNat / 4096 % 64, by omega, c.toNat / 64 % 64, by omega, c.toNat % 64,
      by omega, by omega⟩

theorem oneByte?_none (lead : 0x80 ≤ a.toNat) : oneByte? a = none := by
  rw [Option.eq_none_iff_forall_ne_some]
  intro c read
  have small := encodeChar_eq_one.mp (oneByte?_eq_some_iff.mp read)
  omega

theorem twoBytes?_none (lead : 0xE0 ≤ a.toNat) : twoBytes? a b = none := by
  rw [Option.eq_none_iff_forall_ne_some]
  intro c read
  have small := encodeChar_eq_two.mp (twoBytes?_eq_some_iff.mp read)
  omega

theorem threeBytes?_none (lead : 0xF0 ≤ a.toNat) : threeBytes? a b x = none := by
  rw [Option.eq_none_iff_forall_ne_some]
  intro c read
  have small := encodeChar_eq_three.mp (threeBytes?_eq_some_iff.mp read)
  omega

end

theorem encodeChar_cases (c : Char) :
    (∃ a, encodeChar c = [a]) ∨ (∃ a b, encodeChar c = [a, b]) ∨
      (∃ a b x, encodeChar c = [a, b, x]) ∨ ∃ a b x y, encodeChar c = [a, b, x, y] := by
  unfold encodeChar
  simp only
  split_ifs <;> simp

theorem encodeChar_pos (c : Char) : 0 < (encodeChar c).length := by
  obtain ⟨a, written⟩ | ⟨a, b, written⟩ | ⟨a, b, x, written⟩ | ⟨a, b, x, y, written⟩ :=
    encodeChar_cases c <;> simp [written]

/-- A codepoint that the bytes begin with is read, since no shorter form begins as its form does. -/
theorem decode_encodeChar (c : Char) (rest : List UInt8) :
    decode (encodeChar c ++ rest) = prepend c (encodeChar c).length (decode rest) := by
  obtain ⟨a, written⟩ | ⟨a, b, written⟩ | ⟨a, b, x, written⟩ | ⟨a, b, x, y, written⟩ :=
    encodeChar_cases c
  · simp [written, decode, oneByte?_eq_some_iff.mpr written]
  · have lead := encodeChar_eq_two.mp written
    have one : oneByte? a = none := oneByte?_none (by omega)
    simp [written, decode, one, twoBytes?_eq_some_iff.mpr written]
  · have lead := encodeChar_eq_three.mp written
    have one : oneByte? a = none := oneByte?_none (by omega)
    have two : twoBytes? a b = none := twoBytes?_none (by omega)
    simp [written, decode, one, two, threeBytes?_eq_some_iff.mpr written]
  · have lead := encodeChar_eq_four.mp written
    have one : oneByte? a = none := oneByte?_none (by omega)
    have two : twoBytes? a b = none := twoBytes?_none (by omega)
    have three : threeBytes? a b x = none := threeBytes?_none (by omega)
    simp [written, decode, one, two, three, fourBytes?_eq_some_iff.mpr written]

theorem decode_stuck {bytes : List UInt8} (some_bytes : bytes ≠ [])
    (stuck : ∀ c rest, bytes ≠ encodeChar c ++ rest) : decode bytes = .error 0 := by
  cases bytes with
  | nil => exact absurd rfl some_bytes
  | cons a rest =>
    cases one : oneByte? a with
    | some c => exact absurd (by rw [oneByte?_eq_some_iff.mp one]; rfl) (stuck c rest)
    | none =>
      cases rest with
      | nil => simp [decode, one]
      | cons b rest =>
        cases two : twoBytes? a b with
        | some c => exact absurd (by rw [twoBytes?_eq_some_iff.mp two]; rfl) (stuck c rest)
        | none =>
          cases rest with
          | nil => simp [decode, one, two]
          | cons x rest =>
            cases three : threeBytes? a b x with
            | some c => exact absurd (by rw [threeBytes?_eq_some_iff.mp three]; rfl) (stuck c rest)
            | none =>
              cases rest with
              | nil => simp [decode, one, two, three]
              | cons y rest =>
                cases four : fourBytes? a b x y with
                | some c => exact absurd (by rw [fourBytes?_eq_some_iff.mp four]; rfl) (stuck c rest)
                | none => simp [decode, one, two, three, four]

theorem encode_eq (text : Text) : encode text = text.flatMap String.utf8EncodeChar := by
  rw [encode, funext encodeChar_eq]

theorem encode_cons (c : Char) (text : Text) : encode (c :: text) = encodeChar c ++ encode text :=
  List.flatMap_cons

theorem decode_encode_append (text : Text) (rest : List UInt8) :
    decode (encode text ++ rest) =
      ((decode rest).map (text ++ ·)).mapError (· + (encode text).length) := by
  induction text with
  | nil =>
    change decode rest = _
    cases decode rest <;> rfl
  | cons c text ih =>
    rw [encode_cons, List.append_assoc, decode_encodeChar, ih, List.length_append]
    cases decode rest with
    | ok more => rfl
    | error valid =>
      have total : valid + (encode text).length + (encodeChar c).length =
          valid + ((encodeChar c).length + (encode text).length) := by omega
      exact congrArg Except.error total

theorem decode_encode (text : Text) : decode (encode text) = .ok text := by
  have read : decode (encode text ++ []) = .ok (text ++ []) := decode_encode_append text []
  rwa [List.append_nil, List.append_nil] at read

theorem encode_inj {a b : Text} (same : encode a = encode b) : a = b := by
  have read := decode_encode a
  rw [same, decode_encode] at read
  exact (Except.ok.inj read).symm

/-- Bytes begin with a written text, and no codepoint begins behind it. -/
theorem exists_encode_append (bytes : List UInt8) :
    ∃ text rest, bytes = encode text ++ rest ∧ ∀ c more, rest ≠ encodeChar c ++ more := by
  induction size : bytes.length using Nat.strongRecOn generalizing bytes with
  | ind n ih =>
    by_cases begun : ∃ c more, bytes = encodeChar c ++ more
    · obtain ⟨c, more, rfl⟩ := begun
      have shorter : more.length < n := by
        have positive := encodeChar_pos c
        rw [List.length_append] at size
        omega
      obtain ⟨text, rest, split, stuck⟩ := ih more.length shorter more rfl
      exact ⟨c :: text, rest, by rw [split, encode_cons, List.append_assoc], stuck⟩
    · exact ⟨[], bytes, rfl, fun c more split => begun ⟨c, more, split⟩⟩

theorem decode_eq_ok_iff {bytes : List UInt8} {text : Text} :
    decode bytes = .ok text ↔ bytes = encode text := by
  constructor
  · intro read
    obtain ⟨front, rest, rfl, stuck⟩ := exists_encode_append bytes
    rw [decode_encode_append] at read
    cases rest with
    | nil =>
      have whole : front ++ [] = text := Except.ok.inj read
      rw [← whole, List.append_nil, List.append_nil]
    | cons b rest =>
      rw [decode_stuck (List.cons_ne_nil b rest) stuck] at read
      cases read
  · rintro rfl
    exact decode_encode text

theorem decode_error {bytes : List UInt8} {valid : Nat} (failed : decode bytes = .error valid) :
    ∃ text rest, bytes = encode text ++ rest ∧ valid = (encode text).length := by
  obtain ⟨text, rest, rfl, stuck⟩ := exists_encode_append bytes
  refine ⟨text, rest, rfl, ?_⟩
  rw [decode_encode_append] at failed
  cases rest with
  | nil => cases failed
  | cons b rest =>
    rw [decode_stuck (List.cons_ne_nil b rest) stuck] at failed
    exact (Except.error.inj failed).symm.trans (Nat.zero_add _)

theorem decode_error_greatest {bytes : List UInt8} {valid : Nat}
    (failed : decode bytes = .error valid) :
    IsGreatest { n | n ≤ bytes.length ∧ ∃ text, decode (bytes.take n) = .ok text } valid := by
  constructor
  · obtain ⟨text, rest, rfl, rfl⟩ := decode_error failed
    refine ⟨?_, text, ?_⟩
    · rw [List.length_append]
      exact Nat.le_add_right _ _
    · rw [List.take_left]
      exact decode_encode text
  · rintro n ⟨inside, text, read⟩
    have split : bytes = encode text ++ bytes.drop n := by
      rw [← decode_eq_ok_iff.mp read, List.take_append_drop]
    have written : (encode text).length = n := by
      rw [← decode_eq_ok_iff.mp read, List.length_take_of_le inside]
    rw [split, decode_encode_append] at failed
    cases others : decode (bytes.drop n) with
    | ok more =>
      rw [others] at failed
      cases failed
    | error rest =>
      rw [others] at failed
      have total : rest + (encode text).length = valid := Except.error.inj failed
      omega

end TextCursor.Utf8
