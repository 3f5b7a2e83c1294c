import Mathlib.Data.List.Basic
import TextCursor.Error
import TextCursor.Proofs.Utf8
/-!
What an encoding accepts. Bytes are decoded as a text exactly if they are the UTF-8 form of the text
and the encoding admits every one of them, which ASCII does below 128. Where decoding fails, the
error tells the length of the longest part from the start that can be decoded.
-/
namespace TextCursor

namespace Encoding

def Admits : Encoding → UInt8 → Prop
  | utf8, _ => True
  | ascii, b => b < 0x80

def Fits : Encoding → Text → Prop
  | utf8, _ => True
  | ascii, text => ∀ c ∈ text, c.toNat < 0x80

open Utf8

variable {bytes : List UInt8} {text : Text}

theorem encodeChar_small_iff (c : Char) :
    (∀ b ∈ encodeChar c, b < 0x80) ↔ c.toNat < 0x80 := by
  simp only [UInt8.lt_iff_toNat_lt, UInt8.toNat_ofNat]
  obtain ⟨a, written⟩ | ⟨a, b, written⟩ | ⟨a, b, x, written⟩ | ⟨a, b, x, y, written⟩ :=
    encodeChar_cases c
  · have lead := encodeChar_eq_one.mp written
    rw [written, List.forall_mem_singleton]
    omega
  · have lead := encodeChar_eq_two.mp written
    rw [written, List.forall_mem_cons]
    omega
  · have lead := encodeChar_eq_three.mp written
    rw [written, List.forall_mem_cons]
    omega
  · have lead := encodeChar_eq_four.mp written
    rw [written, List.forall_mem_cons]
    omega

theorem admits_encode_iff (e : Encoding) (text : Text) :
    (∀ b ∈ encode text, e.Admits b) ↔ e.Fits text := by
  cases e with
  | utf8 => exact ⟨fun _ => trivial, fun _ _ _ => trivial⟩
  | ascii =>
    change (∀ b ∈ text.flatMap encodeChar, b < 0x80) ↔ ∀ c ∈ text, c.toNat < 0x80
    rw [List.forall_mem_flatMap]
    exact forall₂_congr fun c _ => encodeChar_small_iff c

theorem small_of_decode (read : ascii.decode bytes = .ok text) : ∀ b ∈ bytes, b < 0x80 := by
  cases first : bytes.findIdx? (fun b => 0x80 ≤ b) with
  | some i =>
    simp only [decode, first] at read
    cases read
  | none =>
    intro b listed
    have not_large := List.findIdx?_eq_none_iff.mp first b listed
    exact UInt8.not_le.mp (of_decide_eq_false not_large)

theorem decode_small (small : ∀ b ∈ bytes, b < 0x80) :
    ∃ text, ascii.decode bytes = .ok text ∧ bytes = encode text := by
  have none_large : bytes.findIdx? (fun b => 0x80 ≤ b) = none := by
    rw [List.findIdx?_eq_none_iff]
    intro b listed
    exact decide_eq_false (UInt8.not_le.mpr (small b listed))
  refine ⟨bytes.map fun b => Char.ofNat b.toNat, by simp only [decode, none_large], ?_⟩
  have alone : ∀ b ∈ bytes, encodeChar (Char.ofNat b.toNat) = [b] := by
    intro b listed
    exact oneByte?_eq_some_iff.mp (if_pos (small b listed))
  rw [encode, List.flatMap_map, List.flatMap_congr alone, List.flatMap_singleton']

theorem decode_eq_ok_iff (e : Encoding) :
    e.decode bytes = .ok text ↔ bytes = encode text ∧ ∀ b ∈ bytes, e.Admits b := by
  cases e with
  | utf8 =>
    have all : ∀ b ∈ bytes, utf8.Admits b := fun _ _ => trivial
    exact Utf8.decode_eq_ok_iff.trans (and_iff_left all).symm
  | ascii =>
    constructor
    · intro read
      have small := small_of_decode read
      obtain ⟨text', read', written⟩ := decode_small small
      rw [read] at read'
      cases read'
      exact ⟨written, small⟩
    · rintro ⟨rfl, small⟩
      obtain ⟨text', read, same⟩ := decode_small small
      rw [read, encode_inj same]

theorem decode_error_greatest (e : Encoding) {valid : Nat} (failed : e.decode bytes = .error valid) :
    IsGreatest { n | n ≤ bytes.length ∧ ∃ text, e.decode (bytes.take n) = .ok text } valid := by
  cases e with
  | utf8 => exact Utf8.decode_error_greatest failed
  | ascii =>
    -- the byte at the index of the error is the first that is too large
    cases first : bytes.findIdx? (fun b => 0x80 ≤ b) with
    | none =>
      simp only [decode, first] at failed
      cases failed
    | some i =>
      simp only [decode, first] at failed
      cases failed
      obtain ⟨inside, large, before⟩ := List.findIdx?_eq_some_iff_getElem.mp first
      constructor
      · refine ⟨Nat.le_of_lt inside, ?_⟩
        have small : ∀ b ∈ bytes.take valid, b < 0x80 := by
          intro b listed
          obtain ⟨i, within, rfl⟩ := List.mem_take_iff_getElem.mp listed
          have not_large := before i (by omega)
          simpa using not_large
        obtain ⟨text, read, _⟩ := decode_small small
        exact ⟨text, read⟩
      · rintro n ⟨_, text, read⟩
        by_contra longer
        have listed : bytes[valid] ∈ bytes.take n :=
          List.mem_take_iff_getElem.mpr ⟨valid, by omega, rfl⟩
        have small := small_of_decode read _ listed
        exact UInt8.not_le.mpr small (of_decide_eq_true large)

end Encoding

theorem decodeText_eq_ok_iff {e : Encoding} {bytes : List UInt8} {text : Text} :
    decodeText e bytes = .ok text ↔ e.decode bytes = .ok text := by
  unfold decodeText
  cases e.decode bytes <;> simp [Except.mapError]

theorem decodeText_error {e : Encoding} {bytes : List UInt8} {err : CursorError}
    (failed : decodeText e bytes = .error err) :
    ∃ valid, e.decode bytes = .error valid ∧ err = .invalidEncoding e valid := by
  unfold decodeText at failed
  cases read : e.decode bytes with
  | ok text =>
    rw [read] at failed
    cases failed
  | error valid =>
    rw [read] at failed
    exact ⟨valid, rfl, (Except.error.inj failed).symm⟩

/-- Decoding gives a text exactly for the bytes that are its UTF-8 form, if the encoding admits them,
so every text that fits is read back from its bytes. Otherwise the error names the encoding and the
longest part from the start that can be decoded. What is decoded as ASCII is decoded alike as
UTF-8. -/
theorem decoding_exact (e : Encoding) (bytes : List UInt8) :
    (∀ text, decodeText e bytes = .ok text ↔
      bytes = text.flatMap String.utf8EncodeChar ∧ ∀ b ∈ bytes, e.Admits b) ∧
    (∀ text, decodeText e (text.flatMap String.utf8EncodeChar) = .ok text ↔ e.Fits text) ∧
    (∀ err, decodeText e bytes = .error err → ∃ valid, err = .invalidEncoding e valid ∧
      IsGreatest { n | n ≤ bytes.length ∧ ∃ text, decodeText e (bytes.take n) = .ok text }
        valid) ∧
    ∀ text, decodeText .ascii bytes = .ok text → decodeText .utf8 bytes = .ok text := by
  have read_iff : ∀ text, decodeText e bytes = .ok text ↔
      bytes = Utf8.encode text ∧ ∀ b ∈ bytes, e.Admits b :=
    fun _ => decodeText_eq_ok_iff.trans e.decode_eq_ok_iff
  simp only [← Utf8.encode_eq]
  refine ⟨read_iff, ?_, ?_, ?_⟩
  · intro text
    rw [decodeText_eq_ok_iff, e.decode_eq_ok_iff, and_iff_right rfl]
    exact e.admits_encode_iff text
  · intro err failed
    obtain ⟨valid, read, rfl⟩ := decodeText_error failed
    have greatest := e.decode_error_greatest read
    simp only [← decodeText_eq_ok_iff] at greatest
    exact ⟨valid, rfl, greatest⟩
  · intro text read
    rw [decodeText_eq_ok_iff, Encoding.decode_eq_ok_iff] at read ⊢
    exact ⟨read.1, fun _ _ => trivial⟩

/-- A surrogate has no UTF-8 form: of "aé" and the three bytes that would be one, only the first three
bytes can be decoded. -/
theorem surrogate_not_decoded :
    decodeText .utf8 [0x61, 0xC3, 0xA9, 0xED, 0xA0, 0x80] = .error (.invalidEncoding .utf8 3) ∧
    IsGreatest { n | n ≤ 6 ∧
      ∃ text, decodeText .utf8 ([0x61, 0xC3, 0xA9, 0xED, 0xA0, 0x80].take n) = .ok text } 3 := by
  have failed : decodeText .utf8 [0x61, 0xC3, 0xA9, 0xED, 0xA0, 0x80] =
      .error (.invalidEncoding .utf8 3) := by decide +kernel
  obtain ⟨_, _, on_error, _⟩ := decoding_exact .utf8 [0x61, 0xC3, 0xA9, 0xED, 0xA0, 0x80]
  obtain ⟨valid, named, greatest⟩ := on_error _ failed
  cases named
  exact ⟨failed, greatest⟩

end TextCursor
