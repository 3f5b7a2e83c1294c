import Mathlib.Data.List.TakeWhile
import TextCursor.Cursor
import TextCursor.Proofs.Decoding
/-!
A declared text and its declared bytes. A label is accepted if it is a name of an encoding in any
mixture of capital and small letters, perhaps with white space around it. A text that is declared
under an accepted label is taken if it fits, and so are its bytes; otherwise both are refused at the
first codepoint that does not fit. So it makes no difference which of the two a cursor is made of.
-/
namespace TextCursor

theorem Unicode.isBlank_toLower (c : Char) : isBlank c.toLower = isBlank c := by
  by_cases capital : 65 ≤ c.toNat ∧ c.toNat ≤ 90
  · have visible : ∀ n < 91, 65 ≤ n →
        isBlank (Char.ofNat n).toLower = isBlank (Char.ofNat n) := by decide +kernel
    have here := visible c.toNat (by omega) capital.1
    rwa [Char.ofNat_toNat] at here
  · have unchanged : c.toLower = c := by
      unfold Char.toLower
      rw [dif_neg]
      intro range
      exact capital range
    rw [unchanged]

namespace Encoding
variable {e : Encoding} {label : Text}

def names : Encoding → List String
  | utf8 => ["utf-8", "utf8"]
  | ascii => ["ascii", "us-ascii"]

/-- The label names the encoding, whatever the case of its letters, with white space around. -/
def GoesBy (e : Encoding) (label : Text) : Prop :=
  ∃ front name back, label = front ++ name ++ back ∧
    (∀ c ∈ front, Unicode.isBlank c = true) ∧ (∀ c ∈ back, Unicode.isBlank c = true) ∧
    String.ofList (name.map Char.toLower) ∈ e.names

theorem trim_split (text : Text) : ∃ front back, text = front ++ trim text ++ back ∧
    (∀ c ∈ front, Unicode.isBlank c = true) ∧ ∀ c ∈ back, Unicode.isBlank c = true := by
  have ending := List.takeWhile_append_dropWhile (p := Unicode.isBlank)
    (l := (text.dropWhile Unicode.isBlank).reverse)
  refine ⟨text.takeWhile Unicode.isBlank,
    ((text.dropWhile Unicode.isBlank).reverse.takeWhile Unicode.isBlank).reverse, ?_, ?_, ?_⟩
  · have whole := congrArg List.reverse ending
    rw [List.reverse_append, List.reverse_reverse] at whole
    rw [trim, List.append_assoc, whole, List.takeWhile_append_dropWhile]
  · intro c listed
    exact List.mem_takeWhile_imp listed
  · intro c listed
    exact List.mem_takeWhile_imp (List.mem_reverse.mp listed)

theorem dropWhile_padded {front text : Text} (before : ∀ c ∈ front, Unicode.isBlank c = true)
    (first : ∀ c, text.head? = some c → Unicode.isBlank c = false) :
    (front ++ text).dropWhile Unicode.isBlank = text := by
  rw [List.dropWhile_append_of_pos before]
  cases text with
  | nil => rfl
  | cons c rest =>
    rw [List.dropWhile_cons, first c rfl]
    exact if_neg Bool.false_ne_true

theorem trim_padded {front name back : Text} (before : ∀ c ∈ front, Unicode.isBlank c = true)
    (some_name : name ≠ []) (visible : ∀ c ∈ name, Unicode.isBlank c = false)
    (behind : ∀ c ∈ back, Unicode.isBlank c = true) : trim (front ++ name ++ back) = name := by
  have begun : (front ++ (name ++ back)).dropWhile Unicode.isBlank = name ++ back := by
    apply dropWhile_padded before
    intro c first
    rw [List.head?_append_of_ne_nil _ some_name] at first
    exact visible c (List.mem_of_head? first)
  have ended : (back.reverse ++ name.reverse).dropWhile Unicode.isBlank = name.reverse := by
    apply dropWhile_padded
    · intro c listed
      exact behind c (List.mem_reverse.mp listed)
    · intro c first
      exact visible c (List.mem_reverse.mp (List.mem_of_head? first))
  rw [trim, List.append_assoc, begun, List.reverse_append, ended, List.reverse_reverse]

theorem name_visible {name : Text} (named : String.ofList (name.map Char.toLower) ∈ e.names) :
    name ≠ [] ∧ ∀ c ∈ name, Unicode.isBlank c = false := by
  have written : (e.names.all fun n =>
      !n.toList.isEmpty && n.toList.all fun c => !Unicode.isBlank c) = true := by
    cases e <;> decide +kernel
  have here := List.all_eq_true.mp written _ named
  rw [String.toList_ofList, Bool.and_eq_true, List.all_map, List.all_eq_true] at here
  obtain ⟨nonempty, visible⟩ := here
  constructor
  · rintro rfl
    cases nonempty
  · intro c listed
    rw [← Unicode.isBlank_toLower]
    simpa using visible c listed

theorem ofLabel?_eq_some_iff : ofLabel? label = some e ↔ e.GoesBy label := by
  have by_name : ofLabel? label = some e ↔
      String.ofList ((trim label).map Char.toLower) ∈ e.names := by
    unfold ofLabel?
    generalize String.ofList ((trim label).map Char.toLower) = name
    simp only
    split_ifs with first second
    · rcases first with rfl | rfl <;> cases e <;> simp [names]
    · rcases second with rfl | rfl <;> cases e <;> simp [names]
    · cases e <;> simp_all [names]
  rw [by_name]
  constructor
  · intro named
    obtain ⟨front, back, split, before, behind⟩ := trim_split label
    exact ⟨front, trim label, back, split, before, behind, named⟩
  · rintro ⟨front, name, back, rfl, before, behind, named⟩
    obtain ⟨some_name, visible⟩ := name_visible named
    rw [trim_padded before some_name visible behind]
    exact named

theorem fits_append {a b : Text} : e.Fits (a ++ b) ↔ e.Fits a ∧ e.Fits b := by
  cases e with
  | utf8 => exact ⟨fun _ => ⟨trivial, trivial⟩, fun _ => trivial⟩
  | ascii => exact List.forall_mem_append

theorem fits_or_first (e : Encoding) (text : Text) : e.Fits text ∨
    ∃ front c rest, text = front ++ c :: rest ∧ e.Fits front ∧ ¬ e.Fits [c] := by
  have empty : e.Fits [] := by
    cases e with
    | utf8 => trivial
    | ascii => exact List.forall_mem_nil _
  induction text with
  | nil => exact .inl empty
  | cons c rest ih =>
    by_cases here : e.Fits [c]
    · rcases ih with fits | ⟨front, x, more, split, fits, unfit⟩
      · exact .inl (fits_append.mpr ⟨here, fits⟩)
      · exact .inr ⟨c :: front, x, more, by rw [split]; rfl, fits_append.mpr ⟨here, fits⟩, unfit⟩
    · exact .inr ⟨[], c, rest, rfl, empty, here⟩

open Utf8

theorem encodeChar_large {c : Char} (large : 0x80 ≤ c.toNat) :
    ∃ a more, encodeChar c = a :: more ∧ 0x80 ≤ a := by
  simp only [UInt8.le_iff_toNat_le, UInt8.toNat_ofNat]
  obtain ⟨a, written⟩ | ⟨a, b, written⟩ | ⟨a, b, x, written⟩ | ⟨a, b, x, y, written⟩ :=
    encodeChar_cases c
  · have lead := encodeChar_eq_one.mp written
    omega
  · have lead := encodeChar_eq_two.mp written
    exact ⟨a, [b], written, by omega⟩
  · have lead := encodeChar_eq_three.mp written
    exact ⟨a, [b, x], written, by omega⟩
  · have lead := encodeChar_eq_four.mp written
    exact ⟨a, [b, x, y], written, by omega⟩

/-- The error is at the first byte of the first codepoint that does not fit. -/
theorem decode_first {front : Text} {c : Char} (fits : e.Fits front) (unfit : ¬ e.Fits [c])
    (rest : Text) : e.decode (encode (front ++ c :: rest)) = .error (encode front).length := by
  cases e with
  | utf8 => exact absurd trivial unfit
  | ascii =>
    have small := (admits_encode_iff ascii front).mpr fits
    have large : 0x80 ≤ c.toNat := by
      by_contra below
      exact unfit (List.forall_mem_singleton.mpr (Nat.lt_of_not_le below))
    obtain ⟨a, more, written, lead⟩ := encodeChar_large large
    have none_before : (encode front).findIdx? (fun b => 0x80 ≤ b) = none := by
      rw [List.findIdx?_eq_none_iff]
      intro b listed
      exact decide_eq_false (UInt8.not_le.mpr (small b listed))
    have bytes : encode (front ++ c :: rest) = encode front ++ a :: (more ++ encode rest) := by
      rw [encode, List.flatMap_append, List.flatMap_cons, written]
      rfl
    have first : (encode (front ++ c :: rest)).findIdx? (fun b => 0x80 ≤ b) =
        some (encode front).length := by
      rw [bytes, List.findIdx?_append, none_before, List.findIdx?_cons, if_pos (decide_eq_true lead)]
      simp
    simp only [decode, first]

end Encoding

theorem readEncoding_eq_ok_iff {label : Text} {e : Encoding} :
    readEncoding label = .ok e ↔ e.GoesBy label := by
  rw [← Encoding.ofLabel?_eq_some_iff, readEncoding]
  cases Encoding.ofLabel? label <;> simp

theorem readEncoding_eq_error_iff {label : Text} {err : CursorError} :
    readEncoding label = .error err ↔
      (∀ e : Encoding, ¬ e.GoesBy label) ∧ err = .unsupportedEncoding label := by
  simp only [← Encoding.ofLabel?_eq_some_iff, readEncoding]
  cases Encoding.ofLabel? label <;> simp [eq_comm]

theorem decodeText_encode {e : Encoding} {text t : Text} :
    decodeText e (Utf8.encode text) = .ok t ↔ t = text ∧ e.Fits text := by
  rw [decodeText_eq_ok_iff, e.decode_eq_ok_iff, e.admits_encode_iff]
  constructor
  · rintro ⟨same, fits⟩
    exact ⟨(Utf8.encode_inj same).symm, fits⟩
  · rintro ⟨rfl, fits⟩
    exact ⟨rfl, fits⟩

theorem decodeText_unfit {e : Encoding} {front : Text} {c : Char} (fits : e.Fits front)
    (unfit : ¬ e.Fits [c]) (rest : Text) :
    decodeText e (Utf8.encode (front ++ c :: rest)) =
      .error (.invalidEncoding e (Utf8.encode front).length) := by
  rw [decodeText, Encoding.decode_first fits unfit]
  rfl

namespace Cursor
variable {bytes : List UInt8} {text label : Text}

theorem ofBytes_eq_ok_iff {c : Cursor} : ofBytes bytes label = .ok c ↔
    ∃ e text, readEncoding label = .ok e ∧ decodeText e bytes = .ok text ∧
      c = ofText text { encoding := e } := by
  unfold ofBytes
  cases readEncoding label with
  | error err => simp [bind, Except.bind]
  | ok e => cases read : decodeText e bytes <;> simp [bind, Except.bind, read, eq_comm]

theorem ofBytes_eq_error_iff {err : CursorError} : ofBytes bytes label = .error err ↔
    readEncoding label = .error err ∨
      ∃ e, readEncoding label = .ok e ∧ decodeText e bytes = .error err := by
  unfold ofBytes
  cases readEncoding label with
  | error err => simp [bind, Except.bind]
  | ok e => cases read : decodeText e bytes <;> simp [bind, Except.bind, read]

theorem withEncoding_eq_ofBytes (text label : Text) :
    withEncoding text label = ofBytes (Utf8.encode text) label := by
  unfold withEncoding ofBytes
  cases readEncoding label with
  | error err => rfl
  | ok e =>
    cases read : decodeText e (Utf8.encode text) with
    | error err => simp only [bind, Except.bind, read]
    | ok t =>
      have same := (decodeText_encode.mp read).1
      simp only [bind, Except.bind, read, same]

end Cursor

/-- A cursor over a text that is declared to be in an encoding and one over the bytes of the text,
so declared, are the same, or are refused with the same error. There is a cursor exactly if the
label is one of an encoding that the text fits. Otherwise the error gives the label, or else the
encoding and the number of bytes before the first codepoint that does not fit. -/
theorem declared_text_as_bytes (text label : Text) :
    Cursor.withEncoding text label =
      Cursor.ofBytes (text.flatMap String.utf8EncodeChar) label ∧
    (∀ c, Cursor.withEncoding text label = .ok c ↔
      ∃ e : Encoding, e.GoesBy label ∧ e.Fits text ∧ c = .ofText text { encoding := e }) ∧
    ∀ err, Cursor.withEncoding text label = .error err ↔
      (∀ e : Encoding, ¬ e.GoesBy label) ∧ err = .unsupportedEncoding label ∨
      ∃ e front c rest, Encoding.GoesBy e label ∧ text = front ++ c :: rest ∧ e.Fits front ∧
        ¬ e.Fits [c] ∧
        err = .invalidEncoding e (front.flatMap String.utf8EncodeChar).length := by
  simp only [← Utf8.encode_eq, Cursor.withEncoding_eq_ofBytes, true_and]
  constructor
  · intro c
    rw [Cursor.ofBytes_eq_ok_iff]
    constructor
    · rintro ⟨e, t, accepted, read, rfl⟩
      obtain ⟨rfl, fits⟩ := decodeText_encode.mp read
      exact ⟨e, readEncoding_eq_ok_iff.mp accepted, fits, rfl⟩
    · rintro ⟨e, named, fits, rfl⟩
      exact ⟨e, text, readEncoding_eq_ok_iff.mpr named, decodeText_encode.mpr ⟨rfl, fits⟩, rfl⟩
  · intro err
    rw [Cursor.ofBytes_eq_error_iff, readEncoding_eq_error_iff]
    apply or_congr_right
    constructor
    · rintro ⟨e, accepted, refused⟩
      rcases e.fits_or_first text with fits | ⟨front, c, rest, rfl, fits, unfit⟩
      · rw [decodeText_encode.mpr ⟨rfl, fits⟩] at refused
        cases refused
      · rw [decodeText_unfit fits unfit] at refused
        exact ⟨e, front, c, rest, readEncoding_eq_ok_iff.mp accepted, rfl, fits, unfit,
          (Except.error.inj refused).symm⟩
    · rintro ⟨e, front, c, rest, named, rfl, fits, unfit, rfl⟩
      exact ⟨e, readEncoding_eq_ok_iff.mpr named, decodeText_unfit fits unfit rest⟩

/-- The text `aé` makes a fresh cursor if it is declared as UTF-8, be that in capitals and with white
space around. It makes none as ASCII, for `é` stands behind one byte. -/
theorem declared_cursor_starts_fresh :
    ∃ c, Cursor.withEncoding ['a', 'é'] [' ', 'U', 'T', 'F', '8', '\t'] = .ok c ∧
      Cursor.ofBytes [0x61, 0xC3, 0xA9] [' ', 'U', 'T', 'F', '8', '\t'] = .ok c ∧
      c.text = ['a', 'é'] ∧ c.totalChars = 2 ∧ c.options = { encoding := .utf8 } ∧
      c.position = .start ∧ c.pending = 0 ∧ c.checkpoint = .empty ∧ c.cache = [] ∧
      Cursor.withEncoding ['a', 'é'] ['A', 'S', 'C', 'I', 'I'] =
        .error (.invalidEncoding .ascii 1) := by
  obtain ⟨same, made, _⟩ := declared_text_as_bytes ['a', 'é'] [' ', 'U', 'T', 'F', '8', '\t']
  obtain ⟨_, _, refused⟩ := declared_text_as_bytes ['a', 'é'] ['A', 'S', 'C', 'I', 'I']
  have utf8 : Encoding.utf8.GoesBy [' ', 'U', 'T', 'F', '8', '\t'] :=
    ⟨[' '], ['U', 'T', 'F', '8'], ['\t'], rfl, List.forall_mem_singleton.mpr rfl,
      List.forall_mem_singleton.mpr rfl, by decide⟩
  have ascii : Encoding.ascii.GoesBy ['A', 'S', 'C', 'I', 'I'] :=
    ⟨[], ['A', 'S', 'C', 'I', 'I'], [], rfl, List.forall_mem_nil _, List.forall_mem_nil _,
      by decide⟩
  have fits : Encoding.ascii.Fits ['a'] := by simp [Encoding.Fits]
  have unfit : ¬ Encoding.ascii.Fits ['é'] := by simp [Encoding.Fits]
  have declared := (made _).mpr ⟨.utf8, utf8, trivial, rfl⟩
  refine ⟨_, declared, same.symm.trans declared, rfl, rfl, rfl, rfl, rfl, rfl, rfl, ?_⟩
  exact (refused _).mpr (.inr ⟨.ascii, ['a'], 'é', [], ascii, rfl, fits, unfit, rfl⟩)

end TextCursor
