import TextCursor.Text
/-!
The UTF-8 form of a text. `decode` accepts exactly the shortest form of codepoints that are no
surrogates; where it fails it tells how many bytes from the start are whole codepoints.
-/
namespace TextCursor.Utf8

def encodeChar (c : Char) : List UInt8 :=
  let n := c.toNat
  let tail (block : Nat) : UInt8 := (0x80 + n / block % 64).toUInt8
  if n < 0x80 then [n.toUInt8]
  else if n < 0x800 then [(0xC0 + n / 64).toUInt8, tail 1]
  else if n < 0x10000 then [(0xE0 + n / 4096).toUInt8, tail 64, tail 1]
  else [(0xF0 + n / 262144).toUInt8, tail 4096, tail 64, tail 1]

def encode (text : Text) : List UInt8 := text.flatMap encodeChar

def tailBits? (b : UInt8) : Option Nat :=
  if 0x80 ≤ b ∧ b ≤ 0xBF then some (b.toNat - 0x80) else none

def scalar? (least n : Nat) : Option Char :=
  if least ≤ n ∧ n.isValidChar then some (Char.ofNat n) else none

def oneByte? (a : UInt8) : Option Char :=
  if a < 0x80 then some (Char.ofNat a.toNat) else none

def twoBytes? (a b : UInt8) : Option Char :=
  if 0xC0 ≤ a ∧ a ≤ 0xDF then do
    scalar? 0x80 ((a.toNat - 0xC0) * 64 + (← tailBits? b))
  else none

def threeBytes? (a b c : UInt8) : Option Char :=
  if 0xE0 ≤ a ∧ a ≤ 0xEF then do
    scalar? 0x800 ((a.toNat - 0xE0) * 4096 + (← tailBits? b) * 64 + (← tailBits? c))
  else none

def fourBytes? (a b c d : UInt8) : Option Char :=
  if 0xF0 ≤ a ∧ a ≤ 0xF7 then do
    scalar? 0x10000
      ((a.toNat - 0xF0) * 262144 + (← tailBits? b) * 4096 + (← tailBits? c) * 64 + (← tailBits? d))
  else none

def prepend (c : Char) (size : Nat) : Except Nat Text → Except Nat Text
  | .ok text => .ok (c :: text)
  | .error valid => .error (valid + size)

/-- The text with the given bytes, or the number of bytes before the first that does not fit. -/
def decode : List UInt8 → Except Nat Text
  | [] => .ok []
  | a :: rest =>
    match oneByte? a, rest with
    | some x, rest => prepend x 1 (decode rest)
    | none, [] => .error 0
    | none, b :: rest =>
      match twoBytes? a b, rest with
      | some x, rest => prepend x 2 (decode rest)
      | none, [] => .error 0
      | none, c :: rest =>
        match threeBytes? a b c, rest with
        | some x, rest => prepend x 3 (decode rest)
        | none, [] => .error 0
        | none, d :: rest =>
          match fourBytes? a b c d with
          | some x => prepend x 4 (decode rest)
          | none => .error 0

end TextCursor.Utf8
