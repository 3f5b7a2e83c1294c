import TextCursor.Text.Utf8
import TextCursor.Unicode.CodeSet
/-!
Sets of codepoints as sequences of byte ranges. A range of codepoints is cut into parts in which
each byte of the UTF-8 form varies by itself, and each part is one sequence: the bounds of its
first byte, of its second byte, and so on. The sequences of a set come in increasing order, so
those that start alike follow each other.
-/
namespace TextCursor.Pattern

structure ByteRange where
  lo : UInt8
  hi : UInt8
  deriving DecidableEq, Repr

abbrev ByteSequence := List ByteRange

/-- A codepoint behind which the range from `lo` to `hi` is to be cut, so that in each part all
codepoints take equally many bytes, and each byte varies by itself. -/
def cut? (lo hi : Nat) : Option Nat :=
  match [0x7F, 0x7FF, 0xD7FF, 0xFFFF].find? fun last => lo ≤ last ∧ last < hi with
  | some last => some last
  | none =>
    if hi ≤ 0x7F then none
    else
      [64, 4096, 262144].findSome? fun block =>
        if lo / block = hi / block then none
        else if lo % block ≠ 0 then some (lo / block * block + block - 1)
        else if hi % block ≠ block - 1 then some (hi / block * block - 1)
        else none

def cutLimit : Nat := 32

def ByteSequence.ofPart (lo hi : Nat) : ByteSequence :=
  (Utf8.encodeChar (Char.ofNat lo)).zipWith ByteRange.mk (Utf8.encodeChar (Char.ofNat hi))

def byteSequences : Nat → Nat → Nat → List ByteSequence
  | 0, _, _ => []
  | fuel + 1, lo, hi =>
    if hi < lo then []
    else
      match cut? lo hi with
      | some last => byteSequences fuel lo last ++ byteSequences fuel (Unicode.succCode last) hi
      | none => [.ofPart lo hi]

def setSequences (set : Unicode.CodeSet) : List ByteSequence :=
  set.ranges.flatMap fun r => byteSequences cutLimit r.lo r.hi

def startGroups (seqs : List ByteSequence) : List (List ByteSequence) :=
  seqs.splitBy fun a b => a.head? == b.head?

def maxByteLength : Nat := 4

/-- The places inside the given sequences, each as what the sequences go on with there. -/
def innerPlaces : Nat → List ByteSequence → List (List ByteSequence)
  | 0, _ => []
  | depth + 1, seqs =>
    if seqs.all List.isEmpty then []
    else seqs :: (startGroups seqs).flatMap fun group => innerPlaces depth (group.map List.tail)

/-- How many ranges of `seq` are left when those that it has in common with `before` are dropped. -/
def newRanges : ByteSequence → ByteSequence → Nat
  | a :: before, b :: seq => if a = b then newRanges before seq else (b :: seq).length
  | _, seq => seq.length

def sharedRanges (before : ByteSequence) : List ByteSequence → Nat
  | [] => 0
  | seq :: rest => newRanges before seq + sharedRanges seq rest

end TextCursor.Pattern
