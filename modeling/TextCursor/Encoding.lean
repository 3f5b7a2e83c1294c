import TextCursor.Text.Utf8
import TextCursor.Unicode.Property
/-!
The encodings that an input may be declared in. Both are read as UTF-8, and ASCII admits no byte
above 127, so whatever decodes as ASCII decodes as UTF-8 to the same text.
-/
namespace TextCursor

inductive Encoding where
  | utf8
  | ascii
  deriving DecidableEq, Repr, Inhabited

namespace Encoding

def label : Encoding → String
  | utf8 => "UTF-8"
  | ascii => "ASCII"

def trim (text : Text) : Text :=
  ((text.dropWhile Unicode.isBlank).reverse.dropWhile Unicode.isBlank).reverse

/-- The encoding that goes by `label`; white space around it and letter case do not count. -/
def ofLabel? (label : Text) : Option Encoding :=
  let name := String.ofList ((trim label).map Char.toLower)
  if name = "utf-8" ∨ name = "utf8" then some utf8
  else if name = "ascii" ∨ name = "us-ascii" then some ascii
  else none

def decode : Encoding → List UInt8 → Except Nat Text
  | utf8, bytes => Utf8.decode bytes
  | ascii, bytes =>
    match bytes.findIdx? fun b => 0x80 ≤ b with
    | some i => .error i
    | none => .ok (bytes.map fun b => Char.ofNat b.toNat)

end Encoding

end TextCursor
