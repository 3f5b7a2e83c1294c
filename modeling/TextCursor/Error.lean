import TextCursor.Options
import TextCursor.Pattern.Compile
/-!
What can go wrong before there is a cursor or a pattern: a pattern that cannot be compiled, a
modifier that is none, an encoding that is not known, bytes that do not fit their encoding. A match
that fails and an input that is used up are no errors.
-/
namespace TextCursor

inductive CursorError where
  | invalidPattern (source : Text) (cause : PatternError)
  | unknownModifier (flag : Char)
  | unsupportedEncoding (label : Text)
  | invalidEncoding (encoding : Encoding) (validUpTo : Nat)
  deriving DecidableEq, Repr

namespace CursorError

def message : CursorError → Text
  | invalidPattern source cause =>
    "invalid pattern `".toList ++ source ++ "`: ".toList ++ cause.message
  | unknownModifier flag => "unknown pattern modifier '".toList ++ [flag] ++ "'".toList
  | unsupportedEncoding label => "unsupported encoding `".toList ++ label ++ "`".toList
  | invalidEncoding encoding validUpTo =>
    ("input is not valid " ++ encoding.label ++ " (valid up to byte " ++ toString validUpTo ++
      ")").toList

end CursorError

def readModifiers (flags : Text) : Except CursorError Modifiers :=
  (Modifiers.parse flags).mapError .unknownModifier

def readEncoding (label : Text) : Except CursorError Encoding :=
  match Encoding.ofLabel? label with
  | some e => .ok e
  | none => .error (.unsupportedEncoding label)

def decodeText (e : Encoding) (bytes : List UInt8) : Except CursorError Text :=
  (e.decode bytes).mapError (.invalidEncoding e)

def compilePattern (source : Text) (modifiers : Modifiers) : Except CursorError Pattern :=
  (Pattern.compile source modifiers).mapError (.invalidPattern source)

end TextCursor
