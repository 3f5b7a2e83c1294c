import TextCursor.Encoding
import TextCursor.Modifiers
/-!
The settings of a cursor, and those of a single match.
-/
namespace TextCursor

inductive CaptureMode where
  | text
  /-- Its text, and its codepoint offset from the start of the input that was left. -/
  | offset
  deriving DecidableEq, Repr, Inhabited

structure CursorOptions where
  encoding : Encoding := .utf8
  defaultModifiers : Modifiers := .none
  capture : CaptureMode := .text
  cachePatterns : Bool := true
  deriving DecidableEq, Repr, Inhabited

structure MatchOptions where
  commit : Bool := true
  capture : CaptureMode := .text
  deriving DecidableEq, Repr, Inhabited

def MatchOptions.staged : MatchOptions := { commit := false }

end TextCursor
