import TextCursor.Text
/-!
The flags of a pattern, written as a string of letters. Such a string means the set of its letters;
`u` adds nothing, since patterns are always read in Unicode mode.
-/
namespace TextCursor

structure Modifiers where
  caseInsensitive : Bool
  multiLine : Bool
  dotMatchesNewLine : Bool
  ignoreWhitespace : Bool
  swapGreed : Bool
  deriving DecidableEq, Repr

namespace Modifiers

def none : Modifiers := ⟨false, false, false, false, false⟩

instance : Inhabited Modifiers := ⟨none⟩

def withFlag? (m : Modifiers) (flag : Char) : Option Modifiers :=
  match flag with
  | 'i' => some { m with caseInsensitive := true }
  | 'm' => some { m with multiLine := true }
  | 's' => some { m with dotMatchesNewLine := true }
  | 'x' => some { m with ignoreWhitespace := true }
  | 'U' => some { m with swapGreed := true }
  | 'u' => some m
  | _ => Option.none

/-- The modifiers with all of `flags` set, or the first character that is no flag. -/
def withFlags (m : Modifiers) : Text → Except Char Modifiers
  | [] => .ok m
  | flag :: rest =>
    match m.withFlag? flag with
    | some m => m.withFlags rest
    | Option.none => .error flag

def parse (flags : Text) : Except Char Modifiers := none.withFlags flags

def union (a b : Modifiers) : Modifiers where
  caseInsensitive := a.caseInsensitive || b.caseInsensitive
  multiLine := a.multiLine || b.multiLine
  dotMatchesNewLine := a.dotMatchesNewLine || b.dotMatchesNewLine
  ignoreWhitespace := a.ignoreWhitespace || b.ignoreWhitespace
  swapGreed := a.swapGreed || b.swapGreed

def display (m : Modifiers) : Text :=
  [(m.caseInsensitive, 'i'), (m.multiLine, 'm'), (m.dotMatchesNewLine, 's'),
    (m.ignoreWhitespace, 'x'), (m.swapGreed, 'U')].filterMap fun p =>
      if p.1 then some p.2 else Option.none

end Modifiers

end TextCursor
