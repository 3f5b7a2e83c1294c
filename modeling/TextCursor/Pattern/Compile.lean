import TextCursor.Pattern.Lower
import TextCursor.Pattern.Print
import TextCursor.Pattern.Search
import TextCursor.Pattern.Size
/-!
Compiled patterns. A pattern only matches at the start of a text. For that its tree is put behind
the assertion that holds there; the anchored tree is written out, with all modifiers worked in, and
what is compiled is the text so written, read without modifiers.
-/
namespace TextCursor

inductive PatternError where
  | unreadable (e : Pattern.SyntaxError)
  /-- What it was written out as cannot be read. -/
  | unprintable (e : Pattern.SyntaxError)
  | tooLarge
  deriving DecidableEq, Repr

def PatternError.message : PatternError → Text
  | unreadable e => e.message
  | unprintable e => e.message
  | tooLarge =>
    ("Compiled regex exceeds size limit of " ++ toString Pattern.sizeLimit ++ " bytes.").toList

namespace Pattern

def Tree.anchored (t : Tree) : Tree := .concatenation [.look .start, t]

def Program.ofTree? (t : Tree) : Except PatternError Program :=
  if t.fits then .ok (.ofTree t) else .error .tooLarge

def Program.compile (source : Text) (modifiers : Modifiers) : Except PatternError Program := do
  let tree ← (Tree.parse modifiers source).mapError .unreadable
  let reread ← (Tree.parse .none tree.anchored.print).mapError .unprintable
  Program.ofTree? reread

end Pattern

structure Pattern where
  source : Text
  modifiers : Modifiers
  program : Pattern.Program
  compiled : Pattern.Program.compile source modifiers = .ok program

namespace Pattern

def compile (source : Text) (modifiers : Modifiers) : Except PatternError Pattern :=
  match compiled : Program.compile source modifiers with
  | .ok program => .ok ⟨source, modifiers, program, compiled⟩
  | .error e => .error e

def groupCount (p : Pattern) : Nat := p.program.names.length

def isMatch (p : Pattern) (text : Text) : Bool := p.program.isMatch text

def find? (p : Pattern) (text : Text) : Option (List (Option CharSpan)) := p.program.find? text

end Pattern

end TextCursor
