import TextCursor.Pattern.Ast
import TextCursor.Pattern.SyntaxError
/-!
Reading a pattern codepoint by codepoint. In verbose mode white space and comments between the
codepoints of most constructs are skipped: `skipBlanks` skips them, `bumpSkip` takes one codepoint
and what may be skipped behind it, and `collect` does so as long as a test holds.
-/
namespace TextCursor.Pattern

structure Reader where
  rest : Text
  place : Location
  deriving DecidableEq, Repr

namespace Reader

def ofText (pattern : Text) : Reader := ⟨pattern, .start⟩

def atEnd (r : Reader) : Bool := r.rest.isEmpty

def peek? (r : Reader) : Option Char := r.rest.head?

def bump (r : Reader) : Reader :=
  match r.rest with
  | [] => r
  | c :: rest => ⟨rest, r.place.next c⟩

def bumpBy : Nat → Reader → Reader
  | 0, r => r
  | n + 1, r => bumpBy n r.bump

def expect? (r : Reader) (word : Text) : Option Reader :=
  if word.isPrefixOf r.rest then some (bumpBy word.length r) else none

def spanHere (r : Reader) : Span := .point r.place

def spanChar (r : Reader) : Span := ⟨r.place, r.bump.place⟩

def spanFrom (r : Reader) (start : Location) : Span := ⟨start, r.place⟩

/-- Skips white space and comments; a comment runs from `#` to the end of its line. -/
def skipFrom : Bool → Text → Location → Reader
  | _, [], l => ⟨[], l⟩
  | true, c :: rest, l => skipFrom (c != '\n') rest (l.next c)
  | false, c :: rest, l =>
    if Unicode.isBlank c then skipFrom false rest (l.next c)
    else if c = '#' then skipFrom true rest (l.next c)
    else ⟨c :: rest, l⟩

def skipBlanks (verbose : Bool) (r : Reader) : Reader :=
  if verbose then skipFrom false r.rest r.place else r

def bumpSkip (verbose : Bool) (r : Reader) : Reader := r.bump.skipBlanks verbose

def firstVisible? (sign : Bool) : Text → Option Char
  | [] => none
  | c :: rest =>
    if Unicode.isBlank c then firstVisible? sign rest
    else if sign && c = '#' then firstVisible? false rest
    else some c

/-- The codepoint behind the next one. In verbose mode white space and one comment sign are passed
over, unless nothing else follows. -/
def peekPast? (verbose : Bool) (r : Reader) : Option Char :=
  let behind := r.rest.drop 1
  if verbose then firstVisible? true behind <|> behind.head? else behind.head?

def collectFuel (verbose : Bool) (test : Char → Bool) : Nat → Reader → Text × Reader
  | 0, r => ([], r)
  | fuel + 1, r =>
    match r.peek? with
    | some c =>
      if test c then
        let (taken, r) := collectFuel verbose test fuel (r.bumpSkip verbose)
        (c :: taken, r)
      else ([], r)
    | none => ([], r)

def collect (verbose : Bool) (test : Char → Bool) (r : Reader) : Text × Reader :=
  collectFuel verbose test r.rest.length r

def collectPlain (test : Char → Bool) (r : Reader) : Text × Reader :=
  collect false test r

end Reader

def fault {α : Type} (span : Span) (kind : SyntaxErrorKind) : Except Fault α :=
  .error ⟨span, kind⟩

end TextCursor.Pattern
