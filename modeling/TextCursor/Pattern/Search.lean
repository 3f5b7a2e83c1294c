import TextCursor.Pattern.Program
import TextCursor.Unicode.Property
import Std.Data.TreeMap.Basic
/-!
Running a program over a text. The search follows the program depth first, preferred branches
first, and never goes twice to the same instruction at the same place: what failed there once fails
again. The first way through is the match, so the leftmost start wins, and among the matches that
start there the one that the program prefers.
-/
namespace TextCursor.Pattern

def isWordChar (unicode : Bool) (c : Char) : Bool :=
  if c.toNat < 128 then c.isAlphanum || c == '_' else unicode && Unicode.word.contains c

def WordLook.holds (before after : Bool) : WordLook → Bool
  | boundary => before != after
  | notBoundary => before == after
  | start => !before && after
  | stop => before && !after
  | startHalf => !before
  | stopHalf => !after

def Look.holds (before after : Option Char) : Look → Bool
  | start => before.isNone
  | stop => after.isNone
  | lineStart false => before.all (· == '\n')
  | lineStop false => after.all (· == '\n')
  | lineStart true =>
    before.all fun c => c == '\n' || (c == '\r' && after != some '\n')
  | lineStop true =>
    after.all fun c => c == '\r' || (c == '\n' && before != some '\r')
  | word kind unicode =>
    kind.holds (before.any (isWordChar unicode)) (after.any (isWordChar unicode))

abbrev Slots := List (Nat × Nat)

def Slots.get? (s : Slots) (slot : Nat) : Option Nat := (s.find? fun p => p.1 == slot).map (·.2)

/-- A way into the program: the instruction to go on with, the place in the text, and the notes. -/
structure Thread where
  pc : Nat
  place : Nat
  slots : Slots

inductive Move where
  | accept
  | goOn (threads : List Thread)

def charBefore (text : Array Char) (place : Nat) : Option Char :=
  if place = 0 then none else text[place - 1]?

def Thread.move (code : Code) (text : Array Char) (t : Thread) : Move :=
  match code[t.pc]? with
  | some (.char c next) =>
    if text[t.place]? = some c then .goOn [⟨next, t.place + 1, t.slots⟩] else .goOn []
  | some (.codes set next) =>
    if text[t.place]?.any set.contains then .goOn [⟨next, t.place + 1, t.slots⟩] else .goOn []
  | some (.look l next) =>
    if l.holds (charBefore text t.place) text[t.place]? then .goOn [⟨next, t.place, t.slots⟩]
    else .goOn []
  | some (.save slot next) => .goOn [⟨next, t.place, (slot, t.place) :: t.slots⟩]
  | some (.split first second) =>
    .goOn [⟨first, t.place, t.slots⟩, ⟨second, t.place, t.slots⟩]
  | some .fail => .goOn []
  | some .accept => .accept
  | none => .goOn []

/-- The pairs of instruction and place that were visited, each as one number. -/
abbrev Visited := Std.TreeMap Nat Unit

def explore (code : Code) (text : Array Char) :
    Nat → Visited → List Thread → Option Slots × Visited
  | 0, visited, _ => (none, visited)
  | _ + 1, visited, [] => (none, visited)
  | fuel + 1, visited, t :: stack =>
    let key := t.place * code.size + t.pc
    if visited.contains key then explore code text fuel visited stack
    else
      match t.move code text with
      | .accept => (some t.slots, visited)
      | .goOn threads => explore code text fuel (visited.insert key ()) (threads ++ stack)

/-- Enough steps to visit every instruction at every place: each visit adds two threads at most. -/
def exploreFuel (code : Code) (text : Array Char) : Nat :=
  2 * code.size * (text.size + 1) + 2

def searchFrom (p : Program) (text : Array Char) : Visited → List Nat → Option Slots
  | _, [] => none
  | visited, start :: rest =>
    match explore p.code text (exploreFuel p.code text) visited [⟨p.entry, start, []⟩] with
    | (some slots, _) => some slots
    | (none, visited) => searchFrom p text visited rest

structure CharSpan where
  start : Nat
  stop : Nat
  deriving DecidableEq, Repr

def Slots.group? (s : Slots) (index : Nat) : Option CharSpan :=
  match s.get? (2 * index), s.get? (2 * index + 1) with
  | some start, some stop => some ⟨start, stop⟩
  | _, _ => none

def Program.find? (p : Program) (text : Text) : Option (List (Option CharSpan)) :=
  let slots? := searchFrom p text.toArray {} (List.range (text.length + 1))
  slots?.map fun slots => (List.range p.names.length).map slots.group?

def Program.isMatch (p : Program) (text : Text) : Bool := (p.find? text).isSome

end TextCursor.Pattern
