/-!
Sets of codepoints as increasing lists of inclusive ranges that neither overlap nor touch. `insert`
keeps that form, and the other operations are built from it, from `complement` and from clipping
one range to another. Surrogates are not codepoints: a complement starts and ends beside them.
-/
namespace TextCursor.Unicode

structure CodeRange where
  lo : Nat
  hi : Nat
  deriving DecidableEq, Repr

structure CodeSet where
  ranges : List CodeRange
  deriving DecidableEq, Repr

def maxCode : Nat := 0x10FFFF

def succCode (n : Nat) : Nat := if n = 0xD7FF then 0xE000 else n + 1

def predCode (n : Nat) : Nat := if n = 0xE000 then 0xD7FF else n - 1

def CodeRange.inter? (a b : CodeRange) : Option CodeRange :=
  if max a.lo b.lo ≤ min a.hi b.hi then some ⟨max a.lo b.lo, min a.hi b.hi⟩ else none

namespace CodeSet

def empty : CodeSet := ⟨[]⟩

def all : CodeSet := ⟨[⟨0, maxCode⟩]⟩

def isEmpty (s : CodeSet) : Bool := s.ranges.isEmpty

def range (lo hi : Nat) : CodeSet := ⟨[⟨lo, hi⟩]⟩

def singleton (c : Char) : CodeSet := range c.toNat c.toNat

/-- The set with the given bounds, which are in increasing order. -/
def ofPairs (pairs : List (Nat × Nat)) : CodeSet := ⟨pairs.map fun p => ⟨p.1, p.2⟩⟩

def containsCode : List CodeRange → Nat → Bool
  | [], _ => false
  | r :: rest, n => r.lo ≤ n && (n ≤ r.hi || containsCode rest n)

def contains (s : CodeSet) (c : Char) : Bool := containsCode s.ranges c.toNat

/-- Adds a range, joining it with the ranges that it overlaps or touches. -/
def insertRange (r : CodeRange) : List CodeRange → List CodeRange
  | [] => [r]
  | s :: rest =>
    if r.hi + 1 < s.lo then r :: s :: rest
    else if s.hi + 1 < r.lo then s :: insertRange r rest
    else insertRange ⟨min r.lo s.lo, max r.hi s.hi⟩ rest

def insert (s : CodeSet) (r : CodeRange) : CodeSet := ⟨insertRange r s.ranges⟩

def union (a b : CodeSet) : CodeSet := b.ranges.foldl insert a

def unions (sets : List CodeSet) : CodeSet := sets.foldl union empty

def inter (a b : CodeSet) : CodeSet :=
  ⟨a.ranges.flatMap fun r => b.ranges.filterMap r.inter?⟩

def gaps (limit : Nat) : Nat → List CodeRange → List CodeRange
  | next, [] => if next ≤ limit then [⟨next, limit⟩] else []
  | next, r :: rest =>
    if next < r.lo ∧ next ≤ predCode r.lo then
      ⟨next, predCode r.lo⟩ :: gaps limit (succCode r.hi) rest
    else gaps limit (succCode r.hi) rest

def complement (s : CodeSet) : CodeSet := ⟨gaps maxCode 0 s.ranges⟩

def diff (a b : CodeSet) : CodeSet := a.inter b.complement

def symmDiff (a b : CodeSet) : CodeSet := (a.union b).diff (a.inter b)

def single? (s : CodeSet) : Option Char :=
  match s.ranges with
  | [r] => if r.lo = r.hi then some (Char.ofNat r.lo) else none
  | _ => none

def isAscii (s : CodeSet) : Bool := s.ranges.all fun r => r.hi < 128

end CodeSet

end TextCursor.Unicode
