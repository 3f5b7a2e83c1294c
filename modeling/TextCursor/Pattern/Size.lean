import TextCursor.Pattern.ByteSequence
import TextCursor.Pattern.Tree
/-!
How much room a compiled tree takes, computed from the tree alone so that one that is too large is
refused before it is built. A tree is compiled twice, to an automaton that reads a text forwards
and notes groups, and to one that reads it backwards and notes none; neither may pass the limit.

A repetition takes up its body once for every copy. A set of ASCII codepoints is a single state
with a table of ranges. Any other set is an automaton over UTF-8 bytes: forwards, equal ends of its
sequences are shared; backwards, equal starts of sequences that follow each other. Literals that
stand for choice are joined in one tree of bytes.
-/
namespace TextCursor.Pattern

def sizeLimit : Nat := 10485760

/-- The size of a state without what it leads to, of a choice that a state offers, and of a range
in the table of a state. -/
def stateSize : Nat := 32
def choiceSize : Nat := 4
def rangeSize : Nat := 8

def forkSize : Nat := stateSize + 2 * choiceSize
def tableSize (ranges : Nat) : Nat := stateSize + ranges * rangeSize

inductive Direction where
  | forward
  | backward
  deriving DecidableEq, Repr

/-- The size of a set beyond ASCII. Each place inside its sequences is a state with a table, equal
places being one; or each range is a state, and each sequence a choice. -/
def wideSetSize (set : Unicode.CodeSet) : Direction → Nat
  | .forward =>
    let places := (innerPlaces maxByteLength (setSequences set)).eraseDups
    stateSize + (places.map fun seqs => tableSize (startGroups seqs).length).foldl (· + ·) 0
  | .backward =>
    let seqs := setSequences set
    2 * stateSize + seqs.length * choiceSize + sharedRanges [] seqs * stateSize

def setSize (d : Direction) (set : Unicode.CodeSet) : Nat :=
  if set.isAscii then stateSize + tableSize set.ranges.length else wideSetSize set d

abbrev Word := List UInt8

def Word.ofText (text : Text) : Direction → Word
  | .forward => Utf8.encode text
  | .backward => (Utf8.encode text).reverse

/-- Words in runs: a word that ends here closes a run, as what comes before it is preferred to it
and what follows is not. -/
def wordRuns : List Word → List (List Word)
  | [] => [[]]
  | [] :: rest => [] :: wordRuns rest
  | w :: rest =>
    match wordRuns rest with
    | run :: more => (w :: run) :: more
    | [] => [[w]]

def dropRepeatedEnds : List Word → List Word
  | [] :: rest => [] :: rest.dropWhile List.isEmpty
  | words => words

def wordRests (run : List Word) : List (List Word) :=
  (run.filterMap List.head?).eraseDups.map fun b =>
    (run.filter fun w => w.head? == some b).map List.tail

/-- The size of what words lead through, the end apart: a state with a choice for every run and for
every word that ends, and a state for every run. -/
def wordsSize : Nat → List Word → Nat
  | 0, _ => 0
  | depth + 1, words =>
    if words.all List.isEmpty then 0
    else
      let runs := wordRuns (dropRepeatedEnds words)
      let choices := (runs.filter fun run => !run.isEmpty).length + (runs.length - 1)
      let runSize (run : List Word) : Nat :=
        match wordRests run with
        | [] => 0
        | [rest] => stateSize + wordsSize depth rest
        | rests => tableSize rests.length + (rests.map (wordsSize depth)).foldl (· + ·) 0
      stateSize + choices * choiceSize + (runs.map runSize).foldl (· + ·) 0

def literalsSize (d : Direction) (texts : List Text) : Nat :=
  let words := texts.map (Word.ofText · d)
  stateSize + wordsSize ((words.map List.length).foldl max 0) words

def copiesSize (body : Nat) : Nat → Nat
  | 0 => stateSize
  | n => n * body

/-- The size of a repetition whose body has size `body`; `solid` tells that the body takes a byte
at least. -/
def repetitionSize (count : Count) (solid : Bool) (body : Nat) : Nat :=
  match count.least, count.most with
  | 0, some 1 => forkSize + body + stateSize
  | least, some most =>
    copiesSize body least +
      if least = most then 0 else stateSize + (most - least) * (forkSize + body)
  | 0, none => if solid then forkSize + body else body + 2 * forkSize + stateSize
  | least, none => least * body + forkSize

namespace Tree

def literal? : Tree → Option Text
  | literal chars => some chars
  | _ => none

mutual

def hasEmptySet : Tree → Bool
  | codes _ set => set.isEmpty
  | repetition _ _ sub => sub.hasEmptySet
  | capture _ _ sub => sub.hasEmptySet
  | concat parts => anyHasEmptySet parts
  | alternation branches => anyHasEmptySet branches
  | _ => false

def anyHasEmptySet : List Tree → Bool
  | [] => false
  | t :: rest => t.hasEmptySet || anyHasEmptySet rest

end

mutual

def endsAtStop : Tree → Bool
  | look l => l == .stop
  | repetition count _ sub => 0 < count.least && sub.endsAtStop
  | capture _ _ sub => sub.endsAtStop
  | concat parts => concatEndsAtStop parts
  | alternation branches => allEndAtStop branches
  | _ => false

def concatEndsAtStop : List Tree → Bool
  | [] => false
  | t :: rest => concatEndsAtStop rest || (t.endsAtStop && allOnlyEmpty rest)

def allEndAtStop : List Tree → Bool
  | [] => true
  | t :: rest => t.endsAtStop && allEndAtStop rest

end

mutual

def size (d : Direction) : Tree → Nat
  | empty => stateSize
  | literal chars => chars.byteLength * stateSize
  | codes _ set => setSize d set
  | look _ => stateSize
  | repetition count _ sub =>
    repetitionSize count (sub.consumes && !sub.hasEmptySet) (sub.size d)
  | capture _ _ sub =>
    match d with
    | .forward => 2 * stateSize + sub.size d
    | .backward => sub.size d
  | concat parts => sizeAll d parts
  | alternation branches =>
    match branches.mapM literal? with
    | some texts => literalsSize d texts
    | none => 2 * stateSize + branches.length * choiceSize + sizeAll d branches

def sizeAll (d : Direction) : List Tree → Nat
  | [] => 0
  | t :: rest => t.size d + sizeAll d rest

end

def forwardSize (t : Tree) : Nat :=
  stateSize + (capture 0 none t).size .forward + stateSize

/-- The size of the automaton that reads backwards. Unless the tree only matches at the end of a
text, it may pass over any bytes before it starts. -/
def backwardSize (t : Tree) : Nat :=
  let start := if t.endsAtStop then stateSize else forkSize + stateSize + tableSize 1
  start + t.size .backward + stateSize

def fits (t : Tree) : Bool := t.forwardSize ≤ sizeLimit && t.backwardSize ≤ sizeLimit

end Tree

end TextCursor.Pattern
