import TextCursor.Pattern.Ast
import TextCursor.Unicode.CaseFolding
/-!
A pattern by what it matches: flags are resolved, classes are sets of codepoints and groups that
capture nothing are gone. Trees are made by `ofSet`, `repeated`, `concatenation` and `anyOf`, which
simplify as they build: nested concatenations and alternations are flattened, neighbouring literals
joined, trivial repetitions dropped, and what all branches of an alternation begin with is pulled
in front of it.
-/
namespace TextCursor.Pattern

inductive WordLook where
  | boundary
  | notBoundary
  | start
  | stop
  | startHalf
  | stopHalf
  deriving DecidableEq, Repr

inductive Look where
  | start
  | stop
  | lineStart (crlf : Bool)
  | lineStop (crlf : Bool)
  | word (kind : WordLook) (unicode : Bool)
  deriving DecidableEq, Repr

inductive Tree where
  | empty
  | literal (chars : Text)
  /-- A set of codepoints; `bytes` marks one that was given as a set of ASCII bytes. -/
  | codes (bytes : Bool) (set : Unicode.CodeSet)
  | look (l : Look)
  | repetition (count : Count) (greedy : Bool) (sub : Tree)
  | capture (index : Nat) (name : Option Text) (sub : Tree)
  | concat (parts : List Tree)
  | alternation (branches : List Tree)

namespace Tree

mutual

def same : Tree → Tree → Bool
  | empty, empty => true
  | literal a, literal b => a == b
  | codes p s, codes q t => p == q && s == t
  | look a, look b => a == b
  | repetition c g s, repetition d h t => c == d && g == h && s.same t
  | capture i n s, capture j m t => i == j && n == m && s.same t
  | concat as, concat bs => sameAll as bs
  | alternation as, alternation bs => sameAll as bs
  | _, _ => false

def sameAll : List Tree → List Tree → Bool
  | [], [] => true
  | a :: as, b :: bs => a.same b && sameAll as bs
  | _, _ => false

end

mutual

theorem same_iff : (a b : Tree) → (a.same b = true ↔ a = b)
  | empty, b => by cases b <;> simp [same]
  | literal _, b => by cases b <;> simp [same]
  | codes _ _, b => by cases b <;> simp [same]
  | look _, b => by cases b <;> simp [same]
  | repetition _ _ s, b => by cases b <;> simp [same, same_iff s, and_assoc]
  | capture _ _ s, b => by cases b <;> simp [same, same_iff s, and_assoc]
  | concat as, b => by cases b <;> simp [same, sameAll_iff as]
  | alternation as, b => by cases b <;> simp [same, sameAll_iff as]

theorem sameAll_iff : (as bs : List Tree) → (sameAll as bs = true ↔ as = bs)
  | [], bs => by cases bs <;> simp [sameAll]
  | a :: as, bs => by cases bs <;> simp [sameAll, same_iff a, sameAll_iff as]

end

instance : DecidableEq Tree := fun a b => decidable_of_iff _ (same_iff a b)

def fail : Tree := codes true .empty

mutual

def onlyEmpty : Tree → Bool
  | empty => true
  | literal _ => false
  | codes _ _ => false
  | look _ => true
  | repetition _ _ sub => sub.onlyEmpty
  | capture _ _ sub => sub.onlyEmpty
  | concat parts => allOnlyEmpty parts
  | alternation branches => allOnlyEmpty branches

def allOnlyEmpty : List Tree → Bool
  | [] => true
  | t :: rest => t.onlyEmpty && allOnlyEmpty rest

end

mutual

def consumes : Tree → Bool
  | empty => false
  | literal _ => true
  | codes _ _ => true
  | look _ => false
  | repetition count _ sub => 0 < count.least && sub.consumes
  | capture _ _ sub => sub.consumes
  | concat parts => anyConsumes parts
  | alternation branches => allConsume branches

def anyConsumes : List Tree → Bool
  | [] => false
  | t :: rest => t.consumes || anyConsumes rest

def allConsume : List Tree → Bool
  | [] => true
  | t :: rest => t.consumes && allConsume rest

end

def ofSet (bytes : Bool) (set : Unicode.CodeSet) : Tree :=
  if set.isEmpty then fail
  else
    match set.single? with
    | some c => literal [c]
    | none => codes bytes set

/-- The bounds of a repetition of `sub`: one round is enough for what only matches the empty
text. -/
def capCount (count : Count) (sub : Tree) : Count :=
  if sub.onlyEmpty then ⟨min count.least 1, some ((count.most.map (min · 1)).getD 1)⟩
  else count

def repeated (count : Count) (greedy : Bool) (sub : Tree) : Tree :=
  let count := capCount count sub
  if count = ⟨0, some 0⟩ then empty
  else if count = ⟨1, some 1⟩ then sub
  else repetition count greedy sub

def joinLiterals : List Tree → List Tree
  | [] => []
  | t :: rest =>
    match t, joinLiterals rest with
    | literal a, literal b :: rest => literal (a ++ b) :: rest
    | t, rest => t :: rest

def asParts : Tree → List Tree
  | concat parts => parts
  | empty => []
  | t => [t]

def concatenation (trees : List Tree) : Tree :=
  match joinLiterals (trees.flatMap asParts) with
  | [] => empty
  | [t] => t
  | parts => concat parts

def asBranches : Tree → List Tree
  | alternation branches => branches
  | t => [t]

def singleChar? : Tree → Option Char
  | literal [c] => some c
  | _ => none

def set? : Tree → Option Unicode.CodeSet
  | codes _ set => some set
  | _ => none

/-- The alternation of trees, without a common start pulled in front. Branches that are all single
codepoints, or all sets, make up one set. -/
def anyOfDistinct (trees : List Tree) : Tree :=
  match trees.flatMap asBranches with
  | [] => fail
  | [t] => t
  | branches =>
    match branches.mapM singleChar? with
    | some chars => ofSet false (.unions (chars.map .singleton))
    | none =>
      match branches.mapM set? with
      | some sets => ofSet false (.unions sets)
      | none => alternation branches

def commonStart : List Tree → List Tree → List Tree
  | a :: as, b :: bs => if a = b then a :: commonStart as bs else []
  | _, _ => []

def parts? : Tree → Option (List Tree)
  | concat parts => some parts
  | _ => none

/-- The alternation of trees. If all branches are concatenations and start alike, what they start
with stands in front of the alternation of the rest. -/
def anyOf (trees : List Tree) : Tree :=
  match anyOfDistinct trees with
  | alternation branches =>
    match branches.mapM parts? with
    | some (first :: others) =>
      let common := others.foldl commonStart first
      if common.isEmpty then alternation branches
      else
        concatenation (common ++
          [anyOfDistinct ((first :: others).map fun parts =>
            concatenation (parts.drop common.length))])
    | _ => alternation branches
  | t => t

mutual

def captures : Tree → List (Nat × Option Text)
  | repetition _ _ sub => sub.captures
  | capture index name sub => (index, name) :: sub.captures
  | concat parts => capturesAll parts
  | alternation branches => capturesAll branches
  | _ => []

def capturesAll : List Tree → List (Nat × Option Text)
  | [] => []
  | t :: rest => t.captures ++ capturesAll rest

end

end Tree

end TextCursor.Pattern
