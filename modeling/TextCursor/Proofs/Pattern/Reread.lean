import TextCursor.Pattern.Print
import TextCursor.Proofs.Pattern.Sound
/-!
The tree that a written tree is read back as. Operators stand one behind the other without
parentheses, and the sign of an option is also the mark of a lazy repetition: an operator takes an
option behind it for its own mark. All else is read as it was written, with the capture groups
numbered anew and every tree simplified as it is built.
-/
namespace TextCursor.Pattern

def Count.option : Count := ⟨0, some 1⟩

structure Operator where
  count : Count
  greedy : Bool
  deriving DecidableEq, Repr

/-- What a repetition is written as, the mark of a lazy one as the option that it looks like. -/
def signs (count : Count) (greedy : Bool) : List Count :=
  if greedy || count.most == some count.least then [count] else [count, .option]

def operators : List Count → List Operator
  | [] => []
  | [count] => [⟨count, true⟩]
  | count :: next :: rest =>
    if next = .option then ⟨count, false⟩ :: operators rest
    else ⟨count, true⟩ :: operators (next :: rest)

namespace Tree

def under (t : Tree) (signs : List Count) : Tree :=
  (operators signs).foldl (fun t o => repeated o.count o.greedy t) t

mutual

/-- What the written tree with further signs behind it is read as, `n` capture groups having been
read before. -/
def reread (n : Nat) (behind : List Count) : Tree → Tree
  | empty => empty.under behind
  | literal chars => (literal chars).under behind
  | codes bytes set => (codes bytes set).under behind
  | look l => (look l).under behind
  | repetition count greedy sub => sub.reread n (signs count greedy ++ behind)
  | capture _ name sub => (capture (n + 1) name (sub.reread (n + 1) [])).under behind
  | concat parts => (concatenation (rereadAll n parts)).under behind
  | alternation branches => (anyOf (rereadAll n branches)).under behind

def rereadAll (n : Nat) : List Tree → List Tree
  | [] => []
  | t :: rest => t.reread n [] :: rereadAll (n + t.captures.length) rest

end

theorem under_nil (t : Tree) : t.under [] = t := rfl

end Tree

theorem signs_bounded {count : Count} (bounded : count.Bounded) (greedy : Bool) :
    ∀ c ∈ signs count greedy, c.Bounded := by
  have option : Count.option.Bounded := ⟨by decide, by simp [Count.option, maxRepetition]⟩
  intro c mem
  unfold signs at mem
  split at mem
  · rw [List.mem_singleton.mp mem]
    exact bounded
  · rcases List.mem_cons.mp mem with rfl | mark
    · exact bounded
    · rw [List.mem_singleton.mp mark]
      exact option

theorem signs_print (count : Count) (greedy : Bool) :
    (signs count greedy).flatMap Count.print = count.print ++ lazyMark count greedy := by
  unfold signs lazyMark
  split
  · simp
  · have mark : Count.option.print = ['?'] := rfl
    simp [mark]

end TextCursor.Pattern
