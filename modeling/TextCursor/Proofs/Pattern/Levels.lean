import TextCursor.Proofs.Pattern.Reread
import TextCursor.Proofs.Unicode.Canonical
/-!
How deep a pattern nests, as a number. A pattern is refused for its depth just if that number is above
the limit, and a fault of the check is never any other. The levels of what a tree is written as can be
told from the tree: concatenations, alternations and long literals stand in parentheses, and so add
two.
-/
namespace TextCursor.Pattern

mutual

def ClassSet.levels : ClassSet → Nat
  | bracketed _ _ set => set.levels + 1
  | union _ items => ClassSet.levelsAll items + 1
  | op _ _ lhs rhs => max lhs.levels rhs.levels + 1
  | _ => 0

def ClassSet.levelsAll : List ClassSet → Nat
  | [] => 0
  | set :: rest => max set.levels (ClassSet.levelsAll rest)

end

mutual

def Ast.levels : Ast → Nat
  | bracketed _ _ set => set.levels + 1
  | repetition _ _ _ sub => sub.levels + 1
  | group _ _ sub => sub.levels + 1
  | alternation _ branches => Ast.levelsAll branches + 1
  | concat _ parts => Ast.levelsAll parts + 1
  | _ => 0

def Ast.levelsAll : List Ast → Nat
  | [] => 0
  | a :: rest => max a.levels (Ast.levelsAll rest)

end

/-- The check of something with `levels` levels, below `depth` of them: it fails if they are too many
together, and then for that. -/
def Limited (check : Except Fault Unit) (depth levels : Nat) : Prop :=
  if depth + levels ≤ nestLimit then check = .ok ()
  else ∃ span, check = fault span .nestLimitExceeded

theorem limited_leaf {depth : Nat} (inside : depth ≤ nestLimit) : Limited (.ok ()) depth 0 := by
  rw [Limited, Nat.add_zero, if_pos inside]

theorem limited_both {first second : Except Fault Unit} {depth m n : Nat}
    (left : Limited first depth m) (right : Limited second depth n) :
    Limited (first >>= fun _ => second) depth (max m n) := by
  unfold Limited at *
  by_cases fits : depth + m ≤ nestLimit
  · rw [if_pos fits] at left
    rw [left]
    by_cases fits' : depth + n ≤ nestLimit
    · rw [if_pos fits'] at right
      rw [if_pos (by omega)]
      exact right
    · rw [if_neg fits'] at right
      rw [if_neg (by omega)]
      exact right
  · rw [if_neg fits] at left
    obtain ⟨span, failed⟩ := left
    rw [if_neg (by omega), failed]
    exact ⟨span, rfl⟩

theorem limited_below {check : Except Fault Unit} {depth n : Nat} (span : Span)
    (inner : depth + 1 ≤ nestLimit → Limited check (depth + 1) n) :
    Limited (checkDepth depth span >>= fun _ => check) depth (n + 1) := by
  have levels : depth + 1 + n = depth + (n + 1) := by omega
  unfold Limited checkDepth at *
  by_cases more : depth < nestLimit
  · rw [if_pos more, ← levels]
    exact inner more
  · rw [if_neg more, if_neg (by omega)]
    exact ⟨span, rfl⟩

mutual

theorem ClassSet.checkDepth_limited : (set : ClassSet) → ∀ depth, depth ≤ nestLimit →
    Limited (set.checkDepth depth) depth set.levels
  | .empty _, _, inside => limited_leaf inside
  | .literal _, _, inside => limited_leaf inside
  | .range _ _ _, _, inside => limited_leaf inside
  | .ascii _ _ _, _, inside => limited_leaf inside
  | .property _, _, inside => limited_leaf inside
  | .shorthand _, _, inside => limited_leaf inside
  | .bracketed span _ set, depth, _ =>
    limited_below span (ClassSet.checkDepth_limited set (depth + 1))
  | .union span items, depth, _ =>
    limited_below span (ClassSet.checkDepths_limited items (depth + 1))
  | .op span _ lhs rhs, depth, _ =>
    limited_below span fun inside =>
      limited_both (ClassSet.checkDepth_limited lhs (depth + 1) inside)
        (ClassSet.checkDepth_limited rhs (depth + 1) inside)

theorem ClassSet.checkDepths_limited : (sets : List ClassSet) → ∀ depth, depth ≤ nestLimit →
    Limited (ClassSet.checkDepths depth sets) depth (ClassSet.levelsAll sets)
  | [], _, inside => limited_leaf inside
  | set :: rest, depth, inside =>
    limited_both (ClassSet.checkDepth_limited set depth inside)
      (ClassSet.checkDepths_limited rest depth inside)

end

mutual

theorem Ast.checkDepth_limited : (a : Ast) → ∀ depth, depth ≤ nestLimit →
    Limited (a.checkDepth depth) depth a.levels
  | .empty _, _, inside => limited_leaf inside
  | .flags _ _, _, inside => limited_leaf inside
  | .literal _, _, inside => limited_leaf inside
  | .dot _, _, inside => limited_leaf inside
  | .assertion _ _, _, inside => limited_leaf inside
  | .property _, _, inside => limited_leaf inside
  | .shorthand _, _, inside => limited_leaf inside
  | .bracketed span _ set, depth, _ =>
    limited_below span (ClassSet.checkDepth_limited set (depth + 1))
  | .repetition span _ _ sub, depth, _ => limited_below span (Ast.checkDepth_limited sub (depth + 1))
  | .group span _ sub, depth, _ => limited_below span (Ast.checkDepth_limited sub (depth + 1))
  | .alternation span branches, depth, _ =>
    limited_below span (Ast.checkDepths_limited branches (depth + 1))
  | .concat span parts, depth, _ =>
    limited_below span (Ast.checkDepths_limited parts (depth + 1))

theorem Ast.checkDepths_limited : (as : List Ast) → ∀ depth, depth ≤ nestLimit →
    Limited (Ast.checkDepths depth as) depth (Ast.levelsAll as)
  | [], _, inside => limited_leaf inside
  | a :: rest, depth, inside =>
    limited_both (Ast.checkDepth_limited a depth inside)
      (Ast.checkDepths_limited rest depth inside)

end

theorem parse_of_levels {verbose : Bool} {text : Text} {a : Ast}
    (read : readPattern verbose text = .ok a) (few : a.levels ≤ nestLimit) :
    Ast.parse verbose text = .ok a := by
  have checked := a.checkDepth_limited 0 (Nat.zero_le _)
  rw [Limited, Nat.zero_add, if_pos few] at checked
  simp [Ast.parse, read, checked, bind, Except.bind]

theorem parse_of_many_levels {verbose : Bool} {text : Text} {a : Ast}
    (read : readPattern verbose text = .ok a) (many : nestLimit < a.levels) :
    ∃ span, Ast.parse verbose text = fault span .nestLimitExceeded := by
  have checked := a.checkDepth_limited 0 (Nat.zero_le _)
  rw [Limited, Nat.zero_add, if_neg (by omega)] at checked
  obtain ⟨span, failed⟩ := checked
  exact ⟨span, by simp [Ast.parse, read, failed, fault, bind, Except.bind]⟩

/-- The levels of what a set is written as between its brackets: several items make up a union. -/
def insideLevels (set : Unicode.CodeSet) : Nat :=
  if 2 ≤ (set.ranges.flatMap Unicode.CodeRange.atoms).length then 1 else 0

def setLevels (bytes : Bool) (set : Unicode.CodeSet) : Nat :=
  if set.isEmpty then 2 else insideLevels set + 1 + if bytes then 1 else 0

def Look.levels : Look → Nat
  | lineStart _ => 1
  | lineStop _ => 1
  | word _ false => 1
  | _ => 0

namespace Tree

mutual

def levels (behind : List Count) : Tree → Nat
  | empty => 1 + (operators behind).length
  | literal chars => (if 1 < chars.length then 2 else 0) + (operators behind).length
  | codes bytes set => setLevels bytes set + (operators behind).length
  | look l => l.levels + (operators behind).length
  | repetition count greedy sub => sub.levels (signs count greedy ++ behind)
  | capture _ _ sub => sub.levels [] + 1 + (operators behind).length
  | concat parts => levelsAll parts + 2 + (operators behind).length
  | alternation branches => levelsAll branches + 2 + (operators behind).length

def levelsAll : List Tree → Nat
  | [] => 0
  | t :: rest => max (t.levels []) (levelsAll rest)

end

end Tree

end TextCursor.Pattern
