import TextCursor.Pattern.Parse
/-!
How deep a pattern may nest. Classes, their operators and unions, repetitions, groups, alternations
and concatenations each add a level; the first that goes beyond the limit, in the order in which
they stand in the text, is at fault.
-/
namespace TextCursor.Pattern

def checkDepth (depth : Nat) (span : Span) : Except Fault Unit :=
  if depth < nestLimit then .ok () else fault span .nestLimitExceeded

mutual

def ClassSet.checkDepth (depth : Nat) : ClassSet → Except Fault Unit
  | bracketed span _ set => do
    Pattern.checkDepth depth span
    set.checkDepth (depth + 1)
  | union span items => do
    Pattern.checkDepth depth span
    ClassSet.checkDepths (depth + 1) items
  | op span _ lhs rhs => do
    Pattern.checkDepth depth span
    lhs.checkDepth (depth + 1)
    rhs.checkDepth (depth + 1)
  | _ => .ok ()

def ClassSet.checkDepths (depth : Nat) : List ClassSet → Except Fault Unit
  | [] => .ok ()
  | set :: rest => do
    set.checkDepth depth
    ClassSet.checkDepths depth rest

end

mutual

def Ast.checkDepth (depth : Nat) : Ast → Except Fault Unit
  | bracketed span _ set => do
    Pattern.checkDepth depth span
    set.checkDepth (depth + 1)
  | repetition span _ _ sub => do
    Pattern.checkDepth depth span
    sub.checkDepth (depth + 1)
  | group span _ sub => do
    Pattern.checkDepth depth span
    sub.checkDepth (depth + 1)
  | alternation span branches => do
    Pattern.checkDepth depth span
    Ast.checkDepths (depth + 1) branches
  | concat span parts => do
    Pattern.checkDepth depth span
    Ast.checkDepths (depth + 1) parts
  | _ => .ok ()

def Ast.checkDepths (depth : Nat) : List Ast → Except Fault Unit
  | [] => .ok ()
  | a :: rest => do
    a.checkDepth depth
    Ast.checkDepths depth rest

end

def Ast.parse (verbose : Bool) (text : Text) : Except Fault Ast := do
  let a ← readPattern verbose text
  a.checkDepth 0
  .ok a

end TextCursor.Pattern
