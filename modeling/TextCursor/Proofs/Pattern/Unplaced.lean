import TextCursor.Pattern.Lower
/-!
Patterns without their places. Spans only serve to say where a fault is: a pattern whose spans are
all forgotten has the tree that it had before, or none if it had none.
-/
namespace TextCursor.Pattern

def Span.nowhere : Span := .point .start

def Literal.unplaced (l : Literal) : Literal := { l with span := .nowhere }

def PropertyItem.unplaced (p : PropertyItem) : PropertyItem := { p with span := .nowhere }

def ShorthandItem.unplaced (p : ShorthandItem) : ShorthandItem := { p with span := .nowhere }

mutual

def ClassSet.unplaced : ClassSet → ClassSet
  | empty _ => empty .nowhere
  | literal l => literal l.unplaced
  | range _ lo hi => range .nowhere lo.unplaced hi.unplaced
  | ascii _ negated kind => ascii .nowhere negated kind
  | property p => property p.unplaced
  | shorthand p => shorthand p.unplaced
  | bracketed _ negated set => bracketed .nowhere negated set.unplaced
  | union _ items => union .nowhere (ClassSet.allUnplaced items)
  | op _ kind lhs rhs => op .nowhere kind lhs.unplaced rhs.unplaced

def ClassSet.allUnplaced : List ClassSet → List ClassSet
  | [] => []
  | set :: rest => set.unplaced :: ClassSet.allUnplaced rest

end

mutual

def Ast.unplaced : Ast → Ast
  | empty _ => empty .nowhere
  | flags _ items => flags .nowhere items
  | literal l => literal l.unplaced
  | dot _ => dot .nowhere
  | assertion _ kind => assertion .nowhere kind
  | property p => property p.unplaced
  | shorthand p => shorthand p.unplaced
  | bracketed _ negated set => bracketed .nowhere negated set.unplaced
  | repetition _ count greedy sub => repetition .nowhere count greedy sub.unplaced
  | group _ kind sub => group .nowhere kind sub.unplaced
  | alternation _ branches => alternation .nowhere (Ast.allUnplaced branches)
  | concat _ parts => concat .nowhere (Ast.allUnplaced parts)

def Ast.allUnplaced : List Ast → List Ast
  | [] => []
  | a :: rest => a.unplaced :: Ast.allUnplaced rest

end

theorem ClassSet.allUnplaced_eq (sets : List ClassSet) :
    allUnplaced sets = sets.map unplaced := by
  induction sets with
  | nil => rfl
  | cons set rest ih => simp [allUnplaced, ih]

theorem Ast.allUnplaced_eq (as : List Ast) : allUnplaced as = as.map unplaced := by
  induction as with
  | nil => rfl
  | cons a rest ih => simp [allUnplaced, ih]

section

variable {α β γ δ : Type}

/-- Both fail, or both succeed with results that `R` relates. -/
inductive Alike (R : α → β → Prop) : Except Fault α → Except Fault β → Prop
  | ok {a : α} {b : β} (related : R a b) : Alike R (.ok a) (.ok b)
  | error (e e' : Fault) : Alike R (.error e) (.error e')

namespace Alike

theorem refl (x : Except Fault α) : Alike Eq x x := by
  cases x with
  | error e => exact .error e e
  | ok a => exact .ok rfl

theorem symm {x y : Except Fault α} (h : Alike Eq x y) : Alike Eq y x := by
  cases h with
  | error e e' => exact .error e' e
  | ok same => exact .ok same.symm

theorem trans {x y z : Except Fault α} (h : Alike Eq x y) (h' : Alike Eq y z) : Alike Eq x z := by
  cases h with
  | error e e' =>
    cases h' with
    | error _ e'' => exact .error e e''
  | ok same =>
    cases h' with
    | ok same' => exact .ok (same.trans same')

theorem ensure (failing : Bool) (s s' : Span) (kind kind' : SyntaxErrorKind) :
    Alike Eq (if failing then fault s kind else .ok ())
      (if failing then fault s' kind' else .ok ()) := by
  cases failing with
  | false => exact .ok rfl
  | true => exact .error _ _

theorem map {R : α → β → Prop} {S : γ → δ → Prop} {x : Except Fault α} {y : Except Fault β}
    {f : α → γ} {g : β → δ} (h : Alike R x y) (made : ∀ a b, R a b → S (f a) (g b)) :
    Alike S (x.map f) (y.map g) := by
  cases h with
  | error e e' => exact .error e e'
  | ok related => exact .ok (made _ _ related)

theorem mono {R S : α → β → Prop} {x : Except Fault α} {y : Except Fault β} (h : Alike R x y)
    (weaker : ∀ a b, R a b → S a b) : Alike S x y := by
  cases h with
  | error e e' => exact .error e e'
  | ok related => exact .ok (weaker _ _ related)

theorem bind {R : α → β → Prop} {S : γ → δ → Prop} {x : Except Fault α} {y : Except Fault β}
    {f : α → Except Fault γ} {g : β → Except Fault δ} (h : Alike R x y)
    (next : ∀ a b, R a b → Alike S (f a) (g b)) : Alike S (x >>= f) (y >>= g) := by
  cases h with
  | error e e' => exact .error e e'
  | ok related => exact next _ _ related

theorem andThen {S : γ → δ → Prop} {x y : Except Fault α} {f : α → Except Fault γ}
    {g : α → Except Fault δ} (h : Alike Eq x y) (next : ∀ a, Alike S (f a) (g a)) :
    Alike S (x >>= f) (y >>= g) := by
  refine h.bind ?_
  rintro a _ rfl
  exact next a

end Alike

end

theorem negate_unplaced (flags : Flags) (s s' : Span) (negated : Bool) (set : Unicode.CodeSet) :
    Alike Eq (negate flags s negated set) (negate flags s' negated set) := by
  unfold negate
  split
  · exact .refl _
  · split
    · exact .refl _
    · exact .error _ _

theorem Literal.scalar_unplaced (flags : Flags) (l : Literal) :
    Alike Eq (l.unplaced.scalar flags) (l.scalar flags) := by
  unfold scalar unplaced
  split
  · exact .error _ _
  · exact .refl _

theorem Literal.classScalar_unplaced (flags : Flags) (l : Literal) :
    Alike Eq (l.unplaced.classScalar flags) (l.classScalar flags) := by
  refine (l.scalar_unplaced flags).andThen ?_
  intro c
  split
  · exact .error _ _
  · exact .refl _

theorem Literal.lower_unplaced (flags : Flags) (l : Literal) :
    Alike Eq (l.unplaced.lower flags) (l.lower flags) :=
  (l.scalar_unplaced flags).andThen fun _ => .refl _

theorem PropertyItem.lower_unplaced (flags : Flags) (p : PropertyItem) :
    Alike Eq (p.unplaced.lower flags) (p.lower flags) := by
  unfold lower unplaced
  split
  · exact .error _ _
  · cases p.query.find with
    | ok set => exact negate_unplaced _ _ _ _ _
    | error e => cases e <;> exact .error _ _

theorem ShorthandItem.lower_unplaced (flags : Flags) (p : ShorthandItem) :
    Alike Eq (p.unplaced.lower flags) (p.lower flags) :=
  negate_unplaced _ _ _ _ _

mutual

theorem ClassSet.lower_unplaced (flags : Flags) : (set : ClassSet) →
    Alike Eq (set.unplaced.lower flags) (set.lower flags)
  | empty _ => .refl _
  | literal l => (l.classScalar_unplaced flags).andThen fun _ => .refl _
  | range _ lo hi =>
    (lo.classScalar_unplaced flags).andThen fun _ =>
      (hi.classScalar_unplaced flags).andThen fun _ => .refl _
  | ascii _ _ _ => negate_unplaced _ _ _ _ _
  | property p => p.lower_unplaced flags
  | shorthand p => p.lower_unplaced flags
  | bracketed _ _ set =>
    (ClassSet.lower_unplaced flags set).andThen fun _ => negate_unplaced _ _ _ _ _
  | union _ items => ClassSet.lowerAll_unplaced flags items .empty
  | op _ _ lhs rhs =>
    (ClassSet.lower_unplaced flags lhs).andThen fun _ =>
      (ClassSet.lower_unplaced flags rhs).andThen fun _ => .refl _

theorem ClassSet.lowerAll_unplaced (flags : Flags) : (sets : List ClassSet) → ∀ before,
    Alike Eq (ClassSet.lowerAll flags before (ClassSet.allUnplaced sets))
      (ClassSet.lowerAll flags before sets)
  | [], _ => .refl _
  | set :: rest, _ =>
    (ClassSet.lower_unplaced flags set).andThen fun _ => ClassSet.lowerAll_unplaced flags rest _

end

mutual

theorem Ast.lower_unplaced : (a : Ast) → ∀ f,
    Alike Eq (a.unplaced.lower f) (a.lower f)
  | empty _, _ => .refl _
  | .flags _ _, _ => .refl _
  | literal l, f => (l.lower_unplaced f).andThen fun _ => .refl _
  | dot _, f => by
    unfold Ast.unplaced Ast.lower
    split
    · exact .refl _
    · exact .error _ _
  | assertion _ _, _ => .refl _
  | property p, f => (p.lower_unplaced f).andThen fun _ => .refl _
  | shorthand p, f => (p.lower_unplaced f).andThen fun _ => .refl _
  | bracketed span negated set, f =>
    (ClassSet.lower_unplaced f (.bracketed span negated set)).andThen fun _ => .refl _
  | repetition _ _ _ sub, f => (Ast.lower_unplaced sub f).andThen fun _ => .refl _
  | group _ (.capture _ _) sub, f => (Ast.lower_unplaced sub f).andThen fun _ => .refl _
  | group _ (.plain items) sub, f =>
    (Ast.lower_unplaced sub (f.applyAll items)).andThen fun _ => .refl _
  | alternation _ branches, f =>
    (Ast.lowerAll_unplaced branches f).andThen fun _ => .refl _
  | concat _ parts, f => (Ast.lowerAll_unplaced parts f).andThen fun _ => .refl _

theorem Ast.lowerAll_unplaced : (as : List Ast) → ∀ f,
    Alike Eq (Ast.lowerAll f (Ast.allUnplaced as)) (Ast.lowerAll f as)
  | [], _ => .refl _
  | a :: rest, f =>
    (Ast.lower_unplaced a f).andThen fun p =>
      (Ast.lowerAll_unplaced rest p.2).andThen fun _ => .refl _

end

theorem Ast.lowerAll_same {as as' : List Ast} (same : as.map unplaced = as'.map unplaced)
    (f : Flags) : Alike Eq (Ast.lowerAll f as) (Ast.lowerAll f as') := by
  rw [← Ast.allUnplaced_eq, ← Ast.allUnplaced_eq] at same
  exact (Ast.lowerAll_unplaced as f).symm.trans (same ▸ Ast.lowerAll_unplaced as' f)

end TextCursor.Pattern
