import Mathlib.Data.List.Forall2
import TextCursor.Pattern.Bracketed
import TextCursor.Proofs.Pattern.Elsewhere
/-!
Reading a character class somewhere else: brackets, operators and items are the same but for their
places, step by step.
-/
namespace TextCursor.Pattern

open List (Forall₂)

section

variable {text : Text} {r r' : Reader}

theorem asciiItem?_same (same : r.Same text r') :
    Option.Rel (SameReading ClassSet.unplaced text.tail) (asciiItem? r) (asciiItem? r') := by
  unfold asciiItem?
  refine (same.expect? '[' [':']).bind ?_
  intro q q' opened
  have caret : SameReading id text.tail (if q.peek? = some '^' then (true, q.bump) else (false, q))
      (if q'.peek? = some '^' then (true, q'.bump) else (false, q')) := by
    rw [opened.peek?]
    split
    · exact ⟨rfl, opened.bump⟩
    · exact ⟨rfl, opened⟩
  generalize (if q.peek? = some '^' then (true, q.bump) else (false, q)) = p at caret
  generalize (if q'.peek? = some '^' then (true, q'.bump) else (false, q')) = p' at caret
  obtain ⟨negated, inside⟩ := caret
  obtain ⟨name, closed⟩ := inside.collect false (· != ':')
  refine (closed.expect? ':' [']']).bind ?_
  intro u u' behind
  refine (Option.Rel.of_eq (congrArg asciiClass? name)).bind ?_
  rintro kind _ rfl
  exact .some ⟨congrArg (ClassSet.ascii .nowhere · kind) negated, behind.shorter (List.tail_suffix _)⟩

def ItemList.unplaced (l : ItemList) : List ClassSet := l.items.map ClassSet.unplaced

theorem ItemList.push_unplaced {l l' : ItemList} {item item' : ClassSet}
    (same : l.unplaced = l'.unplaced) (new : item.unplaced = item'.unplaced) :
    (l.push item).unplaced = (l'.push item').unplaced := by
  simp only [unplaced] at same
  simp [unplaced, push, same, new]

theorem ItemList.startAt_unplaced (r r' : Reader) :
    (startAt r).unplaced = (startAt r').unplaced :=
  rfl

theorem ItemList.isEmpty_unplaced (l : ItemList) : l.unplaced.isEmpty = l.items.isEmpty :=
  List.isEmpty_map

theorem ItemList.toSet_unplaced (l : ItemList) :
    l.toSet.unplaced = ItemList.toSet ⟨.nowhere, l.unplaced⟩ := by
  obtain ⟨span, items⟩ := l
  match items with
  | [] => rfl
  | [item] => rfl
  | first :: second :: rest =>
    simp [toSet, unplaced, ClassSet.unplaced, ClassSet.allUnplaced_eq]

theorem ItemList.toSet_same {l l' : ItemList} (same : l.unplaced = l'.unplaced) :
    l.toSet.unplaced = l'.toSet.unplaced := by
  rw [toSet_unplaced, toSet_unplaced, same]

inductive ClassFrame.Same : ClassFrame → ClassFrame → Prop
  | opened {outer outer' : ItemList} (span span' : Span) (negated : Bool)
      (before : outer.unplaced = outer'.unplaced) :
      Same (.opened outer span negated) (.opened outer' span' negated)
  | op (kind : ClassOp) {lhs lhs' : ClassSet} (left : lhs.unplaced = lhs'.unplaced) :
      Same (.op kind lhs) (.op kind lhs')

structure ClassState.Same (text : Text) (s s' : ClassState) : Prop where
  frames : Forall₂ ClassFrame.Same s.frames s'.frames
  items : s.items.unplaced = s'.items.unplaced
  reader : s.reader.Same text s'.reader

section

variable {verbose : Bool} {s s' : ClassState}

theorem readOpeningMinus_same {start start' : Location} {l l' : ItemList} (fuel : Nat)
    (items : l.unplaced = l'.unplaced) (same : r.Same text r') :
    Alike (SameReading ItemList.unplaced text) (readOpeningMinus verbose start fuel l r)
      (readOpeningMinus verbose start' fuel l' r') := by
  induction fuel generalizing l l' r r' with
  | zero => exact .ok ⟨items, same⟩
  | succ fuel ih =>
    have behind := same.bumpSkip verbose
    simp only [readOpeningMinus, same.peek?, behind.atEnd]
    split
    · split
      · exact .error _ _
      · exact ih (ItemList.push_unplaced items rfl) behind
    · exact .ok ⟨items, same⟩

theorem openBracket_same (same : s.Same text s') :
    Alike (ClassState.Same text.tail) (openBracket verbose s) (openBracket verbose s') := by
  have bracket : (s.reader.bumpSkip verbose).Same text.tail (s'.reader.bumpSkip verbose) :=
    same.reader.bump_tail.skipBlanks verbose
  simp only [openBracket, bracket.atEnd, bracket.peek?]
  refine (Alike.ensure _ _ _ _ _).andThen fun _ => ?_
  have inside := Reader.Same.ite (c := (s'.reader.bumpSkip verbose).peek? = some '^')
    (bracket.bumpSkip verbose) bracket
  rw [inside.atEnd, inside.rest]
  refine (Alike.ensure _ _ _ _ _).andThen fun _ => ?_
  refine (readOpeningMinus_same _ (ItemList.startAt_unplaced _ _) inside).bind ?_
  rintro ⟨l, q⟩ ⟨l', q'⟩ ⟨items, behind⟩
  have opened (span span' : Span) (negated : Bool) :
      Forall₂ ClassFrame.Same (.opened s.items span negated :: s.frames)
        (.opened s'.items span' negated :: s'.frames) :=
    .cons (.opened span span' negated same.items) same.frames
  dsimp only
  rw [← l.isEmpty_unplaced, ← l'.isEmpty_unplaced, show l.unplaced = l'.unplaced from items,
    behind.peek?]
  split
  · have closing := behind.bumpSkip verbose
    rw [closing.atEnd]
    refine (Alike.ensure _ _ _ _ _).andThen fun _ => ?_
    exact .ok ⟨opened _ _ _, ItemList.push_unplaced items rfl, closing⟩
  · exact .ok ⟨opened _ _ _, items, behind⟩

theorem applyOp_same {frames frames' : List ClassFrame} {rhs rhs' : ClassSet}
    (same : Forall₂ ClassFrame.Same frames frames') (right : rhs.unplaced = rhs'.unplaced) :
    (applyOp frames rhs).1.unplaced = (applyOp frames' rhs').1.unplaced ∧
      Forall₂ ClassFrame.Same (applyOp frames rhs).2 (applyOp frames' rhs').2 := by
  cases same with
  | nil => exact ⟨right, .nil⟩
  | cons top rest =>
    cases top with
    | opened span span' negated before =>
      exact ⟨right, .cons (.opened span span' negated before) rest⟩
    | op kind left =>
      refine ⟨?_, rest⟩
      simp only [applyOp, ClassSet.unplaced, left, right]

theorem pushOp_same (kind : ClassOp) (same : s.Same text s') :
    (pushOp kind s).Same text.tail (pushOp kind s') := by
  obtain ⟨left, rest⟩ := applyOp_same same.frames (ItemList.toSet_same same.items)
  exact ⟨.cons (.op kind left) rest, rfl, same.reader.bump_tail.bump⟩

def SameClass (text : Text) : ClassState ⊕ (Ast × Reader) → ClassState ⊕ (Ast × Reader) → Prop :=
  Sum.LiftRel (ClassState.Same text) (SameReading Ast.unplaced text)

theorem closeBracket_same (same : s.Same text s') :
    Alike (SameClass text.tail) (closeBracket s) (closeBracket s') := by
  obtain ⟨set, rest⟩ := applyOp_same same.frames (ItemList.toSet_same same.items)
  have behind := same.reader.bump_tail
  simp only [closeBracket]
  generalize (applyOp s.frames s.items.toSet).2 = frames at rest
  generalize (applyOp s'.frames s'.items.toSet).2 = frames' at rest
  cases rest with
  | nil => exact .error _ _
  | cons top rest =>
    cases top with
    | op kind left => exact .error _ _
    | opened span span' negated before =>
      cases rest with
      | nil => exact .ok (.inr ⟨by simp only [Ast.unplaced, set], behind⟩)
      | cons next rest =>
        refine .ok (.inl ⟨.cons next rest, ItemList.push_unplaced before ?_, behind⟩)
        simp only [ClassSet.unplaced, set]

theorem Literal.char_same {l l' : Literal} (same : l.unplaced = l'.unplaced) :
    l.char = l'.char :=
  (Literal.mk.inj same).2.1

theorem toItem_same {e e' : Element} (same : e.unplaced = e'.unplaced) :
    Alike (fun a b => a.unplaced = b.unplaced) e.toItem e'.toItem := by
  cases e <;> cases e' <;> simp [Element.unplaced] at same
  · exact .ok (congrArg ClassSet.literal same)
  · exact .error _ _
  · exact .error _ _
  · exact .ok (congrArg ClassSet.property same)
  · exact .ok (congrArg ClassSet.shorthand same)

theorem toBound_same {e e' : Element} (same : e.unplaced = e'.unplaced) :
    Alike (fun a b => a.unplaced = b.unplaced) e.toBound e'.toBound := by
  cases e <;> cases e' <;> simp [Element.unplaced] at same
  · exact .ok same
  all_goals exact .error _ _

theorem readItem_same {frames frames' : List ClassFrame} (same : r.Same text r') :
    Alike (SameReading ClassSet.unplaced text.tail) (readItem verbose frames r)
      (readItem verbose frames' r') := by
  refine (readClassElement_same same).bind ?_
  rintro ⟨first, q⟩ ⟨first', q'⟩ ⟨element, behind⟩
  have skipped := behind.skipBlanks verbose
  have minus := skipped.bumpSkip verbose
  dsimp only at element ⊢
  rw [skipped.atEnd]
  split
  · exact .error _ _
  · rw [skipped.peek?, skipped.peekPast?]
    split
    · refine (toItem_same element).bind ?_
      intro item item' made
      exact .ok ⟨made, skipped⟩
    · rw [minus.atEnd]
      split
      · exact .error _ _
      · refine (readClassElement_same minus).bind ?_
        rintro ⟨last, u⟩ ⟨last', u'⟩ ⟨bound, after⟩
        refine (toBound_same element).bind ?_
        intro lo lo' low
        refine (toBound_same bound).bind ?_
        intro hi hi' high
        rw [Literal.char_same low, Literal.char_same high]
        split
        · refine .ok ⟨?_, after.shorter (List.tail_suffix _)⟩
          simp only [ClassSet.unplaced, low, high]
        · exact .error _ _

theorem classOp?_same (same : r.Same text r') : classOp? r = classOp? r' := by
  simp only [classOp?, same.rest]

theorem classStep_same (same : s.Same text s') :
    Alike (SameClass text.tail) (classStep verbose s) (classStep verbose s') := by
  have skipped : ClassState.Same text { s with reader := s.reader.skipBlanks verbose }
      { s' with reader := s'.reader.skipBlanks verbose } :=
    ⟨same.frames, same.items, same.reader.skipBlanks verbose⟩
  have added {item item' : ClassSet} {q q' : Reader} (new : item.unplaced = item'.unplaced)
      (behind : q.Same text.tail q') : Alike (SameClass text.tail)
        (.ok (.inl { s with reader := q, items := s.items.push item }))
        (.ok (.inl { s' with reader := q', items := s'.items.push item' })) :=
    .ok (.inl ⟨same.frames, ItemList.push_unplaced same.items new, behind⟩)
  have empty : s.frames.isEmpty = s'.frames.isEmpty := by
    rw [Bool.eq_iff_iff, List.isEmpty_iff_length_eq_zero, List.isEmpty_iff_length_eq_zero,
      same.frames.length_eq]
  have named : Option.Rel (SameReading ClassSet.unplaced text.tail)
      (if s.frames.isEmpty then none else asciiItem? (s.reader.skipBlanks verbose))
      (if s'.frames.isEmpty then none else asciiItem? (s'.reader.skipBlanks verbose)) := by
    rw [empty]
    split
    · exact .none
    · exact asciiItem?_same skipped.reader
  simp only [classStep, skipped.reader.peek?, classOp?_same skipped.reader]
  split
  · exact .error _ _
  · generalize (if s.frames.isEmpty then none else _) = found at named
    generalize (if s'.frames.isEmpty then none else _) = found' at named
    cases named with
    | none => exact (openBracket_same skipped).map fun _ _ opened => .inl opened
    | some named => exact added named.result named.reader
  · exact closeBracket_same skipped
  · split
    · exact .ok (.inl (pushOp_same _ skipped))
    · refine (readItem_same skipped.reader).bind ?_
      rintro ⟨item, q⟩ ⟨item', q'⟩ ⟨new, behind⟩
      exact added new behind

theorem readClassFuel_same (fuel : Nat) (same : s.Same text s') :
    Alike (SameReading Ast.unplaced text.tail) (readClassFuel verbose fuel s)
      (readClassFuel verbose fuel s') := by
  induction fuel generalizing text s s' with
  | zero => exact .error _ _
  | succ fuel ih =>
    refine (classStep_same same).bind ?_
    intro next next' stepped
    cases stepped with
    | inl more => exact (ih more).mono fun p q later => later.shorter (List.tail_suffix _)
    | inr done => exact .ok done

theorem readClass_same (same : r.Same text r') :
    Alike (SameReading Ast.unplaced text.tail) (readClass verbose r) (readClass verbose r') := by
  unfold readClass
  rw [same.rest]
  exact readClassFuel_same _ ⟨.nil, rfl, same⟩

end

end

end TextCursor.Pattern
