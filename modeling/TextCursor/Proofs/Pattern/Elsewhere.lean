import TextCursor.Proofs.Pattern.Unplaced
/-!
Reading a construct somewhere else. What is read only depends on what is left of the text: at
another place the same is read, but for the places themselves, and it ends at the same codepoint, or
there is a fault at both places. What is left behind a construct is an end of what was left before.
-/
namespace Option.Rel

variable {α β : Type} {R : α → α → Prop} {x y x' y' : Option α}

theorem of_eq (same : x = y) : Option.Rel Eq x y := by
  subst same
  cases x with
  | none => exact .none
  | some a => exact .some rfl

theorem mono {S : α → α → Prop} (h : Option.Rel R x y) (weaker : ∀ a b, R a b → S a b) :
    Option.Rel S x y := by
  cases h with
  | none => exact .none
  | some related => exact .some (weaker _ _ related)

theorem orElse (h : Option.Rel R x y) (h' : Option.Rel R x' y') :
    Option.Rel R (x <|> x') (y <|> y') := by
  cases h with
  | none => exact h'
  | some related => exact .some related

theorem bind {S : β → β → Prop} {f g : α → Option β} (h : Option.Rel R x y)
    (next : ∀ a b, R a b → Option.Rel S (f a) (g b)) : Option.Rel S (x >>= f) (y >>= g) := by
  cases h with
  | none => exact .none
  | some related => exact next _ _ related

end Option.Rel

namespace TextCursor.Pattern

/-- Two readers with the same left to be read, which is an end of `text`. -/
structure Reader.Same (text : Text) (r r' : Reader) : Prop where
  rest : r.rest = r'.rest
  behind : r.rest <:+ text

structure SameReading {α β : Type} (view : α → β) (text : Text) (p q : α × Reader) : Prop where
  result : view p.1 = view q.1
  reader : p.2.Same text q.2

def Element.unplaced : Element → Element
  | literal l => literal l.unplaced
  | dot _ => dot .nowhere
  | assertion _ kind => assertion .nowhere kind
  | property p => property p.unplaced
  | shorthand p => shorthand p.unplaced

section

variable {text : Text} {r r' : Reader}

namespace Reader

theorem bump_rest (r : Reader) : r.bump.rest = r.rest.tail := by
  unfold bump
  split
  · rename_i none
    simp [none]
  · rename_i c rest some
    simp [some]

theorem skipFrom_rest (comment : Bool) (t : Text) (l l' : Location) :
    (skipFrom comment t l).rest = (skipFrom comment t l').rest ∧
      (skipFrom comment t l).rest <:+ t := by
  induction t generalizing comment l l' with
  | nil => cases comment <;> exact ⟨rfl, List.suffix_rfl⟩
  | cons c rest ih =>
    have later (comment : Bool) := ih comment (l.next c) (l'.next c)
    have longer (comment : Bool) := (later comment).2.trans (List.suffix_cons c rest)
    cases comment with
    | true => exact ⟨(later _).1, longer _⟩
    | false =>
      simp only [skipFrom]
      split
      · exact ⟨(later _).1, longer _⟩
      · split
        · exact ⟨(later _).1, longer _⟩
        · exact ⟨rfl, List.suffix_rfl⟩

namespace Same

theorem peek? (same : r.Same text r') : r.peek? = r'.peek? := by
  simp [Reader.peek?, same.rest]

theorem atEnd (same : r.Same text r') : r.atEnd = r'.atEnd := by
  simp [Reader.atEnd, same.rest]

theorem peekPast? (same : r.Same text r') (verbose : Bool) :
    r.peekPast? verbose = r'.peekPast? verbose := by
  simp [Reader.peekPast?, same.rest]

theorem shorter {text' : Text} (same : r.Same text r') (longer : text <:+ text') :
    r.Same text' r' :=
  ⟨same.rest, same.behind.trans longer⟩

theorem bump (same : r.Same text r') : r.bump.Same text r'.bump := by
  constructor
  · rw [bump_rest, bump_rest, same.rest]
  · rw [bump_rest]
    exact (List.tail_suffix _).trans same.behind

theorem bump_tail (same : r.Same text r') : r.bump.Same text.tail r'.bump := by
  refine ⟨same.bump.rest, ?_⟩
  rw [bump_rest]
  obtain ⟨before, rfl⟩ := same.behind
  cases before with
  | nil => exact List.suffix_rfl
  | cons c before => exact (List.tail_suffix _).trans (List.suffix_append _ _)

theorem bumpBy (same : r.Same text r') (n : Nat) :
    (Reader.bumpBy n r).Same text (Reader.bumpBy n r') := by
  induction n generalizing r r' with
  | zero => exact same
  | succ n ih => exact ih same.bump

theorem skipBlanks (same : r.Same text r') (verbose : Bool) :
    (r.skipBlanks verbose).Same text (r'.skipBlanks verbose) := by
  unfold Reader.skipBlanks
  split
  · obtain ⟨rest, behind⟩ := skipFrom_rest false r.rest r.place r'.place
    exact ⟨by rw [rest, same.rest], behind.trans same.behind⟩
  · exact same

theorem bumpSkip (same : r.Same text r') (verbose : Bool) :
    (r.bumpSkip verbose).Same text (r'.bumpSkip verbose) :=
  same.bump.skipBlanks verbose

theorem collectFuel (same : r.Same text r') (verbose : Bool) (test : Char → Bool) (fuel : Nat) :
    (r.collectFuel verbose test fuel).1 = (r'.collectFuel verbose test fuel).1 ∧
      (r.collectFuel verbose test fuel).2.Same text (r'.collectFuel verbose test fuel).2 := by
  induction fuel generalizing r r' with
  | zero => exact ⟨rfl, same⟩
  | succ fuel ih =>
    simp only [Reader.collectFuel, same.peek?]
    split
    · split
      · obtain ⟨taken, behind⟩ := ih (same.bumpSkip verbose)
        exact ⟨congrArg (List.cons _) taken, behind⟩
      · exact ⟨rfl, same⟩
    · exact ⟨rfl, same⟩

theorem collect (same : r.Same text r') (verbose : Bool) (test : Char → Bool) :
    (r.collect verbose test).1 = (r'.collect verbose test).1 ∧
      (r.collect verbose test).2.Same text (r'.collect verbose test).2 := by
  unfold Reader.collect
  rw [same.rest]
  exact same.collectFuel verbose test _

theorem ite {c : Prop} [Decidable c] {u u' : Reader} (same : r.Same text r')
    (other : u.Same text u') : (if c then r else u).Same text (if c then r' else u') := by
  split
  · exact same
  · exact other

theorem expect? (same : r.Same text r') (c : Char) (word : Text) :
    Option.Rel (Same text.tail) (r.expect? (c :: word)) (r'.expect? (c :: word)) := by
  unfold Reader.expect?
  rw [same.rest]
  split
  · exact .some (same.bump_tail.bumpBy word.length)
  · exact .none

end Same

end Reader

theorem SameReading.shorter {α β : Type} {view : α → β} {text' : Text} {p q : α × Reader}
    (same : SameReading view text p q) (longer : text <:+ text') : SameReading view text' p q :=
  ⟨same.result, same.reader.shorter longer⟩

variable {verbose : Bool} {start start' : Location}

theorem readHexBraced_same (same : r.Same text r') :
    Alike (SameReading Literal.unplaced text) (readHexBraced verbose start r)
      (readHexBraced verbose start' r') := by
  obtain ⟨digits, inside⟩ := (same.bumpSkip verbose).collect verbose isHexDigit
  have behind := inside.bumpSkip verbose
  simp only [readHexBraced, inside.peek?, digits]
  split
  · exact .error _ _
  · split
    · exact .error _ _
    · split
      · exact .ok ⟨rfl, behind⟩
      · exact .error _ _
  · exact .error _ _

theorem readHexDigits_same (n : Nat) (same : r.Same text r') :
    Alike (SameReading id text) (readHexDigits verbose n r) (readHexDigits verbose n r') := by
  induction n generalizing r r' with
  | zero => exact .ok ⟨rfl, same⟩
  | succ n ih =>
    simp only [readHexDigits, same.peek?]
    split
    · exact .error _ _
    · split
      · refine (ih (same.bumpSkip verbose)).bind ?_
        intro p q later
        exact .ok ⟨congrArg (List.cons _) later.result, later.reader⟩
      · exact .error _ _

theorem readHex_same (same : r.Same text r') :
    Alike (SameReading Literal.unplaced text) (readHex verbose start r)
      (readHex verbose start' r') := by
  have inside := same.bumpSkip verbose
  simp only [readHex, same.peek?, inside.peek?]
  split
  · exact .error _ _
  · exact readHexBraced_same inside
  · refine (readHexDigits_same _ inside).bind ?_
    rintro ⟨digits, q⟩ ⟨digits', q'⟩ ⟨result, behind⟩
    obtain rfl : digits = digits' := result
    dsimp only
    split
    · exact .ok ⟨rfl, behind⟩
    · exact .error _ _

theorem readProperty_same (same : r.Same text r') :
    Alike (SameReading PropertyItem.unplaced text) (readProperty verbose start r)
      (readProperty verbose start' r') := by
  have inside := same.bumpSkip verbose
  obtain ⟨name, closed⟩ := (inside.bumpSkip verbose).collect verbose (· != '\x7d')
  simp only [readProperty, same.peek?, inside.peek?]
  split
  · exact .error _ _
  · rw [closed.atEnd]
    split
    · exact .error _ _
    · refine .ok ⟨?_, closed.bump⟩
      simp only [PropertyItem.unplaced, name]
  · exact .error _ _
  · exact .ok ⟨rfl, inside.bumpSkip verbose⟩

theorem readBoundaryName_same (same : r.Same text r') :
    Alike (SameReading id text) (readBoundaryName verbose start r)
      (readBoundaryName verbose start' r') := by
  have inside := same.bumpSkip verbose
  obtain ⟨name, closed⟩ := inside.collect verbose fun c => c.isAlpha || c == '-'
  simp only [readBoundaryName, inside.peek?, closed.peek?, name]
  split
  · exact .error _ _
  · split
    · exact .ok ⟨rfl, same⟩
    · split
      · exact .error _ _
      · split <;> first | exact .ok ⟨rfl, closed.bump⟩ | exact .error _ _

theorem readWordBoundary_same (same : r.Same text r') :
    Alike (SameReading Element.unplaced text) (readWordBoundary verbose start r)
      (readWordBoundary verbose start' r') := by
  simp only [readWordBoundary, same.peek?]
  split
  · refine (readBoundaryName_same same).bind ?_
    rintro ⟨special, q⟩ ⟨_, q'⟩ ⟨rfl, behind⟩
    cases special with
    | none => exact .ok ⟨rfl, behind⟩
    | some kind => exact .ok ⟨rfl, behind⟩
  · exact .ok ⟨rfl, same⟩

theorem readEscape_same (same : r.Same text r') :
    Alike (SameReading Element.unplaced text.tail) (readEscape verbose r)
      (readEscape verbose r') := by
  have inside := same.bump_tail
  simp only [readEscape, inside.peek?]
  split
  · exact .error _ _
  · split
    · exact .error _ _
    · split
      · refine (readHex_same inside).bind ?_
        rintro ⟨l, q⟩ ⟨l', q'⟩ ⟨result, behind⟩
        exact .ok ⟨congrArg Element.literal result, behind⟩
      · split
        · refine (readProperty_same inside).bind ?_
          rintro ⟨p, q⟩ ⟨p', q'⟩ ⟨result, behind⟩
          exact .ok ⟨congrArg Element.property result, behind⟩
        · split
          · exact .ok ⟨rfl, inside.bump⟩
          · exact .ok ⟨rfl, inside.bump⟩
          · exact readWordBoundary_same inside.bump
          · exact .ok ⟨rfl, inside.bump⟩
          · split
            · exact .ok ⟨rfl, inside.bump⟩
            · exact .error _ _

theorem readElement_same (same : r.Same text r') :
    Alike (SameReading Element.unplaced text.tail) (readElement verbose r)
      (readElement verbose r') := by
  have behind := same.bump_tail
  simp only [readElement, same.peek?]
  split
  · exact readEscape_same same
  · exact .ok ⟨rfl, behind⟩
  · exact .ok ⟨rfl, behind⟩
  · exact .ok ⟨rfl, behind⟩
  · exact .ok ⟨rfl, behind⟩
  · exact .error _ _

theorem readClassElement_same (same : r.Same text r') :
    Alike (SameReading Element.unplaced text.tail) (readClassElement verbose r)
      (readClassElement verbose r') := by
  have behind := same.bump_tail
  simp only [readClassElement, same.peek?]
  split
  · exact readEscape_same same
  · exact .ok ⟨rfl, behind⟩
  · exact .error _ _

end

end TextCursor.Pattern
