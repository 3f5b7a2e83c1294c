import TextCursor.Pattern.Parse
import TextCursor.Proofs.Pattern.Elsewhere
/-!
Reading what belongs to a group or a repetition somewhere else: names, flags and numbers do not
depend on the place either, nor on where names and flags were given before.
-/
namespace TextCursor.Pattern

section

variable {text : Text} {r r' : Reader}

theorem find?_given {α : Type} {l l' : List (α × Span)} (test : α → Bool)
    (same : l.map Prod.fst = l'.map Prod.fst) :
    Option.Rel (fun p q => p.1 = q.1) (l.find? fun p => test p.1)
      (l'.find? fun p => test p.1) := by
  have given (l : List (α × Span)) :
      (l.find? fun p => test p.1).map Prod.fst = (l.map Prod.fst).find? test := by
    rw [List.find?_map]
    rfl
  have found := (given l).trans ((congrArg _ same).trans (given l').symm)
  generalize (l.find? fun p => test p.1) = x at found
  generalize (l'.find? fun p => test p.1) = y at found
  cases x <;> cases y <;> simp at found
  · exact .none
  · exact .some found

theorem readNameChars_same (fuel : Nat) (first : Bool) (same : r.Same text r') :
    Alike (SameReading id text) (readNameChars fuel first r) (readNameChars fuel first r') := by
  induction fuel generalizing first r r' with
  | zero => exact .ok ⟨rfl, same⟩
  | succ fuel ih =>
    simp only [readNameChars, same.peek?]
    split
    · exact .ok ⟨rfl, same⟩
    · exact .ok ⟨rfl, same⟩
    · split
      · refine (ih false same.bump).bind ?_
        intro p q later
        exact .ok ⟨congrArg (List.cons _) later.result, later.reader⟩
      · exact .error _ _

theorem readGroupName_same {names names' : List (Text × Span)}
    (given : names.map Prod.fst = names'.map Prod.fst) (same : r.Same text r') :
    Alike (SameReading Prod.fst text) (readGroupName names r) (readGroupName names' r') := by
  unfold readGroupName
  rw [same.rest]
  refine (readNameChars_same _ _ same).bind ?_
  rintro ⟨name, q⟩ ⟨name', q'⟩ ⟨result, behind⟩
  obtain rfl : name = name' := result
  have known := find?_given (· == name) given
  dsimp only
  rw [behind.atEnd]
  split
  · exact .error _ _
  · split
    · exact .error _ _
    · generalize names.find? _ = found at known
      generalize names'.find? _ = found' at known
      cases known with
      | none => exact .ok ⟨rfl, behind.bump⟩
      | some _ => exact .error _ _

def FlagsRead.unplaced (f : FlagsRead) : List FlagItem × Bool × Bool :=
  (f.items.map Prod.fst, f.minus.isSome, f.lastIsMinus)

theorem readFlagItems_same (fuel : Nat) {f f' : FlagsRead} (given : f.unplaced = f'.unplaced)
    (same : r.Same text r') :
    Alike (SameReading FlagsRead.unplaced text) (readFlagItems fuel f r)
      (readFlagItems fuel f' r') := by
  induction fuel generalizing f f' r r' with
  | zero => exact .ok ⟨given, same⟩
  | succ fuel ih =>
    obtain ⟨items, minus, last⟩ := f
    obtain ⟨items', minus', last'⟩ := f'
    obtain ⟨flags, sign, rfl⟩ : items.map Prod.fst = items'.map Prod.fst ∧
        minus.isSome = minus'.isSome ∧ last = last' := by
      simpa [FlagsRead.unplaced] using given
    simp only [readFlagItems, same.peek?]
    split
    · exact .ok ⟨given, same⟩
    · exact .ok ⟨given, same⟩
    · exact .error _ _
    · cases minus <;> cases minus' <;> simp at sign
      · exact ih (by simp [FlagsRead.unplaced, flags]) same.bump
      · exact .error _ _
    · split
      · exact .error _ _
      · rename_i flag _
        have known := find?_given (fun item => decide (item.flag = flag)) flags
        have sign' : minus.isNone = minus'.isNone := by
          rw [← Option.not_isSome, ← Option.not_isSome, sign]
        generalize items.find? _ = found at known
        generalize items'.find? _ = found' at known
        cases known with
        | none => exact ih (by simp [FlagsRead.unplaced, flags, sign, sign']) same.bump
        | some _ => exact .error _ _

theorem readFlags_same (same : r.Same text r') :
    Alike (SameReading id text) (readFlags r) (readFlags r') := by
  unfold readFlags
  rw [same.rest]
  refine (readFlagItems_same _ rfl same).bind ?_
  rintro ⟨⟨items, minus, last⟩, q⟩ ⟨⟨items', minus', last'⟩, q'⟩ ⟨given, behind⟩
  obtain ⟨flags, sign, rfl⟩ : items.map Prod.fst = items'.map Prod.fst ∧
      minus.isSome = minus'.isSome ∧ last = last' := by
    simpa [FlagsRead.unplaced] using given
  have none? : items.isEmpty = items'.isEmpty := by
    rw [← List.isEmpty_map (f := Prod.fst), flags, List.isEmpty_map]
  have read : SameReading id text ((items.map Prod.fst, items.isEmpty), q)
      ((items'.map Prod.fst, items'.isEmpty), q') :=
    ⟨by rw [flags, none?], behind⟩
  cases minus <;> cases minus' <;> simp at sign
  · exact .ok read
  · cases last with
    | false => exact .ok read
    | true => exact .error _ _

theorem skipSpace_rest (t : Text) (l l' : Location) :
    (skipSpace t l).rest = (skipSpace t l').rest ∧ (skipSpace t l).rest <:+ t := by
  induction t generalizing l l' with
  | nil => exact ⟨rfl, List.suffix_rfl⟩
  | cons c rest ih =>
    obtain ⟨later, behind⟩ := ih (l.next c) (l'.next c)
    simp only [skipSpace]
    split
    · exact ⟨later, behind.trans (List.suffix_cons c rest)⟩
    · exact ⟨rfl, List.suffix_rfl⟩

theorem Reader.Same.skipSpace (same : r.Same text r') :
    (Pattern.skipSpace r.rest r.place).Same text (Pattern.skipSpace r'.rest r'.place) := by
  obtain ⟨rest, behind⟩ := skipSpace_rest r.rest r.place r'.place
  exact ⟨by rw [rest, same.rest], behind.trans same.behind⟩

theorem readDecimal_same (verbose : Bool) (same : r.Same text r') :
    Alike Eq (readDecimal verbose r).1 (readDecimal verbose r').1 ∧
      (readDecimal verbose r).2.Same text (readDecimal verbose r').2 := by
  obtain ⟨digits, behind⟩ := same.skipSpace.collect verbose Char.isDigit
  refine ⟨?_, behind.skipSpace⟩
  simp only [readDecimal, digits]
  split
  · exact .error _ _
  · split
    · exact .ok rfl
    · exact .error _ _

theorem readCount_same {verbose : Bool} {start start' : Location} (same : r.Same text r') :
    Alike (SameReading id text.tail) (readCount verbose start r)
      (readCount verbose start' r') := by
  have inside : (r.bumpSkip verbose).Same text.tail (r'.bumpSkip verbose) :=
    same.bump_tail.skipBlanks verbose
  obtain ⟨least, behind⟩ := readDecimal_same verbose inside
  have comma := behind.bumpSkip verbose
  obtain ⟨most, last⟩ := readDecimal_same verbose comma
  simp only [readCount, inside.atEnd, behind.atEnd, behind.peek?, comma.atEnd, comma.peek?]
  refine (Alike.ensure _ _ _ _ _).andThen fun _ => ?_
  refine (Alike.ensure _ _ _ _ _).andThen fun _ => ?_
  split
  · refine (Alike.ensure _ _ _ _ _).andThen fun _ => ?_
    refine least.andThen fun n => ?_
    split
    · exact .ok ⟨rfl, comma⟩
    · refine most.andThen fun m => ?_
      exact .ok ⟨rfl, last⟩
  · refine least.andThen fun n => ?_
    exact .ok ⟨rfl, behind⟩

end

end TextCursor.Pattern
