import TextCursor.Pattern.Print
import TextCursor.Proofs.Digits
import TextCursor.Proofs.Pattern.Sound
/-!
The bounds of a repetition that were written out are read back as the same bounds, and an option
behind them as the mark of a lazy repetition.
-/
namespace TextCursor.Pattern

def Ast.Repeatable : Ast → Prop
  | empty _ => False
  | flags _ _ => False
  | _ => True

theorem repeatable?_push (before : Parts) {a : Ast} (h : a.Repeatable) :
    repeatable? (before.push a) = some (before, a) := by
  have last : (before.push a).splitLast? = some (before, a) := by
    simp [Parts.splitLast?, Parts.push]
  unfold repeatable?
  rw [last]
  cases a <;> first | rfl | exact h.elim

theorem collect_all {test : Char → Bool} (rest : Text) (stops : rest.head?.any test = false)
    (word : Text) (all : ∀ c ∈ word, test c = true) (fuel : Nat) (enough : word.length ≤ fuel)
    (place : Location) :
    ∃ place', Reader.collectFuel false test fuel ⟨word ++ rest, place⟩ = (word, ⟨rest, place'⟩) := by
  induction word generalizing fuel place with
  | nil =>
    refine ⟨place, ?_⟩
    cases fuel with
    | zero => rfl
    | succ fuel =>
      cases rest with
      | nil => rfl
      | cons c more =>
        have : test c = false := by simpa using stops
        simp [Reader.collectFuel, Reader.peek?, this]
  | cons c word ih =>
    obtain ⟨here, later⟩ := List.forall_mem_cons.mp all
    cases fuel with
    | zero => simp at enough
    | succ fuel =>
      obtain ⟨place', read⟩ := ih later fuel (by simpa using enough) (place.next c)
      refine ⟨place', ?_⟩
      simp [Reader.collectFuel, Reader.peek?, here, Reader.bumpSkip, Reader.bump,
        Reader.skipBlanks, read]

theorem digit_visible {c : Char} (h : c.isDigit = true) : Unicode.isBlank c = false := by
  have visible := digit_all (fun c => !Unicode.isBlank c) (by decide) h
  simpa using visible

theorem readDecimal_digits {n : Nat} (small : n ≤ maxRepetition) {x : Char}
    (sign : x.isDigit = false) (visible : Unicode.isBlank x = false) (rest : Text)
    (place : Location) :
    ∃ place', readDecimal false ⟨digits n ++ x :: rest, place⟩ =
      (.ok n, ⟨x :: rest, place'⟩) := by
  obtain ⟨c, more, first⟩ := List.exists_cons_of_ne_nil (digits_ne_nil n)
  have here := digit_visible (digits_isDigit n c (by simp [first]))
  have skip (place : Location) :
      skipSpace (digits n ++ x :: rest) place = ⟨digits n ++ x :: rest, place⟩ := by
    simp [first, skipSpace, here]
  obtain ⟨place', read⟩ := collect_all (x :: rest) (by simpa using sign) (digits n)
    (digits_isDigit n) (digits n ++ x :: rest).length (by simp) place
  refine ⟨place', ?_⟩
  simp only [readDecimal, skip, Reader.collect, read]
  simp [digits_ne_nil, digits_value, small, skipSpace, visible]

def countBody (c : Count) : Text :=
  match c.most with
  | none => digits c.least ++ [',']
  | some n => if c.least = n then digits n else digits c.least ++ ',' :: digits n

theorem countPrint_cases (c : Count) :
    (c.print = ['?'] ∧ c = ⟨0, some 1⟩) ∨ (c.print = ['*'] ∧ c = ⟨0, none⟩) ∨
      (c.print = ['+'] ∧ c = ⟨1, none⟩) ∨
      (c.print = '\x7b' :: (countBody c ++ ['\x7d'])) := by
  obtain ⟨least, most⟩ := c
  unfold Count.print
  simp only
  split
  · exact Or.inl ⟨rfl, rfl⟩
  · exact Or.inr (Or.inl ⟨rfl, rfl⟩)
  · exact Or.inr (Or.inr (Or.inl ⟨rfl, rfl⟩))
  · exact Or.inr (Or.inr (Or.inr (by simp [countBody, digits])))
  · rename_i n _
    refine Or.inr (Or.inr (Or.inr ?_))
    by_cases same : least = n
    · simp [countBody, digits, same]
    · simp [countBody, digits, same]

theorem readCount_braced {c : Count} (bounded : c.Bounded) (rest : Text)
    (start place : Location) :
    ∃ place', readCount false start ⟨'\x7b' :: (countBody c ++ '\x7d' :: rest), place⟩ =
      .ok (c, ⟨'\x7d' :: rest, place'⟩) := by
  have comma : Unicode.isBlank ',' = false := by decide
  have brace : Unicode.isBlank '\x7d' = false := by decide
  obtain ⟨least, most⟩ := c
  have small : least ≤ maxRepetition := bounded.least
  cases most with
  | none =>
    obtain ⟨place', read⟩ := readDecimal_digits small (x := ',') (by decide) comma
      ('\x7d' :: rest) (place.next '\x7b')
    refine ⟨place'.next ',', ?_⟩
    simp [countBody, readCount, Reader.bumpSkip, Reader.bump, Reader.skipBlanks, Reader.atEnd, read,
      bind, Except.bind, Reader.peek?]
  | some n =>
    have small' : n ≤ maxRepetition := (bounded.most n rfl).2
    by_cases same : least = n
    · subst same
      obtain ⟨place', read⟩ := readDecimal_digits small (x := '\x7d') (by decide) brace
        rest (place.next '\x7b')
      refine ⟨place', ?_⟩
      simp [countBody, readCount, Reader.bumpSkip, Reader.bump, Reader.skipBlanks, Reader.atEnd,
        read, bind, Except.bind, Reader.peek?]
    · obtain ⟨middle, read⟩ := readDecimal_digits small (x := ',') (by decide) comma
        (digits n ++ '\x7d' :: rest) (place.next '\x7b')
      obtain ⟨place', read'⟩ := readDecimal_digits small' (x := '\x7d') (by decide) brace
        rest (middle.next ',')
      obtain ⟨d, more, first⟩ := List.exists_cons_of_ne_nil (digits_ne_nil n)
      have notBrace : d ≠ '\x7d' := by
        have := digits_isDigit n d (by simp [first])
        rintro rfl
        exact absurd this (by decide)
      simp only [first, List.cons_append] at read read'
      refine ⟨place', ?_⟩
      simp [countBody, same, first, readCount, Reader.bumpSkip, Reader.bump, Reader.skipBlanks,
        Reader.atEnd, read, bind, Except.bind, Reader.peek?, notBrace, read']

def behindMark (rest : Text) : Text := if rest.head? = some '?' then rest.tail else rest

def skipMark (r : Reader) : Reader := if r.peek? == some '?' then r.bump else r

theorem skipMark_rest (rest : Text) (place : Location) :
    ∃ place', skipMark ⟨rest, place⟩ = ⟨behindMark rest, place'⟩ := by
  unfold skipMark behindMark Reader.peek?
  by_cases mark : rest.head? = some '?'
  · cases rest with
    | nil => cases mark
    | cons c more => exact ⟨place.next c, by simp_all [Reader.bump]⟩
  · exact ⟨place, by simp [mark]⟩

def behindPart (frames : List Frame) (before : Parts) (a : Ast) (captures : Nat)
    (names : List (Text × Span)) (rest : Text) (place : Location) : State :=
  ⟨false, ⟨rest, place⟩, frames, before.push a, captures, names⟩

section

variable (frames : List Frame) (before : Parts) (captures : Nat) (names : List (Text × Span))
  {a : Ast}

theorem repeatPlain_step (repeatable : a.Repeatable) (count : Count) (sign : Char) (rest : Text)
    (place : Location) :
    ∃ span place', repeatPlain (behindPart frames before a captures names (sign :: rest) place)
      count = .ok (behindPart frames before
        (.repetition span count (rest.head? != some '?') a) captures names (behindMark rest)
        place') := by
  obtain ⟨place', marked⟩ := skipMark_rest rest (place.next sign)
  refine ⟨⟨a.span.start, place'⟩, place', ?_⟩
  have read : repeatPlain (behindPart frames before a captures names (sign :: rest) place) count =
      .ok (behindPart frames before (.repetition
        ((skipMark ⟨rest, place.next sign⟩).spanFrom a.span.start) count (rest.head? != some '?') a)
        captures names (skipMark ⟨rest, place.next sign⟩).rest
        (skipMark ⟨rest, place.next sign⟩).place) := by
    simp only [repeatPlain, behindPart, repeatable?_push before repeatable]
    rfl
  rw [read, marked]
  rfl

theorem repeatCounted_step (repeatable : a.Repeatable) {count : Count} (bounded : count.Bounded)
    (rest : Text) (place : Location) :
    ∃ span place', repeatCounted (behindPart frames before a captures names
      ('\x7b' :: (countBody count ++ '\x7d' :: rest)) place) =
        .ok (behindPart frames before (.repetition span count (rest.head? != some '?') a)
          captures names (behindMark rest) place') := by
  obtain ⟨closing, read⟩ := readCount_braced bounded rest place place
  obtain ⟨place', marked⟩ := skipMark_rest rest (closing.next '\x7d')
  have upwards : count.most.any (fun m => decide (m < count.least)) = false := by
    cases same : count.most with
    | none => rfl
    | some m =>
      have := (bounded.most m same).1
      simpa using this
  refine ⟨⟨a.span.start, place'⟩, place', ?_⟩
  have read : repeatCounted (behindPart frames before a captures names
      ('\x7b' :: (countBody count ++ '\x7d' :: rest)) place) =
      .ok (behindPart frames before (.repetition
        ((skipMark ⟨rest, closing.next '\x7d'⟩).spanFrom a.span.start) count
        (rest.head? != some '?') a) captures names (skipMark ⟨rest, closing.next '\x7d'⟩).rest
        (skipMark ⟨rest, closing.next '\x7d'⟩).place) := by
    simp only [repeatCounted, behindPart, repeatable?_push before repeatable, read, bind,
      Except.bind]
    rw [if_neg (by simp [Reader.peek?]), upwards]
    rfl
  rw [read, marked]
  rfl

theorem sign_step (repeatable : a.Repeatable) {count : Count} (bounded : count.Bounded)
    (rest : Text) (place : Location) :
    ∃ span place', step (behindPart frames before a captures names (count.print ++ rest) place) =
      .ok (behindPart frames before (.repetition span count (rest.head? != some '?') a)
        captures names (behindMark rest) place') := by
  rcases countPrint_cases count with ⟨sign, rfl⟩ | ⟨sign, rfl⟩ | ⟨sign, rfl⟩ | sign
  · rw [sign]
    exact repeatPlain_step frames before captures names repeatable _ '?' rest place
  · rw [sign]
    exact repeatPlain_step frames before captures names repeatable _ '*' rest place
  · rw [sign]
    exact repeatPlain_step frames before captures names repeatable _ '+' rest place
  · have text : count.print ++ rest = '\x7b' :: (countBody count ++ '\x7d' :: rest) := by
      simp [sign]
    rw [text]
    exact repeatCounted_step frames before captures names repeatable bounded rest place

end

end TextCursor.Pattern
