import TextCursor.Match
import TextCursor.Proofs.Pattern.LeadingFlags
import TextCursor.Proofs.Pattern.Meaning
/-!
Modifiers given as letters in front of a pattern. `(?…)` with the letters of the modifiers is read
as a part that sets these flags and matches nothing, so that the pattern has the tree that it has with
the modifiers themselves, and compiles to the same program.
-/
namespace TextCursor

open Pattern

def Pattern.Flag.letter : Flag → Char
  | caseInsensitive => 'i'
  | multiLine => 'm'
  | dotMatchesNewLine => 's'
  | swapGreed => 'U'
  | unicode => 'u'
  | crlf => 'R'
  | ignoreWhitespace => 'x'

def Modifiers.flags (m : Modifiers) : List Flag :=
  [(m.caseInsensitive, Flag.caseInsensitive), (m.multiLine, .multiLine),
    (m.dotMatchesNewLine, .dotMatchesNewLine), (m.ignoreWhitespace, .ignoreWhitespace),
    (m.swapGreed, .swapGreed)].filterMap fun p => if p.1 then some p.2 else Option.none

def Modifiers.items (m : Modifiers) : List FlagItem := m.flags.map (⟨·, true⟩)

structure Modifiers.Spelled (m : Modifiers) : Prop where
  display : m.display = m.flags.map Flag.letter
  distinct : m.flags.Nodup
  nonempty : m ≠ .none → m.flags ≠ []
  applied : (Flags.ofModifiers .none).applyAll m.items = .ofModifiers m
  verbose : (flagState m.items .ignoreWhitespace).getD false = m.ignoreWhitespace

theorem Modifiers.spelled (m : Modifiers) : m.Spelled := by
  obtain ⟨i, m, s, x, u⟩ := m
  cases i <;> cases m <;> cases s <;> cases x <;> cases u <;>
    exact ⟨rfl, by decide, by decide, rfl, rfl⟩

namespace Pattern

namespace Tree

theorem concatenation_single {t : Tree} (normal : t.Normal) : concatenation [t] = t := by
  cases t with
  | concat parts =>
    have same : [concat parts].flatMap asParts = parts.flatMap asParts := by
      rw [flatMap_flat normal.1.flat]
      exact List.append_nil parts
    have whole := concatenation_eq normal.1
    unfold concatenation at whole ⊢
    rw [same]
    exact whole
  | _ => rfl

end Tree

theorem Ast.lower_concat_flags (items : List FlagItem) (parts : List Ast) (f : Flags)
    (span span' span'' : Span) :
    (concat span (.flags span' items :: parts)).lower f =
      (concat span'' parts).lower (f.applyAll items) := by
  have later : Ast.lowerAll f (.flags span' items :: parts) =
      (Ast.lowerAll (f.applyAll items) parts).map fun p => (.empty :: p.1, p.2) := by
    simp only [Ast.lowerAll, Ast.lower]
    cases same : Ast.lowerAll (f.applyAll items) parts <;>
      simp [same, bind, Except.bind, Except.map]
  simp only [Ast.lower, later]
  cases Ast.lowerAll (f.applyAll items) parts <;> rfl

theorem Ast.lower_concat_single {a : Ast} (sound : a.Sound) (f : Flags) (span : Span) :
    (concat span [a]).lower f = a.lower f := by
  simp only [Ast.lower, Ast.lowerAll]
  cases lowered : a.lower f with
  | error e => rfl
  | ok made =>
    obtain ⟨t, g⟩ := made
    have normal := (lower_normal a sound lowered).1
    exact congrArg (fun t => Except.ok (t, g)) (Tree.concatenation_single normal)

theorem Ast.Led.lower_alike {items : List FlagItem} : {a a' : Ast} → a.Led items true a' → a.Sound →
    ∀ f, Alike Eq (a.lower (f.applyAll items)) (a'.lower f)
  | _, _, .empty _ _, _, _ => .refl _
  | _, _, .single span _ alike, sound, f => by
    rw [Ast.lower_concat_flags _ _ f span _ span, ← Ast.lower_concat_single sound _ span]
    have parts : [_].map Ast.unplaced = [_].map Ast.unplaced := congrArg (fun u => [u]) alike
    exact (Ast.lowerAll_same parts _).andThen fun _ => .refl _
  | _, _, .several span _ _ alike, _, f => by
    rw [Ast.lower_concat_flags _ _ f _ _ span]
    exact (Ast.lowerAll_same alike _).andThen fun _ => .refl _
  | _, _, .branches _ _ first alike, sound, f => by
    refine Alike.andThen ?_ fun _ => .refl _
    refine (first.lower_alike sound.1 f).andThen fun p => ?_
    exact (Ast.lowerAll_same alike p.2).andThen fun _ => .refl _

theorem readFlagItems_letter (fuel : Nat) (given : FlagsRead) (flag : Flag) (rest : Text)
    (place : Location) (fresh : ∀ p ∈ given.items, p.1.flag ≠ flag) :
    ∃ span place', readFlagItems (fuel + 1) given ⟨flag.letter :: rest, place⟩ =
      readFlagItems fuel
        ⟨given.items ++ [(⟨flag, given.minus.isNone⟩, span)], given.minus, false⟩
        ⟨rest, place'⟩ := by
  have unknown : (given.items.find? fun p => p.1.flag = flag) = none := by
    simpa using fresh
  refine ⟨Reader.spanChar ⟨flag.letter :: rest, place⟩, place.next flag.letter, ?_⟩
  cases flag <;> simp [readFlagItems, Reader.peek?, Reader.bump, Flag.letter, flag?, unknown]

theorem readFlagItems_letters (rest : Text) (flags : List Flag) (fuel : Nat)
    (enough : flags.length < fuel) (given : FlagsRead) (positive : given.minus = none)
    (distinct : (given.items.map (·.1.flag) ++ flags).Nodup) (place : Location) :
    ∃ read place', readFlagItems fuel given ⟨flags.map Flag.letter ++ ')' :: rest, place⟩ =
        .ok (read, ⟨')' :: rest, place'⟩) ∧
      read.items.map (·.1) = given.items.map (·.1) ++ flags.map (⟨·, true⟩) ∧
      read.minus = none := by
  induction flags generalizing fuel given place with
  | nil =>
    cases fuel with
    | zero => exact absurd enough (Nat.not_lt_zero _)
    | succ fuel => exact ⟨given, place, rfl, (List.append_nil _).symm, positive⟩
  | cons flag flags ih =>
    cases fuel with
    | zero => exact absurd enough (Nat.not_lt_zero _)
    | succ fuel =>
      have fresh : ∀ p ∈ given.items, p.1.flag ≠ flag := by
        intro p mem same
        have apart := (List.nodup_append.mp distinct).2.2
        exact apart _ (List.mem_map.mpr ⟨p, mem, rfl⟩) flag List.mem_cons_self same
      obtain ⟨span, next, step⟩ := readFlagItems_letter fuel given flag
        (flags.map Flag.letter ++ ')' :: rest) place fresh
      obtain ⟨read, place', done, items, minus⟩ := ih fuel (Nat.lt_of_succ_lt_succ enough)
        ⟨given.items ++ [(⟨flag, given.minus.isNone⟩, span)], given.minus, false⟩ positive
        (by simpa using distinct) next
      refine ⟨read, place', step.trans done, ?_, minus⟩
      rw [items, positive]
      simp

theorem readFlags_letters (rest : Text) {flags : List Flag} (some : flags ≠ [])
    (distinct : flags.Nodup) (place : Location) :
    ∃ place', readFlags ⟨flags.map Flag.letter ++ ')' :: rest, place⟩ =
      .ok ((flags.map (⟨·, true⟩), false), ⟨')' :: rest, place'⟩) := by
  have enough : flags.length < (flags.map Flag.letter ++ ')' :: rest).length + 1 := by
    rw [List.length_append, List.length_map]
    omega
  obtain ⟨read, place', done, items, positive⟩ := readFlagItems_letters rest flags _ enough
    ⟨[], none, false⟩ rfl (by simpa using distinct) place
  refine ⟨place', ?_⟩
  have given : read.items.isEmpty = false := by
    rw [← List.isEmpty_map (f := Prod.fst), items]
    simpa using some
  rw [List.map_nil, List.nil_append] at items
  unfold readFlags
  rw [done]
  simp [bind, Except.bind, positive, given, items]

theorem step_letters (frames : List Frame) (parts : Parts) (captures : Nat)
    (names : List (Text × Span)) (rest : Text) (place : Location) {flags : List Flag}
    (some : flags ≠ []) (distinct : flags.Nodup) :
    ∃ span place',
      step (.plain frames parts captures names
          ('(' :: '?' :: (flags.map Flag.letter ++ ')' :: rest)) place) =
        .ok ⟨(flagState (flags.map (⟨·, true⟩)) .ignoreWhitespace).getD false, ⟨rest, place'⟩,
          frames, parts.push (.flags span (flags.map (⟨·, true⟩))), captures, names⟩ := by
  obtain ⟨closing, read⟩ := readFlags_letters rest some distinct ((place.next '(').next '?')
  have opened : step (.plain frames parts captures names
        ('(' :: '?' :: (flags.map Flag.letter ++ ')' :: rest)) place) =
      openFlags (.plain frames parts captures names
          ('(' :: '?' :: (flags.map Flag.letter ++ ')' :: rest)) place)
        ⟨place, place.next '('⟩ (place.next '(')
        ⟨flags.map Flag.letter ++ ')' :: rest, (place.next '(').next '?'⟩ := by
    cases flags with
    | nil => exact absurd rfl some
    | cons flag flags => cases flag <;> rfl
  have more : Reader.atEnd ⟨flags.map Flag.letter ++ ')' :: rest, (place.next '(').next '?'⟩ =
      false := by
    simp [Reader.atEnd]
  refine ⟨⟨place, closing.next ')'⟩, closing.next ')', ?_⟩
  rw [opened]
  unfold openFlags
  rw [more, read]
  rfl

/-- A text that begins with the letters of modifiers is read as the rest of it would be with them,
behind the flags. -/
theorem readPattern_led {m : Modifiers} (some : m ≠ .none) (source : Text) :
    Alike (Ast.Led m.items true) (readPattern m.ignoreWhitespace source)
      (readPattern false (['(', '?'] ++ m.display ++ [')'] ++ source)) := by
  obtain ⟨display, distinct, nonempty, _, verbose⟩ := m.spelled
  have text : ['(', '?'] ++ m.display ++ [')'] ++ source =
      '(' :: '?' :: (m.flags.map Flag.letter ++ ')' :: source) := by
    simp [display]
  obtain ⟨span, place, stepped⟩ :=
    step_letters [] ⟨.start, []⟩ 0 [] source .start (nonempty some) distinct
  have begun : readPattern false ('(' :: '?' :: (m.flags.map Flag.letter ++ ')' :: source)) =
      step (.plain [] ⟨.start, []⟩ 0 []
          ('(' :: '?' :: (m.flags.map Flag.letter ++ ')' :: source)) .start) >>=
        runFuel ('(' :: '?' :: (m.flags.map Flag.letter ++ ')' :: source)).length := rfl
  rw [text, begun, stepped, show (flagState (m.flags.map _) _).getD false = _ from verbose]
  have led : State.Led m.items source
      ⟨m.ignoreWhitespace, .ofText source, [], ⟨.start, []⟩, 0, []⟩
      ⟨m.ignoreWhitespace, ⟨source, place⟩, [], ⟨.start, [.flags span m.items]⟩, 0, []⟩ :=
    ⟨rfl, ⟨rfl, List.suffix_rfl⟩, ⟨true, .bottom, rfl⟩, rfl, rfl⟩
  refine runFuel_led led (Nat.lt_succ_self _) ?_
  simp only [List.length_cons, List.length_append]
  omega

theorem parse_letters {m : Modifiers} (some : m ≠ .none) {source : Text} {t t' : Tree}
    (direct : Tree.parse m source = .ok t)
    (inline : Tree.parse .none (['(', '?'] ++ m.display ++ [')'] ++ source) = .ok t') : t' = t := by
  obtain ⟨a, flags, read, lowered⟩ := parse_lowered.mp direct
  obtain ⟨a', flags', read', lowered'⟩ := parse_lowered.mp inline
  have led := readPattern_led some source
  rw [readPattern_of_parse read,
    show readPattern false _ = _ from readPattern_of_parse read'] at led
  obtain ⟨led⟩ := led
  have same := led.lower_alike (Ast.parse_read read).sound (.ofModifiers .none)
  rw [m.spelled.applied, lowered, lowered'] at same
  obtain ⟨same⟩ := same
  exact (Prod.mk.inj same).1.symm

/-- Modifiers mean the same as their letters in a group in front of the source: where both compile,
the two patterns have the same groups and match alike on every text. -/
theorem letters_mean_modifiers (source : Text) (m : Modifiers) (some : m ≠ .none) (p p' : Pattern)
    (direct : compile source m = .ok p)
    (inline : compile (['(', '?'] ++ m.display ++ [')'] ++ source) .none = .ok p') :
    p'.groupCount = p.groupCount ∧ ∀ text, p'.isMatch text = p.isMatch text ∧
      p'.find? text = p.find? text ∧
      ∀ start capture, p'.matchAt? text start capture = p.matchAt? text start capture := by
  obtain ⟨rfl, rfl⟩ := compile_source direct
  obtain ⟨written, none⟩ := compile_source inline
  obtain ⟨t, parsed, _, _, program⟩ := compiled_from p
  obtain ⟨t', parsed', _, _, program'⟩ := compiled_from p'
  rw [written, none] at parsed'
  have same : p'.program = p.program := by
    rw [program, program', parse_letters some parsed parsed']
  unfold groupCount isMatch find? matchAt? find?
  simp only [same, implies_true, and_self]

/-- All modifiers at once, before a comment, a group with flags of its own, and a bar. In front of the
bar no text matches, as the start cannot lie behind an `a`; `B` is found in the second group. -/
theorem letters_reach_second_branch :
    ∃ p p', compile "a+ # one\n(?-m:^.)|(^b)".toList ⟨true, true, true, true, true⟩ = .ok p ∧
      compile "(?imsxU)a+ # one\n(?-m:^.)|(^b)".toList .none = .ok p' ∧ p.groupCount = 2 ∧
      (∀ q ∈ [p, p'], q.find? ['A', 'a'] = none ∧
        q.find? ['B', 'c'] = some [some ⟨0, 1⟩, some ⟨0, 1⟩]) ∧
      p'.groupCount = p.groupCount ∧ ∀ text, p'.isMatch text = p.isMatch text ∧
        p'.find? text = p.find? text ∧
        ∀ start capture, p'.matchAt? text start capture = p.matchAt? text start capture := by
  have runs : (Program.compile "a+ # one\n(?-m:^.)|(^b)".toList
      ⟨true, true, true, true, true⟩).toOption.map (fun program =>
        (program.names.length, program.find? ['A', 'a'], program.find? ['B', 'c'])) =
      some (2, none, some [some ⟨0, 1⟩, some ⟨0, 1⟩]) := by decide +kernel
  obtain ⟨p, direct, program⟩ := compiles "a+ # one\n(?-m:^.)|(^b)".toList
    ⟨true, true, true, true, true⟩ (by rw [← Option.isSome_map, runs]; rfl)
  obtain ⟨p', inline, _⟩ := compiles "(?imsxU)a+ # one\n(?-m:^.)|(^b)".toList .none
    (by decide +kernel)
  obtain ⟨count, alike⟩ :=
    letters_mean_modifiers _ ⟨true, true, true, true, true⟩ (by decide) p p' direct inline
  rw [program] at runs
  obtain ⟨two, found⟩ := Prod.mk.inj (Option.some.inj runs)
  obtain ⟨unmatched, matched⟩ := Prod.mk.inj found
  refine ⟨p, p', direct, inline, two, ?_, count, alike⟩
  intro q mem
  rcases List.mem_pair.mp mem with rfl | rfl
  · exact ⟨unmatched, matched⟩
  · exact ⟨(alike _).2.1.trans unmatched, (alike _).2.1.trans matched⟩

end Pattern

end TextCursor
