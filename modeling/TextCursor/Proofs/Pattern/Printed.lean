import TextCursor.Proofs.Pattern.PrintedSet
import TextCursor.Proofs.Pattern.Reading
/-!
Every normal tree that is written out and read again, without modifiers, is read as `Tree.reread`
says. The leaves come first: codepoints, sets and assertions. The rest follows the tree, with the
operators around a tree handed down to it as signs.
-/
namespace TextCursor.Pattern

open Unicode (CodeSet CodeRange)

def Flags.plain : Flags := .ofModifiers .none

theorem plain_settled : Flags.plain.Settled := ⟨rfl, rfl⟩

theorem literal_lower {flags : Flags} (settled : flags.Settled) (span : Span) (c : Char) :
    (Ast.literal ⟨span, c, false⟩).lower flags = .ok (.literal [c], flags) := by
  simp [Ast.lower, Literal.lower, Literal.scalar, settled.case, bind, Except.bind]

theorem reads_element {next : Text → Prop} {flags : Flags} (c : Char) (text : Text) {tree : Tree}
    (ordinary : c ∉ ['(', ')', '|', '[', '?', '*', '+', '\x7b'])
    (h : ∀ rest place, next rest → ∃ e place', e.toAst.lower flags = .ok (tree, flags) ∧
      readElement false ⟨c :: (text ++ rest), place⟩ = .ok (e, ⟨rest, place'⟩)) :
    Reads next flags (c :: text) [] (fun _ => tree) 0 := by
  simp only [List.mem_cons, List.not_mem_nil, or_false, not_or] at ordinary
  obtain ⟨opening, closing, bar, bracket, option, star, plus, brace⟩ := ordinary
  refine reads_of_step (by simp) ?_
  intro frames parts captures names rest place follows
  obtain ⟨e, place', lowered, read⟩ := h rest place follows
  have stepped : step (.plain frames parts captures names (c :: (text ++ rest)) place) =
      (readElement false ⟨c :: (text ++ rest), place⟩ >>= fun found =>
        .ok (.plain frames (parts.push found.1.toAst) captures names found.2.rest
          found.2.place)) := by
    unfold step
    simp only [State.plain, Reader.peek?]
    split <;> first | rfl | simp_all
  refine ⟨e.toAst, place', ?_, lowered, ?_, ?_⟩
  · cases e <;> trivial
  · cases e <;> rfl
  · rw [List.cons_append, stepped, read]
    rfl

theorem reads_char {flags : Flags} (settled : flags.Settled) (c : Char) :
    Reads Bounds flags (printChar c) [] (fun _ => .literal [c]) 0 := by
  unfold printChar
  split
  · rename_i special
    refine reads_element '\\' [c] (by decide) ?_
    intro rest place _
    obtain ⟨span, place', read⟩ := readEscape_meta special rest place
    exact ⟨.literal ⟨span, c, false⟩, place', literal_lower settled span c, read⟩
  · rename_i ordinary
    have other (d : Char) (special : isMeta d = true) : c ≠ d := by
      rintro rfl
      exact ordinary special
    refine reads_element c [] ?_ ?_
    · simp only [List.mem_cons, List.not_mem_nil, or_false, not_or]
      exact ⟨other _ rfl, other _ rfl, other _ rfl, other _ rfl, other _ rfl, other _ rfl,
        other _ rfl, other _ rfl⟩
    · intro rest place _
      have escape := other '\\' rfl
      have dot := other '.' rfl
      have caret := other '^' rfl
      have dollar := other '$' rfl
      refine ⟨.literal ⟨⟨place, place.next c⟩, c, false⟩, place.next c, ?_, ?_⟩
      · exact literal_lower settled _ c
      · simp [readElement, Reader.peek?, Reader.spanChar, Reader.bump]

theorem reads_start (flags : Flags) :
    Reads Bounds flags ['\\', 'A'] [] (fun _ => .look .start) 0 :=
  reads_element '\\' ['A'] (by decide) fun _ _ _ => ⟨_, _, rfl, rfl⟩

theorem reads_stop (flags : Flags) :
    Reads Bounds flags ['\\', 'z'] [] (fun _ => .look .stop) 0 :=
  reads_element '\\' ['z'] (by decide) fun _ _ _ => ⟨_, _, rfl, rfl⟩

theorem reads_lineStart {flags : Flags} (lines : flags.multiLine = true) :
    Reads Bounds flags ['^'] [] (fun _ => .look (.lineStart flags.crlf)) 0 := by
  refine reads_element '^' [] (by decide) ?_
  intro rest place _
  refine ⟨.assertion ⟨place, place.next '^'⟩ .startLine, place.next '^', ?_, rfl⟩
  simp [Element.toAst, Ast.lower, Assertion.lower, lines]

theorem reads_lineStop {flags : Flags} (lines : flags.multiLine = true) :
    Reads Bounds flags ['$'] [] (fun _ => .look (.lineStop flags.crlf)) 0 := by
  refine reads_element '$' [] (by decide) ?_
  intro rest place _
  refine ⟨.assertion ⟨place, place.next '$'⟩ .endLine, place.next '$', ?_, rfl⟩
  simp [Element.toAst, Ast.lower, Assertion.lower, lines]

/-- A boundary without a name must not have a brace behind it that could open one. -/
theorem readWordBoundary_plain {rest : Text} (bounds : Bounds rest) (start place : Location) :
    readWordBoundary false start ⟨rest, place⟩ =
      .ok (.assertion ⟨start, place⟩ .wordBoundary, ⟨rest, place⟩) := by
  unfold readWordBoundary
  by_cases brace : rest.head? = some '\x7b'
  · obtain ⟨more, rfl⟩ : ∃ more, rest = '\x7b' :: more := by
      cases rest with
      | nil => cases brace
      | cons c more => exact ⟨more, by simpa using brace⟩
    have digit := bounds more rfl
    obtain ⟨d, tail, rfl⟩ : ∃ d tail, more = d :: tail := by
      cases more with
      | nil => cases digit
      | cons d tail => exact ⟨d, tail, rfl⟩
    have noName : (!(d.isAlpha || d == '-')) = true :=
      digit_all (fun d => !(d.isAlpha || d == '-')) (by decide) (by simpa using digit)
    simp only [Reader.peek?, List.head?_cons, if_true, readBoundaryName, Reader.bumpSkip,
      Reader.bump, Reader.skipBlanks, Bool.false_eq_true, if_false, noName, bind, Except.bind]
    rfl
  · simp [Reader.peek?, brace, Reader.spanFrom]

theorem reads_word (flags : Flags) (kind : WordLook) :
    Reads Bounds flags kind.print [] (fun _ => .look (.word kind flags.unicode)) 0 := by
  cases kind with
  | boundary =>
    refine reads_element '\\' ['b'] (by decide) ?_
    intro rest place bounds
    have read : readElement false ⟨'\\' :: 'b' :: rest, place⟩ =
        readWordBoundary false place ⟨rest, (place.next '\\').next 'b'⟩ := rfl
    refine ⟨_, _, ?_, read.trans (readWordBoundary_plain bounds _ _)⟩
    rfl
  | notBoundary =>
    exact reads_element '\\' ['B'] (by decide) fun _ _ _ => ⟨_, _, rfl, rfl⟩
  | start =>
    exact reads_element '\\' "b\x7bstart\x7d".toList (by decide) fun _ _ _ => ⟨_, _, rfl, rfl⟩
  | stop =>
    exact reads_element '\\' "b\x7bend\x7d".toList (by decide) fun _ _ _ => ⟨_, _, rfl, rfl⟩
  | startHalf =>
    exact reads_element '\\' "b\x7bstart-half\x7d".toList (by decide) fun _ _ _ => ⟨_, _, rfl, rfl⟩
  | stopHalf =>
    exact reads_element '\\' "b\x7bend-half\x7d".toList (by decide) fun _ _ _ => ⟨_, _, rfl, rfl⟩

theorem reads_enclosed {flags inner : Flags} {opening text : Text} {items : List FlagItem}
    {groups : List (Option Text)} {tree : Nat → Tree} {levels : Nat}
    (opens : Opens flags inner opening [] (fun _ => .plain items) (fun _ t => t) fun _ => True)
    (inside : ReadsInside inner text groups tree levels) :
    Reads Bounds flags (opening ++ text ++ [')']) groups tree (levels + 1) :=
  reads_group opens inside fun _ => trivial

theorem inside_part {flags : Flags} {text : Text} {groups : List (Option Text)}
    {tree : Nat → Tree} {levels : Nat} (h : Reads Bounds flags text groups tree levels) :
    ReadsInside flags text groups tree levels := inside_one (h.mono fun _ => Follows.bounds)

theorem reads_look (l : Look) : Reads Bounds .plain l.print [] (fun _ => .look l) l.levels := by
  match l with
  | .start => exact reads_start _
  | .stop => exact reads_stop _
  | .lineStart false =>
    exact reads_enclosed (lines_opens .plain) (inside_part (reads_lineStart rfl))
  | .lineStop false =>
    exact reads_enclosed (lines_opens .plain) (inside_part (reads_lineStop rfl))
  | .lineStart true =>
    exact reads_enclosed (crlf_opens .plain) (inside_part (reads_lineStart rfl))
  | .lineStop true =>
    exact reads_enclosed (crlf_opens .plain) (inside_part (reads_lineStop rfl))
  | .word kind true => exact reads_word .plain kind
  | .word kind false =>
    exact reads_enclosed (bytes_opens .plain) (inside_part (reads_word _ kind))

theorem reads_bracketed {flags : Flags} (settled : flags.Settled) {print : Char → Text}
    {set : CodeSet} (canonical : set.Canonical) (nonempty : set.ranges ≠ [])
    (spelled : ∀ r ∈ set.ranges, SpelledRange flags print r) :
    Reads Bounds flags ('[' :: (set.ranges.flatMap (printRange print) ++ [']'])) []
      (fun _ => .ofSet (!flags.unicode) set) (insideLevels set + 1) := by
  refine reads_of_step (by simp) ?_
  intro frames parts captures names rest place _
  obtain ⟨span, inner, place', lowered, deep, read⟩ :=
    readClass_printed canonical nonempty spelled rest place
  refine ⟨.bracketed span false inner, place', trivial, ?_, congrArg (· + 1) deep, ?_⟩
  · simp [Ast.lower, ClassSet.lower, lowered, bind, Except.bind, foldCase, settled.case, negate]
  · have text : '[' :: (set.ranges.flatMap (printRange print) ++ [']']) ++ rest =
        '[' :: (set.ranges.flatMap (printRange print) ++ ']' :: rest) := by simp
    have stepped : step (.plain frames parts captures names
        ('[' :: (set.ranges.flatMap (printRange print) ++ ']' :: rest)) place) =
        (readClass false ⟨'[' :: (set.ranges.flatMap (printRange print) ++ ']' :: rest), place⟩ >>=
          fun found => .ok (.plain frames (parts.push found.1) captures names found.2.rest
            found.2.place)) := rfl
    rw [text, stepped, read]
    rfl

theorem ofSet_eq (bytes : Bool) {set : CodeSet} (nonempty : set.isEmpty = false)
    (several : set.single? = none) : Tree.ofSet bytes set = .codes bytes set := by
  simp [Tree.ofSet, nonempty, several]

theorem reads_fail : Reads Bounds .plain "[a&&b]".toList [] (fun _ => .codes true .empty) 2 := by
  refine reads_of_step (List.cons_ne_nil _ _) ?_
  intro frames parts captures names rest place _
  refine ⟨_, _, ?_, ?_, ?_, rfl⟩
  · trivial
  · rfl
  · rfl

theorem reads_codes {bytes : Bool} {set : CodeSet} (normal : Tree.NormalCodes bytes set) :
    Reads Bounds .plain (printSet bytes set) [] (fun _ => .codes bytes set)
      (setLevels bytes set) := by
  unfold printSet setLevels
  by_cases empty : set.isEmpty = true
  · have fails := normal.fails empty
    have : set = .empty := by
      obtain ⟨ranges⟩ := set
      simpa [CodeSet.isEmpty, CodeSet.empty] using empty
    rw [if_pos empty, if_pos empty, fails, this]
    exact reads_fail
  · have nonempty : set.isEmpty = false := by simpa using empty
    have some : set.ranges ≠ [] := by simpa [CodeSet.isEmpty] using empty
    have made := fun bytes => ofSet_eq bytes nonempty normal.several
    rw [if_neg empty, if_neg empty]
    cases bytes with
    | false =>
      have spelled : ∀ r ∈ set.ranges, SpelledRange .plain printChar r :=
        fun r _ n _ => printChar_spells (Or.inl rfl)
      have read := reads_bracketed plain_settled normal.canonical some spelled
      rw [if_neg (by decide), ← made]
      exact read
    | true =>
      have ascii := (CodeSet.isAscii_iff set).mp (normal.ascii rfl)
      have spelled : ∀ r ∈ set.ranges,
          SpelledRange { Flags.plain with unicode := false } printByte r := by
        intro r mem n bound
        have valid := normal.canonical.valid r mem
        have small : n < 128 := by
          have := ascii r mem
          have := valid.ordered
          rcases bound with rfl | rfl <;> omega
        exact printByte_spells (by rw [toNat_ofNat (CodeSet.ascii_valid small)]; exact small)
      have settled : Flags.Settled { Flags.plain with unicode := false } := ⟨rfl, rfl⟩
      have read := reads_bracketed settled normal.canonical some spelled
      have whole := reads_enclosed (bytes_opens .plain) (inside_part read)
      rw [if_pos rfl, ← made]
      simpa using whole

def Leading (text : Text) : Prop := ∃ c more, text = c :: more ∧ c ≠ '?' ∧ c ≠ '\x7b'

theorem Leading.append {text : Text} (h : Leading text) (rest : Text) : Leading (text ++ rest) := by
  obtain ⟨c, more, rfl, mark, brace⟩ := h
  exact ⟨c, more ++ rest, rfl, mark, brace⟩

theorem Leading.starts {text : Text} (h : Leading text) : Starts text := by
  obtain ⟨c, more, rfl, mark, brace⟩ := h
  intro rest _
  exact ⟨by simpa using mark, by simpa using brace⟩

theorem printChar_leading (c : Char) : Leading (printChar c) := by
  unfold printChar
  split
  · exact ⟨'\\', [c], rfl, by decide, by decide⟩
  · rename_i ordinary
    refine ⟨c, [], rfl, ?_, ?_⟩
    · rintro rfl
      exact ordinary rfl
    · rintro rfl
      exact ordinary rfl

theorem parenthesis_leading (text : Text) : Leading ('(' :: text) :=
  ⟨'(', text, rfl, by decide, by decide⟩

theorem printSet_leading (bytes : Bool) (set : CodeSet) : Leading (printSet bytes set) := by
  unfold printSet
  split
  · exact ⟨'[', _, rfl, by decide, by decide⟩
  · split
    · exact parenthesis_leading _
    · exact ⟨'[', _, rfl, by decide, by decide⟩

theorem lookPrint_leading (l : Look) : Leading l.print := by
  match l with
  | .start => exact ⟨'\\', _, rfl, by decide, by decide⟩
  | .stop => exact ⟨'\\', _, rfl, by decide, by decide⟩
  | .lineStart true => exact parenthesis_leading _
  | .lineStart false => exact parenthesis_leading _
  | .lineStop true => exact parenthesis_leading _
  | .lineStop false => exact parenthesis_leading _
  | .word _ false => exact parenthesis_leading _
  | .word kind true => cases kind <;> exact ⟨'\\', _, rfl, by decide, by decide⟩

theorem print_literal (chars : Text) : (Tree.literal chars).print =
    if 1 < chars.length then parenthesized (chars.flatMap printChar)
    else chars.flatMap printChar := rfl

theorem print_repetition (count : Count) (greedy : Bool) (sub : Tree) :
    (Tree.repetition count greedy sub).print =
      sub.print ++ (signs count greedy).flatMap Count.print := by
  rw [signs_print, ← List.append_assoc]
  rfl

theorem print_leading : (t : Tree) → t.Normal → Leading t.print
  | .empty, _ => parenthesis_leading _
  | .literal chars, nonempty => by
    obtain ⟨c, rest, rfl⟩ := List.exists_cons_of_ne_nil nonempty
    rw [print_literal]
    split
    · exact parenthesis_leading _
    · exact (printChar_leading c).append _
  | .codes bytes set, _ => printSet_leading bytes set
  | .look l, _ => lookPrint_leading l
  | .repetition count greedy sub, normal => by
    rw [print_repetition]
    exact (print_leading sub normal.2).append _
  | .capture _ none _, _ => parenthesis_leading _
  | .capture _ (some _) _, _ => parenthesis_leading _
  | .concat _, _ => parenthesis_leading _
  | .alternation _, _ => parenthesis_leading _

theorem printAll_starts (ts : List Tree) (normal : Tree.AllNormal ts) :
    Starts (Tree.printAll ts) := by
  cases ts with
  | nil => exact fun rest follows => follows
  | cons t rest => exact ((print_leading t normal.1).append _).starts

theorem readsAll_chars {flags : Flags} (settled : flags.Settled) (chars : Text) :
    ReadsAll flags (chars.flatMap printChar) [] (fun _ => chars.map fun c => .literal [c]) 0 := by
  induction chars with
  | nil => exact readsAll_nil flags
  | cons c rest ih =>
    have starts : Starts (rest.flatMap printChar) := by
      cases rest with
      | nil => exact fun rest follows => follows
      | cons d more => exact ((printChar_leading d).append _).starts
    exact readsAll_cons ((reads_char settled c).mono fun _ => Follows.bounds) ih starts

theorem concatenation_chars {chars : Text} (nonempty : chars ≠ []) :
    Tree.concatenation (chars.map fun c => .literal [c]) = .literal chars := by
  have flat : (chars.map fun c => Tree.literal [c]).flatMap Tree.asParts =
      chars.map fun c => Tree.literal [c] := by
    refine Tree.flatMap_flat ?_
    intro t mem
    obtain ⟨c, _, rfl⟩ := List.mem_map.mp mem
    rfl
  have joined : Tree.joinLiterals (chars.map fun c => Tree.literal [c]) = [.literal chars] := by
    clear flat
    induction chars with
    | nil => exact absurd rfl nonempty
    | cons c rest ih =>
      cases rest with
      | nil => rfl
      | cons d more =>
        have inner := ih (by simp)
        rcases Tree.joinLiterals_cons (.literal [c]) ((d :: more).map fun c => .literal [c]) with
          ⟨a, b, others, same, tail, whole⟩ | ⟨apart, _⟩
        · rw [inner] at tail
          cases same
          cases tail
          exact whole
        · have := apart rfl
          rw [inner] at this
          cases this
  unfold Tree.concatenation
  rw [flat, joined]

theorem reads_literal {flags : Flags} (settled : flags.Settled) {chars : Text}
    (nonempty : chars ≠ []) :
    Reads Bounds flags (Tree.literal chars).print [] (fun _ => .literal chars)
      (if 1 < chars.length then 2 else 0) := by
  rw [print_literal]
  split
  · rename_i several
    have inside := inside_all (readsAll_chars settled chars) (fun _ => by rw [List.length_map]; exact several)
    rw [← concatenation_chars nonempty]
    exact reads_enclosed (parenthesis_opens flags) inside
  · rename_i single
    match chars, nonempty with
    | [c], _ => simpa using reads_char settled c
    | _ :: _ :: _, _ => simp at single

theorem readsBack_of_print {t : Tree} (h : Reads Follows .plain
    (t.print ++ [].flatMap Count.print) t.groups (fun n => t.reread n []) (t.levels [])) :
    ReadsBack .plain t := by
  rw [List.flatMap_nil, List.append_nil] at h
  exact h

theorem rereadAll_length (n : Nat) (ts : List Tree) :
    (Tree.rereadAll n ts).length = ts.length := by
  induction ts generalizing n with
  | nil => rfl
  | cons t rest ih => simp [Tree.rereadAll, ih]

mutual

/-- What is written of a tree, with signs behind it, is read as `Tree.reread` says. -/
theorem reads_print : (t : Tree) → t.Normal → ∀ behind : List Count, (∀ c ∈ behind, c.Bounded) →
    Reads Follows .plain (t.print ++ behind.flatMap Count.print) t.groups
      (fun n => t.reread n behind) (t.levels behind)
  | .empty, _, behind, bounded =>
    reads_under plain_settled (reads_enclosed (parenthesis_opens _) (inside_empty _)) behind bounded
  | .literal _, nonempty, behind, bounded =>
    reads_under plain_settled (reads_literal plain_settled nonempty) behind bounded
  | .codes _ _, normal, behind, bounded =>
    reads_under plain_settled (reads_codes normal) behind bounded
  | .look l, _, behind, bounded => reads_under plain_settled (reads_look l) behind bounded
  | .repetition count greedy sub, normal, behind, bounded => by
    have all : ∀ c ∈ signs count greedy ++ behind, c.Bounded := by
      intro c mem
      rcases List.mem_append.mp mem with own | outer
      · exact signs_bounded normal.1.bounded greedy c own
      · exact bounded c outer
    have inner := reads_print sub normal.2 (signs count greedy ++ behind) all
    rw [List.flatMap_append, ← List.append_assoc, ← print_repetition] at inner
    exact inner
  | .capture index none sub, normal, behind, bounded => by
    have inside := inside_one (readsBack_of_print (reads_print sub normal.2 [] (by simp)))
    have read := reads_group (capture_opens .plain) inside (by
      intro rest
      obtain ⟨c, more, same, mark, _⟩ := (print_leading sub normal.2).append (')' :: rest)
      rw [same]
      simpa using mark)
    exact reads_under plain_settled read behind bounded
  | .capture index (some name) sub, normal, behind, bounded => by
    have inside := inside_one (readsBack_of_print (reads_print sub normal.2 [] (by simp)))
    have read := reads_group (named_opens .plain (normal.1 name rfl)) inside fun _ => trivial
    exact reads_under plain_settled read behind bounded
  | .concat parts, normal, behind, bounded => by
    have inside := inside_all (reads_printAll parts normal.2) fun n => by
      rw [rereadAll_length]
      exact normal.1.several
    exact reads_under plain_settled (reads_enclosed (parenthesis_opens _) inside) behind bounded
  | .alternation branches, normal, behind, bounded => by
    have inside := inside_branches normal.1.several (reads_printEach branches normal.2)
    exact reads_under plain_settled (reads_enclosed (parenthesis_opens _) inside) behind bounded

theorem reads_printAll : (ts : List Tree) → Tree.AllNormal ts →
    ReadsAll .plain (Tree.printAll ts) (Tree.groupsAll ts) (fun n => Tree.rereadAll n ts)
      (Tree.levelsAll ts)
  | [], _ => readsAll_nil _
  | t :: rest, normal => by
    have first := readsBack_of_print (reads_print t normal.1 [] (by simp))
    have all := readsAll_cons first (reads_printAll rest normal.2) (printAll_starts rest normal.2)
    rw [← Tree.groupsAll_cons] at all
    simp only [← Tree.rereadAll_cons] at all
    exact all

theorem reads_printEach : (ts : List Tree) → Tree.AllNormal ts → ∀ t ∈ ts, ReadsBack .plain t
  | [], _, _, mem => absurd mem List.not_mem_nil
  | t :: rest, normal, u, mem => by
    rcases List.mem_cons.mp mem with same | later
    · rw [same]
      exact readsBack_of_print (reads_print t normal.1 [] (by simp))
    · exact reads_printEach rest normal.2 u later

end

theorem readPattern_print {t : Tree} (written : t.Written) :
    ∃ a flags, readPattern false t.print = .ok a ∧
      a.lower .plain = .ok (t.reread 0 [], flags) ∧ a.levels = t.levels [] := by
  have inside := inside_one (readsBack_of_print (reads_print t written.normal [] (by simp)))
  have fresh : Fresh [] t.groups := by
    have := written.distinct
    simpa [Fresh, Tree.groups, List.filterMap_map] using this
  obtain ⟨frames, parts, new, place, meant, _, steps, shorter, run⟩ :=
    inside [] .start 0 [] [] .start (by intro start branches more same; cases same) (Or.inl rfl)
      fresh
  obtain ⟨a, closed, deep, flags, lowered⟩ := meant place
  refine ⟨a, flags, ?_, lowered, deep⟩
  simp only [State.plain, List.append_nil, List.length_nil] at shorter run
  obtain ⟨fuel, enough⟩ : ∃ fuel, t.print.length + 1 = fuel + 1 + steps :=
    ⟨t.print.length - steps, by omega⟩
  unfold readPattern
  rw [enough]
  rw [show Reader.ofText t.print = ⟨t.print, .start⟩ from rfl, run, runFuel]
  simp [Reader.skipBlanks, Reader.atEnd, finish, closed]

theorem parse_print {t r : Tree} (written : t.Written)
    (h : Tree.parse .none t.print = .ok r) : r = t.reread 0 [] := by
  obtain ⟨a, flags, read, lowered, _⟩ := readPattern_print written
  obtain ⟨b, flags', parsed, other⟩ := parse_lowered.mp h
  have again : readPattern false t.print = .ok b := readPattern_of_parse parsed
  obtain rfl : a = b := Except.ok.inj (read.symm.trans again)
  have same : (t.reread 0 [], flags) = (r, flags') := Except.ok.inj (lowered.symm.trans other)
  exact (Prod.mk.inj same).1.symm

end TextCursor.Pattern
