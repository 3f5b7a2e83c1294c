import TextCursor.Proofs.Pattern.Meaning
/-!
Which patterns are refused. What is written of a tree is always read again, but for its depth: the
parentheses that are added nest deeper than the source, and the limit is the same. A source that keeps
well below the limit has nothing to fear: each of its levels costs four at most.
-/
namespace TextCursor.Pattern

namespace Tree

mutual

def height : Tree → Nat
  | empty => 1
  | literal _ => 2
  | codes _ _ => 3
  | look _ => 1
  | repetition _ _ sub => sub.height + 1
  | capture _ _ sub => sub.height + 1
  | concat parts => heightAll parts + 2
  | alternation branches => heightAll branches + 2

def heightAll : List Tree → Nat
  | [] => 0
  | t :: rest => max t.height (heightAll rest)

end

theorem heightAll_le {ts : List Tree} {n : Nat} : heightAll ts ≤ n ↔ ∀ t ∈ ts, t.height ≤ n := by
  induction ts with
  | nil => simp [heightAll]
  | cons t rest ih => rw [heightAll, Nat.max_le, ih, List.forall_mem_cons]

theorem setLevels_le (bytes : Bool) (set : Unicode.CodeSet) : setLevels bytes set ≤ 3 := by
  unfold setLevels insideLevels
  split
  · decide
  · cases bytes <;> split <;> decide

theorem lookLevels_le (l : Look) : l.levels ≤ 1 := by
  unfold Look.levels
  split <;> decide

mutual

theorem levels_le : (t : Tree) → ∀ behind,
    t.levels behind ≤ t.height + (operators behind).length
  | empty, _ => Nat.le_refl _
  | literal chars, behind => by
    simp only [levels, height]
    split <;> omega
  | codes bytes set, behind => Nat.add_le_add_right (setLevels_le bytes set) _
  | look l, behind => Nat.add_le_add_right (lookLevels_le l) _
  | repetition count greedy sub, behind => by
    have inner := levels_le sub (signs count greedy ++ behind)
    have more := operators_signs count greedy behind
    simp only [levels, height]
    omega
  | capture _ _ sub, behind => by
    have inner := levels_le sub []
    simp only [levels, height, operators, List.length_nil] at inner ⊢
    omega
  | concat parts, behind => by
    have inner := levelsAll_le parts
    simp only [levels, height]
    omega
  | alternation branches, behind => by
    have inner := levelsAll_le branches
    simp only [levels, height]
    omega

theorem levelsAll_le : (ts : List Tree) → levelsAll ts ≤ heightAll ts
  | [] => Nat.le_refl _
  | t :: rest => by
    have here := levels_le t []
    have later := levelsAll_le rest
    simp only [levelsAll, heightAll, operators, List.length_nil] at here ⊢
    omega

end

theorem height_pos (t : Tree) : 1 ≤ t.height := by
  cases t <;> simp [height]

theorem ofSet_height (bytes : Bool) (set : Unicode.CodeSet) : (ofSet bytes set).height ≤ 3 := by
  unfold ofSet
  split
  · exact Nat.le_refl _
  · split
    · exact Nat.le_succ 2
    · exact Nat.le_refl _

theorem repeated_height (count : Count) (greedy : Bool) (sub : Tree) :
    (repeated count greedy sub).height ≤ sub.height + 1 := by
  have := sub.height_pos
  simp only [repeated]
  split
  · simp only [height]
    omega
  · split
    · omega
    · exact Nat.le_refl _

theorem asParts_height (t : Tree) : ∀ p ∈ t.asParts, p.height ≤ t.height := by
  intro p mem
  cases t with
  | empty => cases mem
  | concat parts =>
    have := heightAll_le.mp (Nat.le_refl (heightAll parts)) p mem
    simp only [height]
    omega
  | _ => exact Nat.le_of_eq (congrArg height (List.mem_singleton.mp mem))

theorem joinLiterals_height {ts : List Tree} {n : Nat} (low : 2 ≤ n)
    (all : ∀ t ∈ ts, t.height ≤ n) : ∀ t ∈ joinLiterals ts, t.height ≤ n := by
  induction ts with
  | nil => exact all
  | cons t rest ih =>
    obtain ⟨here, later⟩ := List.forall_mem_cons.mp all
    rcases joinLiterals_cons t rest with ⟨a, b, more, rfl, tail, whole⟩ | ⟨_, whole⟩
    · have others := ih later
      rw [tail] at others
      rw [whole]
      exact List.forall_mem_cons.mpr ⟨low, (List.forall_mem_cons.mp others).2⟩
    · rw [whole]
      exact List.forall_mem_cons.mpr ⟨here, ih later⟩

theorem concatenation_height {ts : List Tree} {n : Nat} (low : 2 ≤ n)
    (all : ∀ t ∈ ts, t.height ≤ n) : (concatenation ts).height ≤ n + 2 := by
  have flat : ∀ p ∈ ts.flatMap asParts, p.height ≤ n := by
    intro p mem
    obtain ⟨t, given, part⟩ := List.mem_flatMap.mp mem
    exact Nat.le_trans (asParts_height t p part) (all t given)
  have joined := joinLiterals_height low flat
  unfold concatenation
  split
  · exact Nat.le_add_left 1 (n + 1)
  · rename_i t one
    rw [one] at joined
    exact Nat.le_add_right_of_le (joined t List.mem_cons_self)
  · exact Nat.add_le_add_right (heightAll_le.mpr joined) 2

theorem asBranches_height (t : Tree) : ∀ b ∈ t.asBranches, b.height ≤ t.height := by
  intro b mem
  cases t with
  | alternation branches =>
    have := heightAll_le.mp (Nat.le_refl (heightAll branches)) b mem
    simp only [height]
    omega
  | _ => exact Nat.le_of_eq (congrArg height (List.mem_singleton.mp mem))

theorem anyOfDistinct_height {ts : List Tree} {n : Nat} (low : 3 ≤ n)
    (all : ∀ t ∈ ts, t.height ≤ n) : (anyOfDistinct ts).height ≤ n + 2 := by
  have flat : ∀ b ∈ ts.flatMap asBranches, b.height ≤ n := by
    intro b mem
    obtain ⟨t, given, branch⟩ := List.mem_flatMap.mp mem
    exact Nat.le_trans (asBranches_height t b branch) (all t given)
  have set (bytes : Bool) (codes : Unicode.CodeSet) : (ofSet bytes codes).height ≤ n + 2 :=
    Nat.le_trans (ofSet_height bytes codes) (by omega)
  unfold anyOfDistinct
  split
  · exact Nat.le_trans low (Nat.le_add_right n 2)
  · rename_i t one
    rw [one] at flat
    exact Nat.le_add_right_of_le (flat t List.mem_cons_self)
  · split
    · exact set false _
    · split
      · exact set false _
      · exact Nat.add_le_add_right (heightAll_le.mpr flat) 2

theorem anyOf_height {ts : List Tree} {n : Nat} (low : 4 ≤ n) (all : ∀ t ∈ ts, t.height ≤ n) :
    (anyOf ts).height ≤ n + 4 := by
  rcases anyOf_cases ts with same | ⟨first, others, common, whole, start, same⟩
  · have := anyOfDistinct_height (by omega) all
    rw [same]
    omega
  · have branches : heightAll ((first :: others).map concat) ≤ n := by
      have := anyOfDistinct_height (by omega) all
      rw [whole, height] at this
      omega
    have parts : ∀ ps ∈ first :: others, ∀ p ∈ ps, p.height ≤ n - 2 := by
      intro ps mem
      have := heightAll_le.mp branches (concat ps) (List.mem_map_of_mem mem)
      rw [height] at this
      exact heightAll_le.mp (by omega)
    have dropped : ∀ b ∈ (first :: others).map fun parts =>
        concatenation (parts.drop common.length), b.height ≤ n := by
      intro b mem
      obtain ⟨ps, given, rfl⟩ := List.mem_map.mp mem
      have inside : ∀ p ∈ ps.drop common.length, p.height ≤ n - 2 :=
        fun p part => parts ps given p (List.mem_of_mem_drop part)
      have := concatenation_height (by omega) inside
      omega
    have rest := anyOfDistinct_height (by omega) dropped
    rw [same]
    apply concatenation_height (n := n + 2) (by omega)
    intro p mem
    rcases List.mem_append.mp mem with front | back
    · have := parts first List.mem_cons_self p ((start first List.mem_cons_self).subset front)
      omega
    · rw [List.mem_singleton.mp back]
      exact rest

end Tree

theorem leaf_height {t : Tree} (low : t.height ≤ 3) (levels : Nat) : t.height ≤ 4 * levels + 4 := by
  omega

theorem literal_height {flags : Flags} {l : Literal} {t : Tree} (h : l.lower flags = .ok t) :
    t.height ≤ 3 := by
  obtain ⟨c, _, h⟩ := bind_ok.mp h
  split at h
  · cases h
    exact Tree.ofSet_height _ _
  · cases h
    exact Nat.le_succ 2

mutual

/-- Each level of a source costs four levels of what its tree is written as, at most. -/
theorem lower_height : (a : Ast) → ∀ {flags flags' : Flags} {t : Tree},
    a.lower flags = .ok (t, flags') → t.height ≤ 4 * a.levels + 4
  | .empty _, _, _, _, h => by
    cases h
    exact leaf_height (by decide) _
  | .flags _ _, _, _, _, h => by
    cases h
    exact leaf_height (by decide) _
  | .literal l, _, _, _, h => by
    obtain ⟨t, lowered, h⟩ := bind_ok.mp h
    cases h
    exact leaf_height (literal_height lowered) _
  | .dot _, _, _, _, h => by
    simp only [Ast.lower] at h
    split at h
    · cases h
      exact leaf_height (Tree.ofSet_height _ _) _
    · exact absurd h fault_ne_ok
  | .assertion _ kind, flags, _, _, h => by
    cases h
    exact leaf_height (t := .look (kind.lower flags)) (by simp [Tree.height]) _
  | .property p, _, _, _, h => by
    obtain ⟨set, lowered, h⟩ := bind_ok.mp h
    cases h
    exact leaf_height (Tree.ofSet_height _ _) _
  | .shorthand p, _, _, _, h => by
    obtain ⟨set, lowered, h⟩ := bind_ok.mp h
    cases h
    exact leaf_height (Tree.ofSet_height _ _) _
  | .bracketed span negated set, _, _, _, h => by
    simp only [Ast.lower] at h
    obtain ⟨made, lowered, h⟩ := bind_ok.mp h
    cases h
    exact leaf_height (Tree.ofSet_height _ _) _
  | .repetition _ count greedy sub, _, _, _, h => by
    simp only [Ast.lower, bind_ok, Prod.exists] at h
    obtain ⟨t, flags, lowered, h⟩ := h
    cases h
    have inner := lower_height sub lowered
    rw [Ast.levels]
    exact Nat.le_trans (Tree.repeated_height count _ t) (by omega)
  | .group _ (.capture index name) sub, _, _, _, h => by
    simp only [Ast.lower, bind_ok, Prod.exists] at h
    obtain ⟨t, flags, lowered, h⟩ := h
    cases h
    have inner := lower_height sub lowered
    rw [Ast.levels, Tree.height]
    omega
  | .group _ (.plain _) sub, _, _, _, h => by
    simp only [Ast.lower, bind_ok, Prod.exists] at h
    obtain ⟨t, flags, lowered, h⟩ := h
    cases h
    have inner := lower_height sub lowered
    rw [Ast.levels]
    omega
  | .alternation _ branches, _, _, _, h => by
    simp only [Ast.lower, bind_ok, Prod.exists] at h
    obtain ⟨ts, flags, lowered, h⟩ := h
    cases h
    have outer := Tree.anyOf_height (by omega) (lowerAll_height branches lowered)
    rw [Ast.levels]
    omega
  | .concat _ parts, _, _, _, h => by
    simp only [Ast.lower, bind_ok, Prod.exists] at h
    obtain ⟨ts, flags, lowered, h⟩ := h
    cases h
    have outer := Tree.concatenation_height (by omega) (lowerAll_height parts lowered)
    rw [Ast.levels]
    omega

theorem lowerAll_height : (as : List Ast) → ∀ {flags flags' : Flags} {ts : List Tree},
    Ast.lowerAll flags as = .ok (ts, flags') → ∀ t ∈ ts, t.height ≤ 4 * Ast.levelsAll as + 4
  | [], _, _, _, h => by
    cases h
    simp
  | a :: rest, _, _, _, h => by
    simp only [Ast.lowerAll, bind_ok, Prod.exists] at h
    obtain ⟨t, flags, here, ts, flags', there, h⟩ := h
    cases h
    have first := lower_height a here
    have others := lowerAll_height rest there
    rw [Ast.levelsAll]
    refine List.forall_mem_cons.mpr ⟨by omega, ?_⟩
    intro u mem
    have := others u mem
    omega

end

theorem anchored_levels {flags flags' : Flags} {a : Ast} {t : Tree}
    (lowered : a.lower flags = .ok (t, flags')) (shallow : a.levels ≤ 61) :
    t.anchored.levels [] ≤ nestLimit := by
  have height := lower_height a lowered
  have parts : ∀ p ∈ [Tree.look .start, t], p.height ≤ 248 := by
    simp only [List.mem_cons, List.not_mem_nil, or_false, forall_eq_or_imp, forall_eq, Tree.height]
    omega
  have whole := t.anchored.levels_le []
  have outer : t.anchored.height ≤ 250 := Tree.concatenation_height (by decide) parts
  simp only [operators, List.length_nil] at whole
  simp only [nestLimit]
  omega

theorem compile_error {source : Text} {modifiers : Modifiers} {e : PatternError} :
    compile source modifiers = .error e ↔ Program.compile source modifiers = .error e := by
  unfold compile
  split
  · rename_i program compiled
    simp [compiled]
  · rename_i f failed
    simp [failed]

theorem compile_unreadable {source : Text} {modifiers : Modifiers} {e : SyntaxError} :
    compile source modifiers = .error (.unreadable e) ↔ Tree.parse modifiers source = .error e := by
  rw [compile_error, Program.compile]
  cases Tree.parse modifiers source with
  | error f => simp [Except.mapError, bind, Except.bind]
  | ok t =>
    cases again : Tree.parse .none t.anchored.print with
    | error f => simp [again, Except.mapError, bind, Except.bind]
    | ok r =>
      simp only [again, Except.mapError, bind, Except.bind, Program.ofTree?]
      split
      · simp
      · simp

theorem compile_reread {source : Text} {modifiers : Modifiers} {t r : Tree}
    (parsed : Tree.parse modifiers source = .ok t)
    (again : Tree.parse .none t.anchored.print = .ok r) :
    if r.fits then ∃ p, compile source modifiers = .ok p ∧ p.program = .ofTree r
    else compile source modifiers = .error .tooLarge := by
  have whole : Program.compile source modifiers = Program.ofTree? r := by
    simp [Program.compile, parsed, again, Except.mapError, bind, Except.bind]
  split
  · rename_i fits
    have made : Program.compile source modifiers = .ok (.ofTree r) := by
      rw [whole, Program.ofTree?, if_pos fits]
    obtain ⟨p, compiled, same⟩ := compiles source modifiers (by rw [made]; rfl)
    rw [made] at same
    exact ⟨p, compiled, (Except.ok.inj same).symm⟩
  · rename_i large
    rw [compile_error, whole, Program.ofTree?, if_neg large]

theorem compile_unprintable {source : Text} {modifiers : Modifiers} {t : Tree} {e : SyntaxError}
    (parsed : Tree.parse modifiers source = .ok t)
    (again : Tree.parse .none t.anchored.print = .error e) :
    compile source modifiers = .error (.unprintable e) := by
  rw [compile_error]
  simp [Program.compile, parsed, again, Except.mapError, bind, Except.bind]

theorem parse_print_iff {t : Tree} (written : t.Written) :
    if t.levels [] ≤ nestLimit then Tree.parse .none t.print = .ok (t.reread 0 [])
    else ∃ span, Tree.parse .none t.print = .error ⟨t.print, span, .nestLimitExceeded⟩ := by
  obtain ⟨a, flags, read, lowered, deep⟩ := readPattern_print written
  split
  · rename_i few
    exact parse_lowered.mpr ⟨a, flags, parse_of_levels read (by rwa [deep]), lowered⟩
  · rename_i many
    obtain ⟨span, failed⟩ := parse_of_many_levels read (by omega)
    refine ⟨span, ?_⟩
    have same : Ast.parse Modifiers.none.ignoreWhitespace t.print =
        fault span .nestLimitExceeded := failed
    simp [Tree.parse, same, fault]

/-- A source that cannot be read is refused for what is wrong with it. One that can be read compiles,
unless it is too large, if its anchored tree does not nest too deep when it is written out, as that of
a shallow source never does; if it does, what is refused is a text that no one wrote. -/
theorem compile_outcome (source : Text) (modifiers : Modifiers) :
    (∀ e, compile source modifiers = .error (.unreadable e) ↔
      Tree.parse modifiers source = .error e) ∧
    ∀ a t, Ast.parse modifiers.ignoreWhitespace source = .ok a →
      Tree.parse modifiers source = .ok t →
        (a.levels ≤ 61 → t.anchored.levels [] ≤ nestLimit) ∧
        (t.anchored.levels [] ≤ nestLimit →
          Tree.parse .none t.anchored.print = .ok (t.anchored.reread 0 []) ∧
          if (t.anchored.reread 0 []).fits then ∃ p, compile source modifiers = .ok p
          else compile source modifiers = .error .tooLarge) ∧
        (nestLimit < t.anchored.levels [] → ∃ span, compile source modifiers =
          .error (.unprintable ⟨t.anchored.print, span, .nestLimitExceeded⟩)) := by
  refine ⟨fun e => compile_unreadable, ?_⟩
  intro a t read parsed
  have again := parse_print_iff (anchored_written (parse_written parsed))
  refine ⟨?_, ?_, ?_⟩
  · intro shallow
    obtain ⟨b, flags, same, lowered⟩ := parse_lowered.mp parsed
    rw [read] at same
    cases same
    exact anchored_levels lowered shallow
  · intro few
    rw [if_pos few] at again
    have made := compile_reread parsed again
    refine ⟨again, ?_⟩
    split at made
    · rename_i fits
      obtain ⟨p, compiled, _⟩ := made
      rw [if_pos fits]
      exact ⟨p, compiled⟩
    · rename_i large
      rw [if_neg large]
      exact made
  · intro many
    rw [if_neg (by omega)] at again
    obtain ⟨span, failed⟩ := again
    exact ⟨span, compile_unprintable parsed failed⟩

theorem evaluated {ε α β : Type} {x : Except ε α} {f : α → β} {b : β}
    (value : x.toOption.map f = some b) : ∃ a, x = .ok a ∧ f a = b := by
  cases x with
  | error e => cases value
  | ok a => exact ⟨a, rfl, Option.some.inj value⟩

theorem shallow_source_compiles :
    (∃ p, compile "(a|bc)*d".toList .none = .ok p) ∧
      (∃ e, compile "(a".toList .none = .error (.unreadable e)) ∧
      ∃ e, compile (List.replicate 249 '(' ++ List.replicate 249 ')') .none =
        .error (.unprintable e) := by
  refine ⟨?_, ?_, ?_⟩
  · have shallow : (Ast.parse false "(a|bc)*d".toList).toOption.map Ast.levels = some 5 := by
      decide +kernel
    have fits : (Tree.parse .none "(a|bc)*d".toList).toOption.map
        (fun t => (t.anchored.reread 0 []).fits) = some true := by decide +kernel
    obtain ⟨a, read, levels⟩ := evaluated shallow
    obtain ⟨t, parsed, small⟩ := evaluated fits
    obtain ⟨few, compiled, _⟩ := (compile_outcome _ .none).2 a t read parsed
    obtain ⟨_, made⟩ := compiled (few (by rw [levels]; decide))
    rw [if_pos small] at made
    exact made
  · have unclosed : (Tree.parse .none "(a".toList).toOption.isSome = false := by decide +kernel
    cases parsed : Tree.parse .none "(a".toList with
    | error e => exact ⟨e, ((compile_outcome _ .none).1 e).mpr parsed⟩
    | ok t =>
      rw [parsed] at unclosed
      cases unclosed
  · have shape : (Ast.parse false (List.replicate 249 '(' ++ List.replicate 249 ')')).toOption.map
        Ast.levels = some 249 := by decide +kernel
    have deep : (Tree.parse .none (List.replicate 249 '(' ++ List.replicate 249 ')')).toOption.map
        (fun t => t.anchored.levels []) = some 252 := by decide +kernel
    obtain ⟨a, read, _⟩ := evaluated shape
    obtain ⟨t, parsed, levels⟩ := evaluated deep
    obtain ⟨_, _, refused⟩ := (compile_outcome _ .none).2 a t read parsed
    obtain ⟨span, failed⟩ := refused (by rw [levels]; decide)
    exact ⟨_, failed⟩

/-- A codepoint under as many stars as there may be: written out, it stands in a group behind the
anchor. -/
theorem deepest_source_refused :
    ∃ t, Tree.parse .none ('a' :: List.replicate 249 '*') = .ok t ∧
      ∃ span, compile ('a' :: List.replicate 249 '*') .none =
        .error (.unprintable ⟨t.anchored.print, span, .nestLimitExceeded⟩) := by
  have deep : (Tree.parse .none ('a' :: List.replicate 249 '*')).toOption.map
      (fun t => t.anchored.levels []) = some 251 := by decide +kernel
  obtain ⟨t, parsed, levels⟩ := evaluated deep
  have again := parse_print_iff (anchored_written (parse_written parsed))
  rw [levels, if_neg (by decide)] at again
  obtain ⟨span, failed⟩ := again
  exact ⟨t, parsed, span, compile_unprintable parsed failed⟩

end TextCursor.Pattern
