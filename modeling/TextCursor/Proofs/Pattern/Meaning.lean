import TextCursor.Proofs.Pattern.Direct
import TextCursor.Proofs.Pattern.Exact
/-!
What compiling by way of text does to the meaning of a pattern. A compiled pattern matches as the tree
does that the tree of its source is read back as. If the tree of the source is faithful, that is the
same tree but for marks and numbers that no match depends on, and so the pattern means what its source
says; if it is not, another tree takes its place.
-/
namespace TextCursor.Pattern

namespace Tree

theorem asParts_concatenation {ts : List Tree} (all : ∀ t ∈ ts, t.Normal) :
    (concatenation ts).asParts = joinLiterals (ts.flatMap asParts) := by
  have parts : ∀ p ∈ ts.flatMap asParts, p.Normal ∧ p.asParts = [p] := by
    intro p mem
    obtain ⟨t, given, part⟩ := List.mem_flatMap.mp mem
    exact asParts_normal (all t given) p part
  obtain ⟨flat, _⟩ := joinLiterals_normal _ parts
  unfold concatenation
  cases same : joinLiterals (ts.flatMap asParts) with
  | nil => rfl
  | cons t rest =>
    rw [same] at flat
    cases rest with
    | nil => exact (flat t List.mem_cons_self).2
    | cons u rest => rfl

theorem anchored_concatenation {ts : List Tree} (all : ∀ t ∈ ts, t.Normal) :
    (concatenation ts).anchored = concatenation (look .start :: ts) := by
  have parts : ∀ p ∈ ts.flatMap asParts, p.Normal ∧ p.asParts = [p] := by
    intro p mem
    obtain ⟨t, given, part⟩ := List.mem_flatMap.mp mem
    exact asParts_normal (all t given) p part
  have once := joinLiterals_eq (joinLiterals_normal _ parts).2
  have left : [look .start, concatenation ts].flatMap asParts =
      look .start :: joinLiterals (ts.flatMap asParts) := by
    rw [← asParts_concatenation all, List.flatMap_cons, List.flatMap_cons, List.flatMap_nil,
      List.append_nil]
    rfl
  have right : (look .start :: ts).flatMap asParts = look .start :: ts.flatMap asParts := rfl
  unfold anchored
  rw [concatenation, left, concatenation, right]
  simp only [joinLiterals, once]

/-- The anchor stays in front of what a tree is read back as. -/
theorem reread_anchor {t : Tree} (normal : t.Normal) :
    t.anchored.reread 0 [] = (t.reread 0 []).anchored := by
  rw [anchored_eq normal]
  cases t with
  | empty => rfl
  | concat parts => exact (anchored_concatenation (rereadAll_normal parts normal.2 0)).symm
  | _ => rfl

end Tree

def whole? (p : Pattern) (text : Text) : Option CharSpan := (p.find? text).bind (·.head?.join)

/-- The pattern matches where the tree itself matches at the start of the text, with the same end. -/
def MatchesAs (p : Pattern) (t : Tree) : Prop :=
  ∀ text, p.isMatch text = (t.matchEnd? text).isSome ∧
    p.whole? text = (t.matchEnd? text).map (CharSpan.mk 0)

theorem matchesAs_of_search {p : Pattern} {t : Tree}
    (same : ∀ text : Text, (searchFrom p.program text.toArray {}
      (List.range (text.length + 1))).bind (·.get? 1) = t.matchEnd? text) : p.MatchesAs t := by
  intro text
  have isMatch : p.isMatch text = (p.find? text).isSome := rfl
  have search : p.find? text =
      (searchFrom p.program text.toArray {} (List.range (text.length + 1))).map fun slots =>
        (List.range p.program.names.length).map slots.group? := rfl
  rw [← same text]
  cases found : searchFrom p.program text.toArray {} (List.range (text.length + 1)) with
  | none =>
    rw [found] at search
    simp [isMatch, whole?, search]
  | some slots =>
    rw [found] at search
    obtain ⟨stop, head⟩ := find?_start p search
    have last := (group?_some (head_groups head)).2
    simp [isMatch, whole?, search, head, last]

theorem matchesAs_reread {p : Pattern} {t : Tree} (normal : t.Normal)
    (program : p.program = .ofTree (t.anchored.reread 0 [])) : p.MatchesAs (t.reread 0 []) := by
  refine matchesAs_of_search fun text => ?_
  rw [program, Tree.reread_anchor normal,
    anchored_search (Tree.reread_normal t normal 0 [] (by simp))]
  rfl

theorem ofTree_renumbered {t : Tree} (positive : ∀ group ∈ t.captures, 1 ≤ group.1) (n : Nat) :
    Code.Alike (Program.ofTree (t.settled.renumbered n)).code (Program.ofTree t).code ∧
      (Program.ofTree (t.settled.renumbered n)).entry = (Program.ofTree t).entry := by
  obtain ⟨code, entry⟩ := ofTree_code (t.settled.renumbered n)
  obtain ⟨code', entry'⟩ := ofTree_code t
  have inner : Emitted.Alike (t.settled.renumbered n).inner t.settled.inner :=
    Tree.emit_renumbered t.settled (by rwa [Tree.settled_captures]) n 1 rfl
  have settled : t.settled.inner = t.inner := Tree.emit_settled t 1 _
  rw [settled] at inner
  rw [code, entry, code', entry', inner.entry]
  exact ⟨(push_alike rfl inner.code).code, inner.code.size⟩

theorem matchEnd?_renumbered {t : Tree} (positive : ∀ group ∈ t.captures, 1 ≤ group.1) (n : Nat)
    (text : Text) : (t.settled.renumbered n).matchEnd? text = t.matchEnd? text := by
  obtain ⟨alike, entry⟩ := ofTree_renumbered positive n
  have fuel : exploreFuel (Program.ofTree (t.settled.renumbered n)).code text.toArray =
      exploreFuel (Program.ofTree t).code text.toArray := by
    simp only [exploreFuel, alike.size]
  have start : SameWhole ⟨(Program.ofTree (t.settled.renumbered n)).entry, 0, []⟩
      ⟨(Program.ofTree t).entry, 0, []⟩ :=
    ⟨entry, rfl, fun _ _ => rfl⟩
  have fresh : VisitedAlike (Program.ofTree (t.settled.renumbered n)).code (Program.ofTree t).code
      SameWhole {} {} := by
    intro u u' _
    simp
  unfold Tree.matchEnd? Tree.matchSlots?
  rw [fuel]
  rcases (explore_simulates (alike_simulates alike text.toArray)
    (exploreFuel (Program.ofTree t).code text.toArray) fresh (.cons start .nil)).1 with
    ⟨none, none'⟩ | ⟨u, u', related, found, found'⟩
  · rw [none, none']
  · rw [found, found']
    exact related.slots 1 (by decide)

theorem compile_source {source : Text} {modifiers : Modifiers} {p : Pattern}
    (compiled : compile source modifiers = .ok p) : p.source = source ∧ p.modifiers = modifiers := by
  unfold compile at compiled
  split at compiled
  · cases compiled
    exact ⟨rfl, rfl⟩
  · cases compiled

/-- A compiled pattern matches as the tree does that the tree of its source is read back as. That is
the same tree, but for marks of fixed counts and numbers of groups, exactly if the tree is faithful,
and then the pattern matches as the tree of its source. -/
theorem compiled_meaning (source : Text) (modifiers : Modifiers) (p : Pattern)
    (compiled : compile source modifiers = .ok p) :
    ∃ t, Tree.parse modifiers source = .ok t ∧ p.MatchesAs (t.reread 0 []) ∧
      (t.faithful = true ↔ t.reread 0 [] = t.settled.renumbered 0) ∧
      (t.faithful = true → p.MatchesAs t) := by
  obtain ⟨rfl, rfl⟩ := compile_source compiled
  obtain ⟨t, parsed, written, _, program⟩ := compiled_from p
  obtain ⟨n, numbered⟩ := parse_numbers parsed
  have matched := matchesAs_reread written.normal program
  have exact := Tree.faithful_iff written.normal (numbered.nodup List.nodup_range') 0
  refine ⟨t, parsed, matched, exact, fun faithful => ?_⟩
  intro text
  rw [← matchEnd?_renumbered (parse_captures parsed) 0, ← exact.mp faithful]
  exact matched text

theorem lazy_option_keeps_meaning :
    ∃ p t, compile "(a+?)?b\x7b2\x7d|c".toList .none = .ok p ∧
      Tree.parse .none "(a+?)?b\x7b2\x7d|c".toList = .ok t ∧ t.faithful = true ∧ p.MatchesAs t ∧
      p.whole? "aabb".toList = some ⟨0, 4⟩ := by
  obtain ⟨p, compiled, program⟩ := compiles "(a+?)?b\x7b2\x7d|c".toList .none (by decide +kernel)
  obtain ⟨t, parsed, _, _, keeps⟩ := compiled_meaning _ _ p compiled
  have faithful : (Tree.parse .none "(a+?)?b\x7b2\x7d|c".toList).toOption.map Tree.faithful =
      some true := by decide +kernel
  have run : (Program.compile "(a+?)?b\x7b2\x7d|c".toList .none).toOption.map
      (fun q => (q.find? "aabb".toList).bind (·.head?.join)) = some (some ⟨0, 4⟩) := by
    decide +kernel
  rw [parsed] at faithful
  rw [program] at run
  exact ⟨p, t, compiled, parsed, Option.some.inj faithful, keeps (Option.some.inj faithful),
    Option.some.inj run⟩

theorem not_matchesAs (source : Text) (modifiers : Modifiers) (text : Text)
    (ok : (Program.compile source modifiers).toOption.isSome = true)
    (differ : (Program.compile source modifiers).toOption.map
        (fun q => (q.find? text).bind (·.head?.join)) ≠
      (Tree.parse modifiers source).toOption.map
        fun t => (t.matchEnd? text).map (CharSpan.mk 0)) :
    ∃ p t, compile source modifiers = .ok p ∧ Tree.parse modifiers source = .ok t ∧
      ¬ p.MatchesAs t := by
  obtain ⟨p, compiled, program⟩ := compiles source modifiers ok
  obtain ⟨t, parsed, _⟩ := bind_ok.mp program
  refine ⟨p, t, compiled, mapError_ok parsed, fun same => differ ?_⟩
  rw [program, mapError_ok parsed]
  exact congrArg some (same text).2

/-- Written as text, the sign of an option becomes the mark of the repetition inside, and branches
that only differ in a mark that is not written are read as beginning alike. -/
theorem text_changes_meaning :
    (∃ p t, compile "(?:a+)?".toList .none = .ok p ∧ Tree.parse .none "(?:a+)?".toList = .ok t ∧
      ¬ p.MatchesAs t) ∧
    ∃ p t, compile "(?:a?)\x7b2\x7dac|(?:a?)\x7b2\x7d?z?".toList .none = .ok p ∧
      Tree.parse .none "(?:a?)\x7b2\x7dac|(?:a?)\x7b2\x7d?z?".toList = .ok t ∧
      ¬ p.MatchesAs t := by
  constructor
  · exact not_matchesAs _ .none [] (by decide +kernel) (by decide +kernel)
  · exact not_matchesAs _ .none "aac".toList (by decide +kernel) (by decide +kernel)

end TextCursor.Pattern
