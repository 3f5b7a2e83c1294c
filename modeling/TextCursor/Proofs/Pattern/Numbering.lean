import TextCursor.Proofs.Outcome
import TextCursor.Proofs.Pattern.Groups
/-!
Which groups a pattern reports. Those of its program are numbered from one without gaps, so they are
found by number where the program noted them, and a name finds the one group that has it. They are the
kept groups of the source; only if the source has no others, each has the number that it has there.
-/
namespace TextCursor

theorem MatchOutcome.named?_eq {m : MatchOutcome} {k : Nat} {name : Text}
    (here : m.names[k]? = some (some name))
    (once : ∀ j, m.names[j]? = some (some name) → j = k) : m.named? name = m.get? k := by
  obtain ⟨inside, same⟩ := List.getElem?_eq_some_iff.mp here
  have found : m.names.findIdx? (· == some name) = some k := by
    rw [List.findIdx?_eq_some_iff_getElem]
    refine ⟨inside, by simp [same], ?_⟩
    intro j before
    have other : m.names[j] ≠ some name := by
      intro again
      have := once j (List.getElem?_eq_some_iff.mpr ⟨by omega, again⟩)
      omega
    simpa using other
  rw [named?, found, Option.bind_some]

namespace Pattern

section
variable {groups : List (Nat × Option Text)}
  (numbered : groups.map (·.1) = List.range' 1 groups.length)
include numbered

theorem number_getElem? {i : Nat} {g : Nat × Option Text} (found : groups[i]? = some g) :
    g.1 = i + 1 := by
  have number : (groups.map (·.1))[i]? = some g.1 := by simp [found]
  rw [numbered] at number
  obtain ⟨_, same⟩ := List.getElem?_eq_some_iff.mp number
  rw [List.getElem_range'] at same
  omega

theorem last_number : groups.foldl (fun n p => max n p.1) 0 = groups.length := by
  have numbers : groups.foldl (fun n p => max n p.1) 0 =
      (List.range' 1 groups.length).foldl max 0 := by
    rw [← numbered, List.foldl_map]
  rw [numbers]
  generalize groups.length = n
  induction n with
  | zero => rfl
  | succ n ih =>
    rw [List.range'_concat, List.foldl_append, ih, List.foldl_cons, List.foldl_nil]
    omega

theorem find?_number {i : Nat} (inside : i < groups.length) :
    groups.find? (fun p => p.1 = i + 1) = some groups[i] := by
  rw [List.find?_eq_some_iff_getElem]
  have here := number_getElem? numbered (List.getElem?_eq_getElem inside)
  refine ⟨by simp [here], i, inside, rfl, ?_⟩
  intro j before
  have there := number_getElem? numbered (List.getElem?_eq_getElem (Nat.lt_trans before inside))
  simp only [there, Bool.not_eq_true', decide_eq_false_iff_not]
  omega

end

theorem groupNames_numbered {t : Tree}
    (numbered : t.captures.map (·.1) = List.range' 1 t.captures.length) :
    t.groupNames = none :: t.captures.map (·.2) := by
  unfold Tree.groupNames Tree.lastGroup
  rw [last_number numbered, List.cons.injEq]
  refine ⟨rfl, ?_⟩
  apply List.ext_getElem
  · simp
  · intro i first second
    have inside : i < t.captures.length := by simpa using first
    simp [find?_number numbered inside]

theorem same_group {groups : List (Nat × Option Text)}
    (distinct : (groups.filterMap (·.2)).Nodup) {i j : Nat} {g h : Nat × Option Text}
    {name : Text} (first : groups[i]? = some g) (second : groups[j]? = some h)
    (named : g.2 = some name) (named' : h.2 = some name) : i = j := by
  have apart := List.pairwise_filterMap.mp distinct
  rw [List.pairwise_iff_getElem] at apart
  obtain ⟨inside, rfl⟩ := List.getElem?_eq_some_iff.mp first
  obtain ⟨inside', rfl⟩ := List.getElem?_eq_some_iff.mp second
  rcases Nat.lt_trichotomy i j with before | same | behind
  · exact absurd rfl (apart i j inside inside' before name named name named')
  · exact same
  · exact absurd rfl (apart j i inside' inside behind name named' name named)

/-- Every match of the pattern reports each group of the tree where the tree notes it at the start of
the text, by its number, and by its name if it has one. -/
def ReportsGroups (p : Pattern) (t : Tree) : Prop :=
  ∀ (buffer : Text) (start : Nat) (capture : CaptureMode) (m : MatchOutcome),
    p.matchAt? buffer start capture = some m →
      ∃ slots, t.matchSlots? (buffer.dropBytes start) = some slots ∧
        ∀ g ∈ t.captures,
          m.get? g.1 = (slots.group? g.1).map (groupAt buffer start capture) ∧
            ∀ name, g.2 = some name → m.named? name = m.get? g.1

theorem reportsGroups_of_search {p : Pattern} {t : Tree}
    (same : ∀ text : Text, searchFrom p.program text.toArray {} (List.range (text.length + 1)) =
      t.matchSlots? text)
    (names : p.program.names = none :: t.captures.map (·.2))
    (numbered : t.captures.map (·.1) = List.range' 1 t.captures.length)
    (distinct : (t.captures.filterMap (·.2)).Nodup) : p.ReportsGroups t := by
  intro buffer start capture m found
  have search : p.find? (buffer.dropBytes start) =
      (searchFrom p.program (buffer.dropBytes start).toArray {}
        (List.range ((buffer.dropBytes start).length + 1))).map fun slots =>
          (List.range p.program.names.length).map slots.group? := rfl
  rw [same] at search
  cases noted : t.matchSlots? (buffer.dropBytes start) with
  | none =>
    rw [noted, Option.map_none] at search
    simp [matchAt?, search] at found
  | some slots =>
    rw [noted, Option.map_some] at search
    obtain ⟨stop, head⟩ := find?_start p search
    rw [matchAt?_spans search head] at found
    cases found
    refine ⟨slots, rfl, ?_⟩
    intro g mem
    obtain ⟨i, here⟩ := List.mem_iff_getElem?.mp mem
    have number := number_getElem? numbered here
    have inside : i < t.captures.length := (List.getElem?_eq_some_iff.mp here).1
    constructor
    · simp [MatchOutcome.get?, names, number, inside]
    · intro name named
      rw [number]
      apply MatchOutcome.named?_eq
      · simp [names, here, named]
      · intro j again
        rw [names] at again
        cases j with
        | zero => cases again
        | succ j =>
          obtain ⟨h, there, named'⟩ : ∃ h, t.captures[j]? = some h ∧ h.2 = some name := by
            simpa using again
          rw [same_group distinct there here named' named]

namespace Tree

mutual

theorem renumbered_same : (t : Tree) → ∀ n,
    t.captures.map (·.1) = List.range' (n + 1) t.captures.length → t.renumbered n = t
  | empty, _, _ => rfl
  | literal _, _, _ => rfl
  | codes _ _, _, _ => rfl
  | look _, _, _ => rfl
  | repetition _ _ sub, n, numbered => by rw [renumbered, renumbered_same sub n numbered]
  | capture index name sub, n, numbered => by
    simp only [captures, List.map_cons, List.length_cons, List.range'_succ,
      List.cons.injEq] at numbered
    obtain ⟨rfl, inner⟩ := numbered
    rw [renumbered, renumbered_same sub (n + 1) inner]
  | concat parts, n, numbered => by rw [renumbered, renumberedAll_same parts n numbered]
  | alternation branches, n, numbered => by
    rw [renumbered, renumberedAll_same branches n numbered]

theorem renumberedAll_same : (ts : List Tree) → ∀ n,
    (capturesAll ts).map (·.1) = List.range' (n + 1) (capturesAll ts).length →
      renumberedAll n ts = ts
  | [], _, _ => rfl
  | t :: rest, n, numbered => by
    have next : n + 1 + 1 * t.captures.length = n + t.captures.length + 1 := by omega
    rw [capturesAll, List.map_append, List.length_append, ← List.range'_append, next] at numbered
    obtain ⟨here, later⟩ := List.append_inj numbered (by simp)
    rw [renumberedAll, renumbered_same t n here, renumberedAll_same rest _ later]

end

theorem ofTree_settled (t : Tree) : Program.ofTree t.settled = Program.ofTree t := by
  have code : (capture 0 none t.settled).emit = (capture 0 none t).emit := by
    funext next code
    exact emit_settled (capture 0 none t) next code
  simp only [Program.ofTree, code, groupNames, lastGroup, settled_captures]

theorem matchSlots?_settled (t : Tree) (text : Text) :
    t.settled.matchSlots? text = t.matchSlots? text := by
  rw [matchSlots?, matchSlots?, ofTree_settled]

end Tree

mutual

theorem captured_labels : (a : Ast) → a.captured.map Captured.label = a.captures
  | .empty _ => rfl
  | .flags _ _ => rfl
  | .literal _ => rfl
  | .dot _ => rfl
  | .assertion _ _ => rfl
  | .property _ => rfl
  | .shorthand _ => rfl
  | .bracketed _ _ _ => rfl
  | .repetition _ _ _ sub => captured_labels sub
  | .group _ (.capture index name) sub => congrArg ((index, name) :: ·) (captured_labels sub)
  | .group _ (.plain _) sub => captured_labels sub
  | .alternation _ branches => capturedAll_labels branches
  | .concat _ parts => capturedAll_labels parts

theorem capturedAll_labels : (as : List Ast) →
    (Ast.capturedUnderAll (fun _ => true) as).map Captured.label = Ast.capturesAll as
  | [] => rfl
  | a :: rest => by
    have here : (a.capturedUnder fun _ => true).map Captured.label = a.captures :=
      captured_labels a
    rw [Ast.capturedUnderAll, Ast.capturesAll, List.map_append, here, capturedAll_labels rest]

end

mutual

theorem capturedUnder_sublist (kind : Count → Bool) : (a : Ast) →
    (a.capturedUnder kind).Sublist a.captured
  | .empty _ => List.Sublist.refl _
  | .flags _ _ => List.Sublist.refl _
  | .literal _ => List.Sublist.refl _
  | .dot _ => List.Sublist.refl _
  | .assertion _ _ => List.Sublist.refl _
  | .property _ => List.Sublist.refl _
  | .shorthand _ => List.Sublist.refl _
  | .bracketed _ _ _ => List.Sublist.refl _
  | .repetition _ count _ sub => by
    rw [Ast.capturedUnder]
    split
    · exact capturedUnder_sublist kind sub
    · exact List.nil_sublist _
  | .group _ g sub => (List.Sublist.refl (g.held sub)).append (capturedUnder_sublist kind sub)
  | .alternation _ branches => capturedUnderAll_sublist kind branches
  | .concat _ parts => capturedUnderAll_sublist kind parts

theorem capturedUnderAll_sublist (kind : Count → Bool) : (as : List Ast) →
    (Ast.capturedUnderAll kind as).Sublist (Ast.capturedUnderAll (fun _ => true) as)
  | [] => List.Sublist.refl _
  | a :: rest => (capturedUnder_sublist kind a).append (capturedUnderAll_sublist kind rest)

end

theorem kept_sublist (a : Ast) : a.kept.Sublist a.captured := capturedUnder_sublist _ a

structure Captured.ReadBack (source : Captured Ast) (group : Captured Tree) : Prop where
  name : group.name = source.name
  inside : ∃ flags t flags', source.inside.lower flags = .ok (t, flags') ∧
    group.inside = t.reread group.number []

theorem readBack_of_lowers {sources : List (Captured Ast)} {groups : List (Captured Tree)}
    (lowered : List.Forall₂ Captured.Lowers sources groups) (n : Nat) :
    List.Forall₂ Captured.ReadBack sources (groups.mapIdx (Tree.rereadGroup n)) := by
  induction lowered generalizing n with
  | nil => exact .nil
  | cons here _ ih =>
    have later : (fun i => Tree.rereadGroup n (i + 1)) = Tree.rereadGroup (n + 1) :=
      Tree.rereadGroup_add n 1
    rw [List.mapIdx_cons, later]
    obtain ⟨flags, flags', inside⟩ := here.inside
    exact .cons ⟨here.name, flags, _, flags', inside, rfl⟩ (ih (n + 1))

theorem captured_numbers {verbose : Bool} {text : Text} {a : Ast}
    (read : Ast.parse verbose text = .ok a) :
    a.captured.map (·.number) = List.range' 1 a.captured.length := by
  obtain ⟨_, ⟨n, numbered⟩, _⟩ := Ast.parse_read read
  have labels : a.captured.map (·.number) = a.captures.map (·.1) := by
    rw [← captured_labels, List.map_map]
    rfl
  have length : a.captured.length = n := by
    have := congrArg List.length (labels.trans numbered)
    simpa using this
  rw [labels, numbered, length]

theorem lowers_numbers {sources : List (Captured Ast)} {groups : List (Captured Tree)}
    (lowered : List.Forall₂ Captured.Lowers sources groups) :
    groups.map (·.number) = sources.map (·.number) := by
  induction lowered with
  | nil => rfl
  | cons here _ ih => rw [List.map_cons, List.map_cons, here.number, ih]

/-- What compiling a source does to its groups: the tree of the source has those that are kept; they
are numbered by rank and reported where the tree notes them that the tree of the source is read back
as. -/
structure GroupsFrom (p : Pattern) (a : Ast) (t : Tree) : Prop where
  count : p.groupCount = a.kept.length + 1
  lowered : List.Forall₂ Captured.Lowers a.kept t.captured
  origin : List.Forall₂ Captured.ReadBack a.kept (t.reread 0 []).captured
  ranks : (t.reread 0 []).captured.map (·.number) = List.range' 1 a.kept.length
  reports : p.ReportsGroups (t.reread 0 [])

theorem compiled_groups (p : Pattern) : ∃ a t,
    Ast.parse p.modifiers.ignoreWhitespace p.source = .ok a ∧
      Tree.parse p.modifiers p.source = .ok t ∧ p.GroupsFrom a t := by
  obtain ⟨t, parsed, written, again, program⟩ := compiled_from p
  obtain ⟨a, flags, read, lowered⟩ := parse_lowered.mp parsed
  obtain ⟨sound, ⟨n, numbered⟩, _⟩ := Ast.parse_read read
  have lowers := lower_captured a sound (numbered ▸ List.nodup_range') lowered
  have kept := Tree.reread_captured t written.normal 0 [] (by simp)
  have ranks : (t.reread 0 []).captured.map (·.number) = List.range' 1 a.kept.length := by
    rw [kept, Tree.rereadGroup_numbers, lowers.length_eq]
  have whole : (t.anchored.reread 0 []).captures = (t.reread 0 []).captures := by
    rw [Tree.reread_anchor written.normal, Tree.anchored_captures]
  have length : (t.reread 0 []).captures.length = a.kept.length := by
    rw [← Tree.captured_length, kept, List.length_mapIdx, lowers.length_eq]
  have numbers : (t.reread 0 []).captures.map (·.1) =
      List.range' 1 (t.reread 0 []).captures.length := by
    rw [length, ← ranks, ← Tree.captured_labels, List.map_map]
    rfl
  have names : p.program.names = none :: (t.reread 0 []).captures.map (·.2) := by
    rw [← whole, program]
    exact groupNames_numbered (by rw [whole, numbers])
  refine ⟨a, t, read, parsed, ?_, lowers, ?_, ranks, ?_⟩
  · rw [groupCount, names, List.length_cons, List.length_map, length]
  · rw [kept]
    exact readBack_of_lowers lowers 0
  · apply reportsGroups_of_search _ names numbers (whole ▸ (parse_written again).distinct)
    intro text
    rw [program, Tree.reread_anchor written.normal]
    exact anchored_search (Tree.reread_normal t written.normal 0 [] (by simp)) text

theorem GroupsFrom.reports_faithful {p : Pattern} {a : Ast} {t : Tree} (groups : p.GroupsFrom a t)
    (normal : t.Normal) (faithful : t.faithful = true)
    (numbered : a.kept.map (·.number) = List.range' 1 a.kept.length) : p.ReportsGroups t := by
  have numbers : t.captures.map (·.1) = List.range' 1 t.captures.length := by
    rw [← Tree.captured_length, ← groups.lowered.length_eq, ← numbered,
      ← lowers_numbers groups.lowered, ← Tree.captured_labels, List.map_map]
    rfl
  have settled : t.reread 0 [] = t.settled := by
    rw [Tree.reread_faithful t normal faithful 0 [] (by simp), Tree.under_nil]
    apply Tree.renumbered_same
    rw [Tree.settled_captures]
    exact numbers
  intro buffer start capture m found
  obtain ⟨slots, noted, here⟩ := groups.reports buffer start capture m found
  rw [settled, Tree.matchSlots?_settled] at noted
  rw [settled, Tree.settled_captures] at here
  exact ⟨slots, noted, here⟩

/-- A pattern reports as many groups as its source has just if no group of the source is under a
repetition of no rounds. Then each has the number that it has in the source, and if the tree of the
source is faithful it is reported where that tree notes it. -/
theorem groups_keep_numbers (source : Text) (modifiers : Modifiers) (p : Pattern)
    (compiled : compile source modifiers = .ok p) :
    ∃ a t, Ast.parse modifiers.ignoreWhitespace source = .ok a ∧
      Tree.parse modifiers source = .ok t ∧ p.GroupsFrom a t ∧
      a.captured.map (·.number) = List.range' 1 a.captured.length ∧
      (p.groupCount = a.captured.length + 1 ↔ a.kept = a.captured) ∧
      (a.kept = a.captured →
        (t.reread 0 []).captured.map (·.number) = a.captured.map (·.number) ∧
          (t.faithful = true → p.ReportsGroups t)) := by
  obtain ⟨rfl, rfl⟩ := compile_source compiled
  obtain ⟨a, t, read, parsed, groups⟩ := compiled_groups p
  have numbers := captured_numbers read
  refine ⟨a, t, read, parsed, groups, numbers, ?_, ?_⟩
  · rw [groups.count, Nat.add_right_cancel_iff]
    exact (kept_sublist a).length_eq
  · intro all
    constructor
    · rw [groups.ranks, all, numbers]
    · intro faithful
      exact groups.reports_faithful (parse_written parsed).normal faithful (all ▸ numbers)

theorem nested_groups_keep_numbers :
    ∃ p a t, compile "a(b(?P<_>c)?)\x7b2\x7d|a(d)".toList .none = .ok p ∧
      Ast.parse false "a(b(?P<_>c)?)\x7b2\x7d|a(d)".toList = .ok a ∧
      a.captured.map (·.number) = [1, 2, 3] ∧ p.groupCount = 4 ∧
      (t.reread 0 []).captured.map (·.number) = [1, 2, 3] ∧ p.ReportsGroups t := by
  obtain ⟨p, compiled, _⟩ := compiles "a(b(?P<_>c)?)\x7b2\x7d|a(d)".toList .none (by decide +kernel)
  obtain ⟨a, t, read, parsed, groups, _, count, keeps⟩ := groups_keep_numbers _ _ p compiled
  have written : (Ast.parse false "a(b(?P<_>c)?)\x7b2\x7d|a(d)".toList).toOption.map
      (fun a => (a.captured.map (·.number), a.kept.length)) = some ([1, 2, 3], 3) := by
    decide +kernel
  have faithful : (Tree.parse .none "a(b(?P<_>c)?)\x7b2\x7d|a(d)".toList).toOption.map
      Tree.faithful = some true := by decide +kernel
  have same : Ast.parse false "a(b(?P<_>c)?)\x7b2\x7d|a(d)".toList = .ok a := read
  rw [same] at written
  rw [parsed] at faithful
  obtain ⟨numbers, length⟩ := Prod.mk.inj (Option.some.inj written)
  have all : a.kept = a.captured := by
    apply (kept_sublist a).eq_of_length
    rw [length, ← List.length_map (·.number), numbers]
    rfl
  obtain ⟨kept, reports⟩ := keeps all
  refine ⟨p, a, t, compiled, same, numbers, ?_, ?_, reports (Option.some.inj faithful)⟩
  · rw [groups.count, length]
  · rw [kept, numbers]

/-- A group under a repetition of no rounds is lost, and the number of the next one is its. -/
theorem dropped_group_shifts_numbers :
    ∃ p a m, compile "(a)\x7b0\x7d(b)".toList .none = .ok p ∧
      Ast.parse false "(a)\x7b0\x7d(b)".toList = .ok a ∧ a.captured.map (·.number) = [1, 2] ∧
      p.groupCount = 2 ∧ p.matchAt? ['b'] 0 .text = some m ∧
      m.get? 1 = some ⟨⟨['b'], 0, 1⟩, none⟩ ∧ m.get? 2 = none := by
  obtain ⟨p, compiled, program⟩ := compiles "(a)\x7b0\x7d(b)".toList .none (by decide +kernel)
  obtain ⟨t, parsed, _⟩ := bind_ok.mp program
  obtain ⟨a, _, read, _⟩ := parse_lowered.mp (mapError_ok parsed)
  have same : Ast.parse false "(a)\x7b0\x7d(b)".toList = .ok a := read
  have written : (Ast.parse false "(a)\x7b0\x7d(b)".toList).toOption.map
      (fun a => a.captured.map (·.number)) = some [1, 2] := by decide +kernel
  have run : (Program.compile "(a)\x7b0\x7d(b)".toList .none).toOption.map
      (fun q => (q.names.length, q.find? ['b'])) = some (2, some [some ⟨0, 1⟩, some ⟨0, 1⟩]) := by
    decide +kernel
  rw [same] at written
  rw [program] at run
  obtain ⟨count, found⟩ := Prod.mk.inj (Option.some.inj run)
  have matched : p.matchAt? ['b'] 0 .text = _ := matchAt?_spans found rfl
  exact ⟨p, a, _, compiled, same, Option.some.inj written, count, matched, rfl, rfl⟩

end Pattern

end TextCursor
