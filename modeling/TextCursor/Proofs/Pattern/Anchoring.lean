import TextCursor.Proofs.Pattern.Invariant
import TextCursor.Proofs.Pattern.Printed
import TextCursor.Pattern.Compile
/-!
Anchoring cannot be escaped. The assertion at the start of an anchored tree is still there when the
tree has been written out and read again, in front of all else. In the program of such a tree every
way leads through it, so every match begins where the text does.
-/
namespace TextCursor.Pattern

def Tree.Anchored (t : Tree) : Prop :=
  t = .look .start ∨ ∃ rest, t = .concat (.look .start :: rest)

namespace Tree

theorem concatenation_start (ts : List Tree) :
    (concatenation (look .start :: ts)).Anchored := by
  have split : joinLiterals ((look .start :: ts).flatMap asParts) =
      look .start :: joinLiterals (ts.flatMap asParts) := by
    simp [asParts, joinLiterals]
  unfold concatenation
  rw [split]
  cases joinLiterals (ts.flatMap asParts) with
  | nil => exact Or.inl rfl
  | cons t rest => exact Or.inr ⟨t :: rest, rfl⟩

theorem anchored_anchored (t : Tree) : t.anchored.Anchored := concatenation_start [t]

theorem reread_anchored {t : Tree} (h : t.Anchored) (n : Nat) : (t.reread n []).Anchored := by
  rcases h with rfl | ⟨rest, rfl⟩
  · exact Or.inl rfl
  · exact concatenation_start (rereadAll (n + 0) rest)

end Tree

theorem Tree.anchored_captures (t : Tree) : t.anchored.captures = t.captures := by
  simp [anchored, concatenation_captures, capturesAll, captures]

theorem anchored_written {t : Tree} (h : t.Written) : t.anchored.Written := by
  refine ⟨Tree.concatenation_normal (by simpa [Tree.Normal] using h.normal), ?_⟩
  rw [t.anchored_captures]
  exact h.distinct

theorem mapError_ok {ε ε' α : Type} {x : Except ε α} {f : ε → ε'} {a : α}
    (h : x.mapError f = .ok a) : x = .ok a := by
  cases x <;> cases h
  rfl

theorem compiles (source : Text) (modifiers : Modifiers)
    (ok : (Program.compile source modifiers).toOption.isSome = true) :
    ∃ p, compile source modifiers = .ok p ∧ Program.compile source modifiers = .ok p.program := by
  unfold compile
  split
  · rename_i program compiled
    exact ⟨_, rfl, compiled⟩
  · rename_i e failed
    simp [failed, Except.toOption] at ok

theorem compiled_from (p : Pattern) : ∃ t, Tree.parse p.modifiers p.source = .ok t ∧ t.Written ∧
    Tree.parse .none t.anchored.print = .ok (t.anchored.reread 0 []) ∧
    p.program = .ofTree (t.anchored.reread 0 []) := by
  obtain ⟨t, parsed, compiled⟩ := bind_ok.mp p.compiled
  obtain ⟨r, reread, compiled⟩ := bind_ok.mp compiled
  have written := parse_written (mapError_ok parsed)
  have same := parse_print (anchored_written written) (mapError_ok reread)
  subst same
  refine ⟨t, mapError_ok parsed, written, mapError_ok reread, ?_⟩
  unfold Program.ofTree? at compiled
  split at compiled
  · exact (Except.ok.inj compiled).symm
  · cases compiled

theorem parse_numbers {modifiers : Modifiers} {text : Text} {t : Tree}
    (h : Tree.parse modifiers text = .ok t) :
    ∃ n, (t.captures.map (·.1)).Sublist (List.range' 1 n) := by
  obtain ⟨a, flags, read, lowered⟩ := parse_lowered.mp h
  obtain ⟨sound, ⟨n, numbered⟩, _⟩ := Ast.parse_read read
  obtain ⟨_, fewer⟩ := lower_normal a sound lowered
  exact ⟨n, numbered ▸ fewer.map _⟩

theorem parse_captures {modifiers : Modifiers} {text : Text} {t : Tree}
    (h : Tree.parse modifiers text = .ok t) : ∀ group ∈ t.captures, 1 ≤ group.1 := by
  obtain ⟨n, numbered⟩ := parse_numbers h
  intro group mem
  have : group.1 ∈ List.range' 1 n := numbered.subset (List.mem_map_of_mem mem)
  rw [List.mem_range'_1] at this
  omega

/-- The program of an anchored tree: the last two instructions note the start of the match and look
for the start of the text, and the first two accept and note the end. -/
structure AnchoredCode (p : Program) : Prop where
  accept : p.code[0]? = some .accept
  last : p.code[1]? = some (.save 1 0)
  body : ∃ anchor, 2 ≤ anchor ∧ anchor < p.entry ∧ p.code[p.entry]? = some (.save 0 anchor) ∧
    ∃ next, p.code[anchor]? = some (.look .start next)
  inner : ∀ i instr, 2 ≤ i → i ≠ p.entry → p.code[i]? = some instr →
    instr.Targets (fun n => 1 ≤ n ∧ n < p.entry) ∧ instr.Harmless (2 ≤ ·)

theorem AnchoredCode.instr_cases {p : Program} (code : AnchoredCode p) {n : Nat} {i : Instr}
    (found : p.code[n]? = some i) :
    (n = 0 ∧ i = .accept) ∨ (n = 1 ∧ i = .save 1 0) ∨ (∃ anchor, 2 ≤ anchor ∧ i = .save 0 anchor) ∨
      (i.Targets (1 ≤ ·) ∧ i.Harmless (2 ≤ ·)) := by
  obtain ⟨anchor, low, high, saved, _⟩ := code.body
  have cases : n = 0 ∨ n = 1 ∨ n = p.entry ∨ (2 ≤ n ∧ n ≠ p.entry) := by omega
  rcases cases with rfl | rfl | rfl | ⟨behind, other⟩
  · rw [code.accept] at found
    exact Or.inl ⟨rfl, (Option.some.inj found).symm⟩
  · rw [code.last] at found
    exact Or.inr (Or.inl ⟨rfl, (Option.some.inj found).symm⟩)
  · rw [saved] at found
    exact Or.inr (Or.inr (Or.inl ⟨anchor, low, (Option.some.inj found).symm⟩))
  · obtain ⟨targets, harmless⟩ := code.inner n i behind other found
    exact Or.inr (Or.inr (Or.inr ⟨targets.mono fun _ => And.left, harmless⟩))

theorem AnchoredCode.accepts {p : Program} (code : AnchoredCode p) {n : Nat}
    (accepts : p.code[n]? = some .accept) : n = 0 := by
  rcases code.instr_cases accepts with ⟨zero, _⟩ | ⟨_, same⟩ | ⟨_, _, same⟩ | ⟨_, harmless⟩
  · exact zero
  · cases same
  · cases same
  · exact harmless.elim

theorem anchored_emit {t : Tree} (h : t.Anchored) (next : Nat) (code : Code) :
    ∃ behind, (t.emit next code).2[(t.emit next code).1]? = some (.look .start behind) ∧
      code.size ≤ (t.emit next code).1 := by
  rcases h with rfl | ⟨rest, rfl⟩
  · exact ⟨next, by simp [Tree.emit, push], Nat.le_refl _⟩
  · refine ⟨(Tree.emitAll rest next code).1, ?_, ?_⟩
    · simp [Tree.emit, Tree.emitAll, push]
    · have grown : Grown (· = next) (fun _ => True) code (Tree.emitAll rest next code) :=
        emitAll_grown rest (fun _ _ => trivial) next code
      exact grown.size

theorem anchored_code {t : Tree} (anchored : t.Anchored)
    (positive : ∀ group ∈ t.captures, 1 ≤ group.1) : AnchoredCode (.ofTree t) := by
  have own : ∀ s, groupSlots t.captures s → 2 ≤ s := by
    rintro s ⟨group, mem, same⟩
    have := positive group mem
    omega
  obtain ⟨e, made⟩ : ∃ e, e = t.emit 1 #[.accept, .save 1 0] := ⟨_, rfl⟩
  have grown : Grown (· = 1) (2 ≤ ·) #[.accept, .save 1 0] e := made ▸ emit_grown t own 1 _
  have code : (Program.ofTree t).code = e.2.push (.save 0 e.1) := by rw [made]; rfl
  have entry : (Program.ofTree t).entry = e.2.size := by rw [made]; rfl
  obtain ⟨behind, start, after⟩ := anchored_emit anchored 1 #[.accept, .save 1 0]
  rw [← made] at start after
  have size := grown.size
  simp only [List.size_toArray, List.length_cons, List.length_nil] at size after
  have low (i : Nat) (inside : i < e.2.size) : (e.2.push (.save 0 e.1))[i]? = e.2[i]? := by
    rw [Array.getElem?_push, if_neg (by omega)]
  have anchor : e.1 < e.2.size := by
    rw [Array.getElem?_eq_some_iff] at start
    exact start.1
  refine ⟨?_, ?_, ⟨e.1, after, by omega, ?_, behind, ?_⟩, ?_⟩
  · rw [code, low 0 (by omega), grown.kept 0 (by simp)]
    rfl
  · rw [code, low 1 (by omega), grown.kept 1 (by simp)]
    rfl
  · rw [code, entry, Array.getElem?_push, if_pos rfl]
  · rw [code, low e.1 anchor, start]
  · intro i instr first other found
    rw [code, Array.getElem?_push, if_neg (by omega)] at found
    refine ⟨?_, grown.harmless i instr first found⟩
    refine (grown.targets i instr first found).mono ?_
    rintro n (rfl | ⟨from?, to?⟩)
    · omega
    · simp only [List.size_toArray, List.length_cons, List.length_nil] at from?
      omega

/-- Where the threads of an anchored program can be: at one of the two instructions of the start, or
behind them, having begun at the start of the text. -/
inductive OnTheWay (p : Program) (text : Array Char) (t : Thread) : Prop where
  | entering (entry : t.pc = p.entry) (inside : t.place ≤ text.size) (slots : t.slots = [])
  | looking (entry : p.code[p.entry]? = some (.save 0 t.pc)) (inside : t.place ≤ text.size)
      (slots : t.slots = [(0, t.place)])
  | begun (behind : t.pc < p.entry) (start : t.slots.get? 0 = some 0)
      (stop : t.pc = 0 → ∃ place, t.slots.get? 1 = some place)

theorem charBefore_none {text : Array Char} {place : Nat} (inside : place ≤ text.size)
    (h : charBefore text place = none) : place = 0 := by
  unfold charBefore at h
  split at h
  · assumption
  · rw [Array.getElem?_eq_none_iff] at h
    omega

theorem onTheWay_step {p : Program} {text : Array Char} (code : AnchoredCode p) (t : Thread)
    (i : Instr) (u : Thread) (h : OnTheWay p text t) (moves : t.Moves p.code text i u) :
    OnTheWay p text u := by
  obtain ⟨anchor, low, high, saved, next, looks⟩ := code.body
  cases h with
  | entering entry inside slots =>
    have found := moves.found
    rw [entry, saved] at found
    cases found
    have stays : u.place = t.place := moves.stays (by simp) (by simp)
    have target : anchor = u.pc := moves.target (anchor = ·) rfl
    have noted := moves.noted 0 anchor rfl
    refine .looking (target ▸ saved) (by omega) ?_
    rw [noted, slots, stays]
  | looking entry inside slots =>
    rw [saved] at entry
    cases entry
    have found := moves.found
    rw [looks] at found
    cases found
    -- the assertion lets nothing through but the start of the text
    have starts : charBefore text t.place = none := by
      simpa [Look.holds] using moves.looked .start next rfl
    have zero := charBefore_none inside starts
    have kept := moves.kept (by simp)
    obtain ⟨targets, _⟩ := code.inner t.pc _ low (by omega) looks
    obtain ⟨above, below⟩ := moves.target _ targets
    refine .begun below ?_ (by omega)
    rw [kept, slots, zero]
    rfl
  | begun behind start stop =>
    have found := moves.found
    have cases : t.pc = 0 ∨ t.pc = 1 ∨ 2 ≤ t.pc := by omega
    rcases cases with accepting | closing | inner
    · rw [accepting, code.accept] at found
      cases found
      exact (moves.target (fun _ => False) trivial).elim
    · rw [closing, code.last] at found
      cases found
      have noted := moves.noted 1 0 rfl
      have target : 0 = u.pc := moves.target (0 = ·) rfl
      refine .begun (by omega) ?_ fun _ => ⟨t.place, ?_⟩
      · rw [noted, get?_cons, if_neg (by decide)]
        exact start
      · rw [noted, get?_cons, if_pos rfl]
    · obtain ⟨targets, harmless⟩ := code.inner t.pc i inner (by omega) found
      obtain ⟨above, below⟩ := moves.target _ targets
      refine .begun below ?_ (by omega)
      by_cases save : ∃ slot next, i = .save slot next
      · obtain ⟨slot, next, rfl⟩ := save
        have other : 2 ≤ slot := harmless
        rw [moves.noted slot next rfl, get?_cons, if_neg (by omega)]
        exact start
      · rw [moves.kept fun slot next same => save ⟨slot, next, same⟩]
        exact start

theorem anchored_find {p : Program} (code : AnchoredCode p) (named : p.names ≠ []) {text : Text}
    {spans : List (Option CharSpan)} (found : p.find? text = some spans) :
    ∃ stop, spans.head? = some (some ⟨0, stop⟩) := by
  obtain ⟨slots, search, made⟩ := Option.map_eq_some_iff.mp found
  obtain ⟨t, reached, accepts, same⟩ := searchFrom_accepts (onTheWay_step code) (by
    intro place mem
    have : place < text.length + 1 := List.mem_range.mp mem
    exact OnTheWay.entering rfl (by simp only [List.size_toArray]; omega) rfl) search
  obtain ⟨anchor, low, high, saved, next, looks⟩ := code.body
  have accepting := code.accepts accepts
  obtain ⟨start, stop, ended⟩ : slots.get? 0 = some 0 ∧ ∃ stop, slots.get? 1 = some stop := by
    cases reached with
    | entering entry inside slots => omega
    | looking entry inside slots =>
      rw [saved] at entry
      cases entry
      omega
    | begun behind start stop =>
      rw [← same]
      exact ⟨start, stop accepting⟩
  obtain ⟨name, others, names⟩ := List.exists_cons_of_ne_nil named
  refine ⟨stop, ?_⟩
  rw [← made, names, List.length_cons, List.range_succ_eq_map]
  simp [Slots.group?, start, ended]

theorem anchored_program (p : Pattern) : AnchoredCode p.program := by
  obtain ⟨t, _, _, reread, program⟩ := compiled_from p
  rw [program]
  exact anchored_code (Tree.reread_anchored (Tree.anchored_anchored t) 0) (parse_captures reread)

theorem find?_start (p : Pattern) {text : Text} {spans : List (Option CharSpan)}
    (found : p.find? text = some spans) : ∃ stop, spans.head? = some (some ⟨0, stop⟩) := by
  obtain ⟨_, _, _, _, program⟩ := compiled_from p
  have named : p.program.names ≠ [] := by
    rw [program]
    exact List.cons_ne_nil _ _
  exact anchored_find (anchored_program p) named found

end TextCursor.Pattern
