import TextCursor.Pattern.Program
/-!
What emitting a tree does to a program. The code that is there stays as it is, and what is added
refers to itself and to the place it was emitted in front of, to nothing else; it notes places in the
slots of the tree's own capture groups, and accepts nowhere.
-/
namespace TextCursor.Pattern

def Instr.Targets (place : Nat → Prop) : Instr → Prop
  | char _ next => place next
  | codes _ next => place next
  | look _ next => place next
  | save _ next => place next
  | split first second => place first ∧ place second
  | fail => True
  | accept => True

def Instr.Harmless (slot : Nat → Prop) : Instr → Prop
  | save s _ => slot s
  | accept => False
  | _ => True

theorem Instr.Targets.mono {place place' : Nat → Prop} (weaker : ∀ n, place n → place' n)
    {i : Instr} (h : i.Targets place) : i.Targets place' := by
  cases i <;> first | exact weaker _ h | exact ⟨weaker _ h.1, weaker _ h.2⟩ | trivial

def Within (outside : Nat → Prop) (start stop n : Nat) : Prop :=
  outside n ∨ (start ≤ n ∧ n < stop)

/-- What was added to `code` refers to places outside or to itself. -/
structure Grown (outside slot : Nat → Prop) (code : Code) (e : Emitted) : Prop where
  size : code.size ≤ e.2.size
  kept : ∀ i, i < code.size → e.2[i]? = code[i]?
  entry : Within outside code.size e.2.size e.1
  targets : ∀ i instr, code.size ≤ i → e.2[i]? = some instr →
    instr.Targets (Within outside code.size e.2.size)
  harmless : ∀ i instr, code.size ≤ i → e.2[i]? = some instr → instr.Harmless slot

def Emits (slot : Nat → Prop) (body : Emitter) : Prop :=
  ∀ next code, Grown (· = next) slot code (body next code)

section

variable {outside outside' slot : Nat → Prop} {code : Code}

theorem Grown.unchanged {n : Nat} (h : outside n) : Grown outside slot code (n, code) where
  size := Nat.le_refl _
  kept := fun _ _ => rfl
  entry := Or.inl h
  targets := by
    intro i instr after found
    rw [Array.getElem?_eq_none after] at found
    cases found
  harmless := by
    intro i instr after found
    rw [Array.getElem?_eq_none after] at found
    cases found

theorem Grown.trans {e e' : Emitted} (h : Grown outside slot code e)
    (h' : Grown outside' slot e.2 e')
    (inner : ∀ n, outside' n → Within outside code.size e.2.size n) :
    Grown outside slot code e' := by
  have size := h.size
  have size' := h'.size
  have wider : ∀ n, Within outside code.size e.2.size n → Within outside code.size e'.2.size n := by
    rintro n (out | ⟨low, high⟩)
    · exact Or.inl out
    · exact Or.inr ⟨low, by omega⟩
  have deeper : ∀ n, Within outside' e.2.size e'.2.size n →
      Within outside code.size e'.2.size n := by
    rintro n (out | ⟨low, high⟩)
    · exact wider n (inner n out)
    · exact Or.inr ⟨by omega, high⟩
  refine ⟨by omega, ?_, deeper _ h'.entry, ?_, ?_⟩
  · intro i before
    rw [h'.kept i (by omega), h.kept i before]
  · intro i instr after found
    by_cases old : i < e.2.size
    · rw [h'.kept i old] at found
      exact (h.targets i instr after found).mono wider
    · exact (h'.targets i instr (by omega) found).mono deeper
  · intro i instr after found
    by_cases old : i < e.2.size
    · rw [h'.kept i old] at found
      exact h.harmless i instr after found
    · exact h'.harmless i instr (by omega) found

theorem push_added {i instr : Instr} {j : Nat} (after : code.size ≤ j)
    (found : (push i code).2[j]? = some instr) : instr = i := by
  simp only [push, Array.getElem?_push] at found
  split at found
  · cases found
    rfl
  · rw [Array.getElem?_eq_none after] at found
    cases found

theorem Grown.push {i : Instr} (targets : i.Targets outside) (harmless : i.Harmless slot) :
    Grown outside slot code (push i code) where
  size := by simp [Pattern.push]
  kept := by
    intro j before
    have : j ≠ code.size := by omega
    simp [Pattern.push, Array.getElem?_push, this]
  entry := Or.inr ⟨Nat.le_refl _, by simp [Pattern.push]⟩
  targets := by
    intro j instr after found
    rw [push_added after found]
    exact targets.mono fun n out => Or.inl out
  harmless := by
    intro j instr after found
    rw [push_added after found]
    exact harmless

theorem Grown.front {e : Emitted} (h : Grown outside slot code e) {i : Instr}
    (targets : i.Targets (Within outside code.size e.2.size)) (harmless : i.Harmless slot) :
    Grown outside slot code (Pattern.push i e.2) :=
  h.trans (Grown.push targets harmless) fun _ within => within

theorem Grown.widen {e : Emitted} (h : Grown outside slot code e)
    (wider : ∀ n, outside n → outside' n) : Grown outside' slot code e where
  size := h.size
  kept := h.kept
  entry := h.entry.imp_left (wider _)
  targets := fun i instr after found =>
    (h.targets i instr after found).mono fun _ => Or.imp_left (wider _)
  harmless := h.harmless

theorem Grown.set {e : Emitted} (h : Grown outside slot code e) {place : Nat}
    (added : code.size ≤ place) {i : Instr}
    (targets : i.Targets (Within outside code.size e.2.size)) (harmless : i.Harmless slot) :
    Grown outside slot code (e.1, e.2.setIfInBounds place i) where
  size := by simpa using h.size
  kept := by
    intro j before
    rw [Array.getElem?_setIfInBounds_ne (by omega)]
    exact h.kept j before
  entry := by simpa using h.entry
  targets := by
    intro j instr after found
    simp only [Array.size_setIfInBounds]
    rw [Array.getElem?_setIfInBounds] at found
    split at found
    · split at found
      · cases found
        exact targets
      · cases found
    · exact h.targets j instr after found
  harmless := by
    intro j instr after found
    rw [Array.getElem?_setIfInBounds] at found
    split at found
    · split at found
      · cases found
        exact harmless
      · cases found
    · exact h.harmless j instr after found

theorem branch_targets {place : Nat → Prop} (greedy : Bool) {body exit : Nat} (h : place body)
    (h' : place exit) : (branch greedy body exit).Targets place := by
  cases greedy
  · exact ⟨h', h⟩
  · exact ⟨h, h'⟩

theorem branch_harmless (greedy : Bool) (body exit : Nat) :
    (branch greedy body exit).Harmless slot := by
  cases greedy <;> trivial

theorem emitCopies_grown {body : Emitter} (emits : Emits slot body) (n : Nat) :
    Emits slot (emitCopies body n) := by
  intro next code
  induction n generalizing next code with
  | zero => exact Grown.unchanged rfl
  | succ n ih =>
    have inner := emits next code
    refine inner.trans (ih (body next code).1 (body next code).2) ?_
    rintro m rfl
    exact inner.entry

theorem emitOptional_grown {body : Emitter} (emits : Emits slot body) (greedy : Bool)
    (exit n : Nat) (next : Nat) (code : Code) :
    Grown (fun m => m = next ∨ m = exit) slot code (emitOptional greedy body exit n next code) := by
  induction n generalizing next code with
  | zero => exact Grown.unchanged (Or.inl rfl)
  | succ n ih =>
    have inner : Grown (fun m => m = next ∨ m = exit) slot code (body next code) :=
      (emits next code).widen fun _ => Or.inl
    have choice := inner.front (branch_targets greedy inner.entry (Or.inl (Or.inr rfl)))
      (branch_harmless greedy _ _)
    refine choice.trans (ih _ _) ?_
    rintro m (rfl | rfl)
    · exact choice.entry
    · exact Or.inl (Or.inr rfl)

theorem emitLoop_grown {body : Emitter} (emits : Emits slot body) (greedy : Bool) (next : Nat)
    (code : Code) :
    Grown (· = next) slot code
        ((emitLoop greedy body next code).1, (emitLoop greedy body next code).2.2) ∧
      Within (· = next) code.size (emitLoop greedy body next code).2.2.size
        (emitLoop greedy body next code).2.1 := by
  have head : Grown (· = next) slot code (push .fail code) := Grown.push trivial trivial
  have inner := head.trans (emits code.size (push .fail code).2) (by
    rintro m rfl
    exact head.entry)
  have size : code.size < (body code.size (push .fail code).2).2.size := by
    have := (emits code.size (push .fail code).2).size
    simp only [push, Array.size_push] at this ⊢
    omega
  have choice := branch_targets greedy inner.entry (Or.inl rfl)
  refine ⟨inner.set (Nat.le_refl _) choice (branch_harmless greedy _ _), ?_⟩
  refine Or.inr ⟨Nat.le_refl _, ?_⟩
  simp only [emitLoop, Array.size_setIfInBounds]
  exact size

theorem emitRepetition_grown {body : Emitter} (emits : Emits slot body) (count : Count)
    (greedy solid : Bool) : Emits slot (emitRepetition count greedy solid body) := by
  intro next code
  obtain ⟨least, most⟩ := count
  match least, most with
  | least, some most =>
    have optional := (emitOptional_grown emits greedy next (most - least) next code).widen
      fun _ same => same.elim id id
    refine optional.trans (emitCopies_grown emits least _ _) ?_
    rintro m rfl
    exact optional.entry
  | 0, none =>
    obtain ⟨loop, head⟩ := emitLoop_grown emits greedy next code
    simp only [emitRepetition]
    split
    · exact ⟨loop.size, loop.kept, head, loop.targets, loop.harmless⟩
    · exact loop.front (branch_targets greedy loop.entry (Or.inl rfl)) (branch_harmless greedy _ _)
  | least + 1, none =>
    obtain ⟨loop, _⟩ := emitLoop_grown emits greedy next code
    refine loop.trans (emitCopies_grown emits least _ _) ?_
    rintro m rfl
    exact loop.entry

theorem emitChars_grown (chars : Text) : Emits slot (emitChars chars) := by
  intro next code
  induction chars with
  | nil => exact Grown.unchanged rfl
  | cons c rest ih => exact ih.front ih.entry trivial

end

def groupSlots (captures : List (Nat × Option Text)) (slot : Nat) : Prop :=
  ∃ group ∈ captures, slot = 2 * group.1 ∨ slot = 2 * group.1 + 1

theorem groupSlots_cons {slot : Nat → Prop} {t : Tree} {rest : List Tree}
    (own : ∀ s, groupSlots (Tree.capturesAll (t :: rest)) s → slot s) :
    (∀ s, groupSlots t.captures s → slot s) ∧
      ∀ s, groupSlots (Tree.capturesAll rest) s → slot s := by
  constructor
  · rintro s ⟨group, mem, same⟩
    exact own s ⟨group, List.mem_append_left _ mem, same⟩
  · rintro s ⟨group, mem, same⟩
    exact own s ⟨group, List.mem_append_right _ mem, same⟩

mutual

/-- Emitting a tree adds code that notes places in the slots of its capture groups alone. -/
theorem emit_grown {slot : Nat → Prop} : (t : Tree) → (∀ s, groupSlots t.captures s → slot s) →
    Emits slot fun next code => t.emit next code
  | .empty, _, _, _ => Grown.unchanged rfl
  | .literal chars, _, next, code => emitChars_grown chars next code
  | .codes _ set, _, next, code => by
    simp only [Tree.emit]
    split
    · exact Grown.push trivial trivial
    · exact Grown.push rfl trivial
  | .look l, _, next, code => Grown.push rfl trivial
  | .repetition count greedy sub, own, next, code =>
    emitRepetition_grown (emit_grown sub own) count greedy sub.consumes next code
  | .capture index name sub, own, next, code => by
    have first : slot (2 * index) := own _ ⟨(index, name), List.mem_cons_self, Or.inl rfl⟩
    have last : slot (2 * index + 1) := own _ ⟨(index, name), List.mem_cons_self, Or.inr rfl⟩
    have closing : Grown (· = next) slot code (push (.save (2 * index + 1) next) code) :=
      Grown.push rfl last
    have inner := closing.trans (emit_grown sub
      (fun s ⟨group, mem, same⟩ => own s ⟨group, List.mem_cons_of_mem _ mem, same⟩)
      (push (.save (2 * index + 1) next) code).1 (push (.save (2 * index + 1) next) code).2)
      (by
        rintro m rfl
        exact closing.entry)
    exact inner.front inner.entry first
  | .concat parts, own, next, code => emitAll_grown parts own next code
  | .alternation branches, own, next, code => emitBranches_grown branches own next code

theorem emitAll_grown {slot : Nat → Prop} : (ts : List Tree) →
    (∀ s, groupSlots (Tree.capturesAll ts) s → slot s) → Emits slot (Tree.emitAll ts)
  | [], _, _, _ => Grown.unchanged rfl
  | t :: rest, own, next, code => by
    obtain ⟨here, there⟩ := groupSlots_cons own
    have later := emitAll_grown rest there next code
    refine later.trans (emit_grown t here (Tree.emitAll rest next code).1
      (Tree.emitAll rest next code).2) ?_
    rintro m rfl
    exact later.entry

theorem emitBranches_grown {slot : Nat → Prop} : (ts : List Tree) →
    (∀ s, groupSlots (Tree.capturesAll ts) s → slot s) → Emits slot (Tree.emitBranches ts)
  | [], _, _, _ => Grown.push trivial trivial
  | [t], own, next, code => emit_grown t (groupSlots_cons own).1 next code
  | t :: u :: rest, own, next, code => by
    obtain ⟨here, there⟩ := groupSlots_cons own
    have later := emitBranches_grown (u :: rest) there next code
    have first : Grown (· = next) slot (Tree.emitBranches (u :: rest) next code).2
        (t.emit next (Tree.emitBranches (u :: rest) next code).2) := emit_grown t here next _
    have both := later.trans first (by
      rintro m rfl
      exact Or.inl rfl)
    have others : Within (· = next) code.size
        (t.emit next (Tree.emitBranches (u :: rest) next code).2).2.size
        (Tree.emitBranches (u :: rest) next code).1 := by
      have := first.size
      rcases later.entry with out | ⟨low, high⟩
      · exact Or.inl out
      · exact Or.inr ⟨low, by omega⟩
    exact both.front ⟨both.entry, others⟩ trivial

end

end TextCursor.Pattern
