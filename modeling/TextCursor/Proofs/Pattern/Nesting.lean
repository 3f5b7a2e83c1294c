import TextCursor.Proofs.Pattern.Anchoring
/-!
Groups start before they stop. The instructions that are emitted between the two notes of a group
lead to one another, until the one that notes the end is passed. So a thread that noted the start of
a group is among them until it notes the end, and everywhere else the last note of the end is not
older than the last note of the start. A program accepts among no group's instructions, right after
the end of the match was noted.
-/
namespace TextCursor.Pattern

def Instr.Opens (i : Nat) : Instr → Prop
  | save slot _ => slot = 2 * i
  | _ => False

def Instr.Closes (i : Nat) : Instr → Prop
  | save slot _ => slot = 2 * i + 1
  | _ => False

def Instr.Keeps (i : Nat) (inside : Nat → Prop) (n : Nat) (instr : Instr) : Prop :=
  instr.Targets fun m => instr.Opens i ∨ (inside n ∧ ¬ instr.Closes i) → inside m

/-- Of what was added to `code`, the part `inside` belongs to group `i`: once the group was opened,
it is not left but by closing the group. -/
structure Nested (i : Nat) (inside : Nat → Prop) (code : Code) (e : Emitted) : Prop where
  added : ∀ n, inside n → code.size ≤ n ∧ n < e.2.size
  keeps : ∀ n instr, code.size ≤ n → e.2[n]? = some instr → instr.Keeps i inside n

def Nests (i : Nat) (body : Emitter) : Prop :=
  ∀ next code, ∃ inside, Nested i inside code (body next code)

theorem Instr.Targets.all {place : Nat → Prop} (h : ∀ n, place n) (instr : Instr) :
    instr.Targets place := by
  cases instr <;> simp [Targets, h]

theorem Instr.keeps_outside {i n : Nat} {inside : Nat → Prop} {instr : Instr}
    (closed : ¬ instr.Opens i) (out : ¬ inside n) : instr.Keeps i inside n := by
  apply Targets.all
  rintro m (opens | ⟨within, _⟩)
  · exact absurd opens closed
  · exact absurd within out

theorem branch_closed (i : Nat) (greedy : Bool) (body exit : Nat) :
    ¬ (branch greedy body exit).Opens i := by
  cases greedy <;> exact id

section

variable {i : Nat} {inside inside' : Nat → Prop} {code : Code} {e e' : Emitted}

theorem Nested.unchanged {n : Nat} : Nested i (fun _ => False) code (n, code) where
  added := by simp
  keeps := by
    intro n instr after found
    rw [Array.getElem?_eq_none after] at found
    cases found

theorem Nested.push {instr : Instr} (closed : ¬ instr.Opens i) :
    Nested i (fun _ => False) code (push instr code) where
  added := by simp
  keeps := by
    intro n found after same
    rw [push_added after same]
    exact Instr.keeps_outside closed id

theorem Nested.trans {outside slot : Nat → Prop} (h : Nested i inside code e)
    (h' : Nested i inside' e.2 e') (size : code.size ≤ e.2.size)
    (grown : Grown outside slot e.2 e') :
    Nested i (fun n => inside n ∨ inside' n) code e' where
  added := by
    have size' := grown.size
    rintro n (first | later)
    · have := h.added n first
      omega
    · have := h'.added n later
      omega
  keeps := by
    intro n instr after found
    -- an instruction of one part is not inside of the other, which lies elsewhere
    by_cases old : n < e.2.size
    · rw [grown.kept n old] at found
      apply (h.keeps n instr after found).mono
      rintro m goes (opens | ⟨first | later, unclosed⟩)
      · exact Or.inl (goes (Or.inl opens))
      · exact Or.inl (goes (Or.inr ⟨first, unclosed⟩))
      · have := h'.added n later
        omega
    · apply (h'.keeps n instr (by omega) found).mono
      rintro m goes (opens | ⟨first | later, unclosed⟩)
      · exact Or.inr (goes (Or.inl opens))
      · have := h.added n first
        omega
      · exact Or.inr (goes (Or.inr ⟨later, unclosed⟩))

theorem Nested.front (h : Nested i inside code e) (size : code.size ≤ e.2.size) {instr : Instr}
    (closed : ¬ instr.Opens i) (harmless : instr.Harmless fun _ => True) :
    ∃ inside', Nested i inside' code (Pattern.push instr e.2) := by
  have grown : Grown (fun _ => True) (fun _ => True) e.2 (Pattern.push instr e.2) :=
    Grown.push (Instr.Targets.all (fun _ => trivial) instr) harmless
  exact ⟨_, h.trans (Nested.push closed) size grown⟩

theorem Nested.set (h : Nested i inside code e) {place : Nat} (out : ¬ inside place)
    {instr : Instr} (closed : ¬ instr.Opens i) :
    Nested i inside code (e.1, e.2.setIfInBounds place instr) where
  added := by simpa using h.added
  keeps := by
    intro n instr' after found
    rw [Array.getElem?_setIfInBounds] at found
    split at found
    · rename_i same
      split at found
      · cases found
        exact Instr.keeps_outside closed (same ▸ out)
      · cases found
    · exact h.keeps n instr' after found

variable {body : Emitter}

theorem emitCopies_nests (emits : Emits (fun _ => True) body) (nests : Nests i body) (n : Nat) :
    Nests i (emitCopies body n) := by
  intro next code
  induction n generalizing next code with
  | zero => exact ⟨_, Nested.unchanged⟩
  | succ n ih =>
    obtain ⟨first, nested⟩ := nests next code
    obtain ⟨others, nested'⟩ := ih (body next code).1 (body next code).2
    exact ⟨_, nested.trans nested' (emits next code).size (emitCopies_grown emits n _ _)⟩

theorem emitOptional_nests (emits : Emits (fun _ => True) body) (nests : Nests i body)
    (greedy : Bool) (exit n next : Nat) (code : Code) :
    ∃ inside, Nested i inside code (emitOptional greedy body exit n next code) := by
  induction n generalizing next code with
  | zero => exact ⟨_, Nested.unchanged⟩
  | succ n ih =>
    obtain ⟨first, nested⟩ := nests next code
    have size := (emits next code).size
    have closed := branch_closed i greedy (body next code).1 exit
    obtain ⟨choice, chosen⟩ := nested.front size closed (branch_harmless greedy _ _)
    obtain ⟨others, nested'⟩ := ih (body next code).2.size
      (push (branch greedy (body next code).1 exit) (body next code).2).2
    refine ⟨_, chosen.trans nested' ?_ (emitOptional_grown emits greedy exit n _ _)⟩
    simp only [push, Array.size_push]
    omega

/-- The head of a loop is outside, so what it leads to need not be inside. -/
theorem emitLoop_nests (emits : Emits (fun _ => True) body) (nests : Nests i body) (greedy : Bool)
    (next : Nat) (code : Code) :
    ∃ inside, Nested i inside code
      ((emitLoop greedy body next code).1, (emitLoop greedy body next code).2.2) := by
  obtain ⟨inside, nested⟩ := nests code.size (push .fail code).2
  have size : (push .fail code).2.size = code.size + 1 := Array.size_push _
  have both := (Nested.push id).trans nested (by omega) (emits _ _)
  refine ⟨_, both.set ?_ (branch_closed i greedy _ next)⟩
  rintro (never | within)
  · exact never
  · have := nested.added _ within
    simp only [push, Array.size_push] at this
    omega

theorem emitRepetition_nests (emits : Emits (fun _ => True) body) (nests : Nests i body)
    (count : Count) (greedy solid : Bool) :
    Nests i (emitRepetition count greedy solid body) := by
  intro next code
  obtain ⟨least, most⟩ := count
  match least, most with
  | least, some most =>
    obtain ⟨_, optional⟩ := emitOptional_nests emits nests greedy next (most - least) next code
    have size := (emitOptional_grown emits greedy next (most - least) next code).size
    obtain ⟨_, copies⟩ := emitCopies_nests emits nests least
      (emitOptional greedy body next (most - least) next code).1
      (emitOptional greedy body next (most - least) next code).2
    exact ⟨_, optional.trans copies size (emitCopies_grown emits least _ _)⟩
  | 0, none =>
    obtain ⟨inside, loop⟩ := emitLoop_nests emits nests greedy next code
    obtain ⟨grown, _⟩ := emitLoop_grown emits greedy next code
    simp only [emitRepetition]
    split
    · exact ⟨inside, loop.added, loop.keeps⟩
    · exact loop.front grown.size (branch_closed i greedy _ _) (branch_harmless greedy _ _)
  | least + 1, none =>
    obtain ⟨_, loop⟩ := emitLoop_nests emits nests greedy next code
    obtain ⟨grown, _⟩ := emitLoop_grown emits greedy next code
    obtain ⟨_, copies⟩ := emitCopies_nests emits nests least
      (emitLoop greedy body next code).1 (emitLoop greedy body next code).2.2
    exact ⟨_, loop.trans copies grown.size (emitCopies_grown emits least _ _)⟩

theorem emitChars_nests (chars : Text) : Nests i (emitChars chars) := by
  intro next code
  induction chars with
  | nil => exact ⟨_, Nested.unchanged⟩
  | cons c rest ih =>
    obtain ⟨_, nested⟩ := ih
    have grown : Grown (· = next) (fun _ => True) code (emitChars rest next code) :=
      emitChars_grown rest next code
    exact nested.front grown.size id trivial

end

theorem Nested.group {i next : Nat} {code : Code} {e : Emitted}
    (grown : Grown (· = code.size) (fun _ => True) (code.push (.save (2 * i + 1) next)) e) :
    Nested i (fun n => code.size ≤ n ∧ n < e.2.size) code
      (Pattern.push (.save (2 * i) e.1) e.2) where
  added := by
    intro n within
    simp only [Pattern.push, Array.size_push]
    omega
  keeps := by
    have size := grown.size
    rw [Array.size_push] at size
    -- the body leads to itself and to the note of the end, which is in front of it
    have inner : ∀ m, Within (· = code.size) (code.push (.save (2 * i + 1) next)).size e.2.size m →
        code.size ≤ m ∧ m < e.2.size := by
      rintro m (rfl | ⟨low, high⟩)
      · omega
      · rw [Array.size_push] at low
        omega
    intro n instr after found
    simp only [Pattern.push, Array.getElem?_push] at found
    by_cases opening : n = e.2.size
    · rw [if_pos opening] at found
      cases found
      exact fun _ => inner _ grown.entry
    rw [if_neg opening] at found
    by_cases closing : n = code.size
    · subst closing
      rw [grown.kept code.size (by simp), Array.getElem?_push_size] at found
      cases found
      rintro (opens | ⟨_, unclosed⟩)
      · have : 2 * i + 1 = 2 * i := opens
        omega
      · exact absurd rfl unclosed
    · have deeper : (code.push (.save (2 * i + 1) next)).size ≤ n := by
        rw [Array.size_push]
        omega
      exact (grown.targets n instr deeper found).mono fun m within _ => inner m within

theorem tree_grown (t : Tree) : Emits (fun _ => True) fun next code => t.emit next code :=
  emit_grown t fun _ _ => trivial

mutual

theorem emit_nests (i : Nat) : (t : Tree) → Nests i fun next code => t.emit next code
  | .empty => fun _ _ => ⟨_, Nested.unchanged⟩
  | .literal chars => emitChars_nests chars
  | .codes _ set => by
    intro next code
    simp only [Tree.emit]
    split
    · exact ⟨_, Nested.push id⟩
    · exact ⟨_, Nested.push id⟩
  | .look l => fun _ _ => ⟨_, Nested.push id⟩
  | .repetition count greedy sub =>
    emitRepetition_nests (tree_grown sub) (emit_nests i sub) count greedy sub.consumes
  | .capture index name sub => by
    intro next code
    by_cases same : index = i
    · subst same
      exact ⟨_, Nested.group (tree_grown sub code.size _)⟩
    · have stop : ¬ (Instr.save (2 * index + 1) next).Opens i := by
        simp only [Instr.Opens]
        omega
      have start (n : Nat) : ¬ (Instr.save (2 * index) n).Opens i := by
        simp only [Instr.Opens]
        omega
      obtain ⟨_, nested⟩ := emit_nests i sub code.size (code.push (.save (2 * index + 1) next))
      have grown := tree_grown sub code.size (code.push (.save (2 * index + 1) next))
      have size := grown.size
      have both := (Nested.push stop).trans nested (by simp [push]) grown
      refine both.front ?_ (start _) trivial
      rw [Array.size_push] at size
      omega
  | .concat parts => emitAll_nests i parts
  | .alternation branches => emitBranches_nests i branches

theorem emitAll_nests (i : Nat) : (ts : List Tree) → Nests i (Tree.emitAll ts)
  | [] => fun _ _ => ⟨_, Nested.unchanged⟩
  | t :: rest => by
    intro next code
    have grown : Grown (· = next) (fun _ => True) code (Tree.emitAll rest next code) :=
      emitAll_grown rest (fun _ _ => trivial) next code
    obtain ⟨_, later⟩ := emitAll_nests i rest next code
    obtain ⟨_, first⟩ := emit_nests i t (Tree.emitAll rest next code).1
      (Tree.emitAll rest next code).2
    exact ⟨_, later.trans first grown.size (tree_grown t _ _)⟩

theorem emitBranches_nests (i : Nat) : (ts : List Tree) → Nests i (Tree.emitBranches ts)
  | [] => fun _ _ => ⟨_, Nested.push id⟩
  | [t] => emit_nests i t
  | t :: u :: rest => by
    intro next code
    have grown : Grown (· = next) (fun _ => True) code (Tree.emitBranches (u :: rest) next code) :=
      emitBranches_grown (u :: rest) (fun _ _ => trivial) next code
    obtain ⟨_, later⟩ := emitBranches_nests i (u :: rest) next code
    obtain ⟨_, first⟩ := emit_nests i t next (Tree.emitBranches (u :: rest) next code).2
    have grown' := tree_grown t next (Tree.emitBranches (u :: rest) next code).2
    have both := later.trans first grown.size grown'
    exact both.front (Nat.le_trans grown.size grown'.size) id trivial

end

end TextCursor.Pattern
