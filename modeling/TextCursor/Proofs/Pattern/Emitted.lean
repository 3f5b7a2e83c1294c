import TextCursor.Pattern.Program
import TextCursor.Proofs.Pattern.Faithful
/-!
What the program of a tree depends on. A fixed count emits the same code whether it is greedy or not,
and the number of a capture group shows in nothing but the slots that its instructions note places
in. So a tree that was settled and renumbered has the program of the tree, but for those slots.
-/
namespace TextCursor.Pattern

def Instr.ungrouped : Instr → Instr
  | save slot next => save (min slot 2) next
  | i => i

def Code.Alike (code code' : Code) : Prop := code.map Instr.ungrouped = code'.map Instr.ungrouped

theorem Code.Alike.size {code code' : Code} (h : code.Alike code') : code.size = code'.size := by
  simpa using congrArg Array.size h

structure Emitted.Alike (e e' : Emitted) : Prop where
  entry : e.1 = e'.1
  code : Code.Alike e.2 e'.2

def Emitter.Alike (body body' : Emitter) : Prop :=
  ∀ next {code code' : Code}, code.Alike code' →
    Emitted.Alike (body next code) (body' next code')

theorem push_alike {i i' : Instr} (same : i.ungrouped = i'.ungrouped) {code code' : Code}
    (h : code.Alike code') : Emitted.Alike (push i code) (push i' code') := by
  refine ⟨h.size, ?_⟩
  simp only [Code.Alike, push, Array.map_push, same]
  exact congrArg (Array.push · i'.ungrouped) h

section
variable {body body' : Emitter} (bodies : Emitter.Alike body body')
include bodies

theorem emitCopies_alike (n : Nat) :
    Emitter.Alike (emitCopies body n) (emitCopies body' n) := by
  induction n with
  | zero => exact fun next code code' h => ⟨rfl, h⟩
  | succ n ih =>
    intro next code code' h
    obtain ⟨entry, inner⟩ := bodies next h
    have more := ih (body next code).1 inner
    simp only [emitCopies]
    rw [← entry]
    exact more

theorem emitOptional_alike (greedy : Bool) (exit n : Nat) :
    Emitter.Alike (emitOptional greedy body exit n) (emitOptional greedy body' exit n) := by
  induction n with
  | zero => exact fun next code code' h => ⟨rfl, h⟩
  | succ n ih =>
    intro next code code' h
    obtain ⟨entry, inner⟩ := bodies next h
    have choice := push_alike (i := branch greedy (body next code).1 exit) rfl inner
    simp only [emitOptional]
    rw [← entry, ← choice.entry]
    exact ih _ choice.code

theorem emitLoop_alike (greedy : Bool) (next : Nat) {code code' : Code} (h : code.Alike code') :
    (emitLoop greedy body next code).1 = (emitLoop greedy body' next code').1 ∧
      (emitLoop greedy body next code).2.1 = (emitLoop greedy body' next code').2.1 ∧
      Code.Alike (emitLoop greedy body next code).2.2 (emitLoop greedy body' next code').2.2 := by
  have head := push_alike (i := .fail) rfl h
  obtain ⟨entry, inner⟩ := bodies code.size head.code
  have size : code'.size = code.size := h.size.symm
  simp only [emitLoop, push] at *
  rw [size, ← entry]
  refine ⟨rfl, rfl, ?_⟩
  simp only [Code.Alike, Array.map_setIfInBounds] at inner ⊢
  rw [inner]

theorem emitRepetition_alike (count : Count) (greedy solid : Bool) :
    Emitter.Alike (emitRepetition count greedy solid body)
      (emitRepetition count greedy solid body') := by
  intro next code code' h
  obtain ⟨least, most⟩ := count
  match least, most with
  | least, some most =>
    obtain ⟨entry, optional⟩ := emitOptional_alike bodies greedy next (most - least) next h
    simp only [emitRepetition]
    rw [← entry]
    exact emitCopies_alike bodies least _ optional
  | 0, none =>
    obtain ⟨entry, head, loop⟩ := emitLoop_alike bodies greedy next h
    simp only [emitRepetition]
    split
    · exact ⟨head, loop⟩
    · rw [← entry]
      exact push_alike rfl loop
  | least + 1, none =>
    obtain ⟨entry, _, loop⟩ := emitLoop_alike bodies greedy next h
    simp only [emitRepetition]
    rw [← entry]
    exact emitCopies_alike bodies least _ loop

end

theorem emitChars_alike (chars : Text) : Emitter.Alike (emitChars chars) (emitChars chars) := by
  induction chars with
  | nil => exact fun next code code' h => ⟨rfl, h⟩
  | cons c rest ih =>
    intro next code code' h
    obtain ⟨entry, later⟩ := ih next h
    simp only [emitChars]
    rw [← entry]
    exact push_alike rfl later

theorem emitRepetition_unmarked (count : Count) (greedy solid : Bool) (body : Emitter) :
    emitRepetition count (unmarked count greedy) solid body =
      emitRepetition count greedy solid body := by
  obtain ⟨least, most⟩ := count
  by_cases fixed : most = some least
  · subst fixed
    funext next code
    simp [emitRepetition, emitOptional]
  · have other : (most == some least) = false := beq_false_of_ne fixed
    simp [unmarked, other]

namespace Tree

mutual

theorem consumes_settled : (t : Tree) → t.settled.consumes = t.consumes
  | empty => rfl
  | literal _ => rfl
  | codes _ _ => rfl
  | look _ => rfl
  | repetition count _ sub => congrArg (decide (0 < count.least) && ·) (consumes_settled sub)
  | capture _ _ sub => consumes_settled sub
  | concat parts => anyConsumes_settled parts
  | alternation branches => allConsume_settled branches

theorem anyConsumes_settled : (ts : List Tree) → anyConsumes (settledAll ts) = anyConsumes ts
  | [] => rfl
  | t :: rest => by
    simp only [settledAll, anyConsumes, consumes_settled t, anyConsumes_settled rest]

theorem allConsume_settled : (ts : List Tree) → allConsume (settledAll ts) = allConsume ts
  | [] => rfl
  | t :: rest => by
    simp only [settledAll, allConsume, consumes_settled t, allConsume_settled rest]

end

mutual

theorem emit_settled : (t : Tree) → ∀ next code, t.settled.emit next code = t.emit next code
  | empty, _, _ => rfl
  | literal _, _, _ => rfl
  | codes _ _, _, _ => rfl
  | look _, _, _ => rfl
  | repetition count greedy sub, next, code => by
    have inner : (fun next code => sub.settled.emit next code) =
        fun next code => sub.emit next code :=
      funext fun next => funext fun code => emit_settled sub next code
    simp only [settled, emit, inner, consumes_settled, emitRepetition_unmarked]
  | capture _ _ sub, next, code => by
    simp only [settled, emit, emit_settled sub]
  | concat parts, next, code => emitAll_settled parts next code
  | alternation branches, next, code => emitBranches_settled branches next code

theorem emitAll_settled : (ts : List Tree) → ∀ next code,
    emitAll (settledAll ts) next code = emitAll ts next code
  | [], _, _ => rfl
  | t :: rest, next, code => by
    simp only [settledAll, emitAll, emitAll_settled rest, emit_settled t]

theorem emitBranches_settled : (ts : List Tree) → ∀ next code,
    emitBranches (settledAll ts) next code = emitBranches ts next code
  | [], _, _ => rfl
  | [t], next, code => emit_settled t next code
  | t :: u :: rest, next, code => by
    have others := emitBranches_settled (u :: rest) next code
    simp only [settledAll, emitBranches] at others ⊢
    rw [others, emit_settled t]

end

mutual

theorem consumes_renumbered : (t : Tree) → ∀ n, (t.renumbered n).consumes = t.consumes
  | empty, _ => rfl
  | literal _, _ => rfl
  | codes _ _, _ => rfl
  | look _, _ => rfl
  | repetition count _ sub, n =>
    congrArg (decide (0 < count.least) && ·) (consumes_renumbered sub n)
  | capture _ _ sub, n => consumes_renumbered sub (n + 1)
  | concat parts, n => anyConsumes_renumbered parts n
  | alternation branches, n => allConsume_renumbered branches n

theorem anyConsumes_renumbered : (ts : List Tree) → ∀ n,
    anyConsumes (renumberedAll n ts) = anyConsumes ts
  | [], _ => rfl
  | t :: rest, n => by
    simp only [renumberedAll, anyConsumes, consumes_renumbered t, anyConsumes_renumbered rest]

theorem allConsume_renumbered : (ts : List Tree) → ∀ n,
    allConsume (renumberedAll n ts) = allConsume ts
  | [], _ => rfl
  | t :: rest, n => by
    simp only [renumberedAll, allConsume, consumes_renumbered t, allConsume_renumbered rest]

end

theorem save_ungrouped {slot slot' next : Nat} (h : 2 ≤ slot) (h' : 2 ≤ slot') :
    (Instr.save slot next).ungrouped = (Instr.save slot' next).ungrouped := by
  simp only [Instr.ungrouped, Instr.save.injEq, and_true]
  omega

mutual

/-- Renumbering the groups of a tree changes the slots of its program, if none was group 0. -/
theorem emit_renumbered : (t : Tree) → (∀ group ∈ t.captures, 1 ≤ group.1) → ∀ n,
    Emitter.Alike (t.renumbered n).emit t.emit
  | empty, _, _ => fun _ _ _ h => ⟨rfl, h⟩
  | literal chars, _, _ => emitChars_alike chars
  | codes _ set, _, _ => by
    intro next code code' h
    simp only [renumbered, emit]
    split
    · exact push_alike rfl h
    · exact push_alike rfl h
  | look _, _, _ => fun _ _ _ h => push_alike rfl h
  | repetition count greedy sub, positive, n => by
    intro next code code' h
    simp only [renumbered, emit, consumes_renumbered]
    exact emitRepetition_alike (emit_renumbered sub positive n) count greedy _ next h
  | capture index name sub, positive, n => by
    obtain ⟨own, inside⟩ := List.forall_mem_cons.mp positive
    have own : 1 ≤ index := own
    intro next code code' h
    have last : (Instr.save (2 * (n + 1) + 1) next).ungrouped =
        (Instr.save (2 * index + 1) next).ungrouped := save_ungrouped (by omega) (by omega)
    have closing := push_alike last h
    obtain ⟨entry, inner⟩ := emit_renumbered sub inside (n + 1) _ closing.code
    simp only [renumbered, emit]
    rw [← closing.entry, ← entry]
    exact push_alike (save_ungrouped (by omega) (by omega)) inner
  | concat parts, positive, n => emitAll_renumbered parts positive n
  | alternation branches, positive, n => emitBranches_renumbered branches positive n

theorem emitAll_renumbered : (ts : List Tree) → (∀ group ∈ capturesAll ts, 1 ≤ group.1) → ∀ n,
    Emitter.Alike (emitAll (renumberedAll n ts)) (emitAll ts)
  | [], _, _ => fun _ _ _ h => ⟨rfl, h⟩
  | t :: rest, positive, n => by
    obtain ⟨here, there⟩ := List.forall_mem_append.mp positive
    intro next code code' h
    obtain ⟨entry, later⟩ := emitAll_renumbered rest there _ next h
    simp only [renumberedAll, emitAll]
    rw [← entry]
    exact emit_renumbered t here n _ later

theorem emitBranches_renumbered : (ts : List Tree) →
    (∀ group ∈ capturesAll ts, 1 ≤ group.1) → ∀ n,
      Emitter.Alike (emitBranches (renumberedAll n ts)) (emitBranches ts)
  | [], _, _ => fun _ _ _ h => push_alike rfl h
  | [t], positive, n => by
    obtain ⟨here, _⟩ := List.forall_mem_append.mp positive
    exact emit_renumbered t here n
  | t :: u :: rest, positive, n => by
    obtain ⟨here, there⟩ := List.forall_mem_append.mp positive
    intro next code code' h
    obtain ⟨others, later⟩ := emitBranches_renumbered (u :: rest) there (n + t.captures.length) next h
    obtain ⟨entry, first⟩ := emit_renumbered t here n next later
    simp only [renumberedAll, emitBranches] at others entry first ⊢
    rw [← others, ← entry]
    exact push_alike rfl first

end

end Tree

end TextCursor.Pattern
