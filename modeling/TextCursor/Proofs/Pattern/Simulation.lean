import TextCursor.Proofs.Pattern.Emitted
import TextCursor.Proofs.Pattern.Invariant
import Mathlib.Data.List.Forall2
import Std.Data.TreeMap.Lemmas
/-!
Two searches side by side. If threads of one program stand for threads of another, in that they move
alike and are visited alike, then the searches find the same. Programs that only differ in the slots
of capture groups so find matches with the same ends.
-/
namespace TextCursor.Pattern

def Thread.key (code : Code) (t : Thread) : Nat := t.place * code.size + t.pc

inductive Move.Alike (R : Thread → Thread → Prop) : Move → Move → Prop where
  | accept : Move.Alike R .accept .accept
  | goOn {ts ts' : List Thread} : List.Forall₂ R ts ts' → Move.Alike R (.goOn ts) (.goOn ts')

/-- Threads that stand for each other are told apart alike and move alike. -/
structure Simulates (code code' : Code) (text : Array Char) (R : Thread → Thread → Prop) : Prop where
  key : ∀ t t' u u', R t t' → R u u' → (t.key code = u.key code ↔ t'.key code' = u'.key code')
  move : ∀ t t', R t t' → Move.Alike R (t.move code text) (t'.move code' text)

def VisitedAlike (code code' : Code) (R : Thread → Thread → Prop) (visited visited' : Visited) :
    Prop :=
  ∀ t t', R t t' → visited.contains (t.key code) = visited'.contains (t'.key code')

def FoundAlike (R : Thread → Thread → Prop) (found found' : Option Slots) : Prop :=
  (found = none ∧ found' = none) ∨
    ∃ t t', R t t' ∧ found = some t.slots ∧ found' = some t'.slots

section
variable {code code' : Code} {text : Array Char} {R : Thread → Thread → Prop}

theorem visited_insert (sim : Simulates code code' text R) {visited visited' : Visited}
    (same : VisitedAlike code code' R visited visited') {t t' : Thread} (related : R t t') :
    VisitedAlike code code' R (visited.insert (t.key code) ())
      (visited'.insert (t'.key code') ()) := by
  intro u u' other
  have keys := sim.key t t' u u' related other
  rw [Std.TreeMap.contains_insert, Std.TreeMap.contains_insert, same u u' other]
  congr 1
  rw [Bool.eq_iff_iff, beq_iff_eq, beq_iff_eq, Std.LawfulEqCmp.compare_eq_iff_eq,
    Std.LawfulEqCmp.compare_eq_iff_eq]
  exact keys

/-- Searches in which the threads stand for each other find the same and visit the same. -/
theorem explore_simulates (sim : Simulates code code' text R) (fuel : Nat)
    {visited visited' : Visited} (same : VisitedAlike code code' R visited visited')
    {stack stack' : List Thread} (paired : List.Forall₂ R stack stack') :
    FoundAlike R (explore code text fuel visited stack).1
        (explore code' text fuel visited' stack').1 ∧
      VisitedAlike code code' R (explore code text fuel visited stack).2
        (explore code' text fuel visited' stack').2 := by
  induction fuel generalizing visited visited' stack stack' with
  | zero => exact ⟨Or.inl ⟨rfl, rfl⟩, same⟩
  | succ fuel ih =>
    cases paired with
    | nil => exact ⟨Or.inl ⟨rfl, rfl⟩, same⟩
    | @cons t t' stack stack' related others =>
      have seen := same t t' related
      have moves := sim.move t t' related
      have inserted := visited_insert sim same related
      simp only [explore]
      simp only [Thread.key] at seen inserted
      rw [seen]
      split
      · exact ih same others
      · generalize t.move code text = move at *
        generalize t'.move code' text = move' at *
        cases moves with
        | accept => exact ⟨Or.inr ⟨t, t', related, rfl, rfl⟩, same⟩
        | goOn threads => exact ih inserted (List.rel_append threads others)

end

structure SameWhole (t t' : Thread) : Prop where
  pc : t.pc = t'.pc
  place : t.place = t'.place
  slots : ∀ slot, slot < 2 → t.slots.get? slot = t'.slots.get? slot

theorem ungrouped_eq {i i' : Instr} (same : i.ungrouped = i'.ungrouped) :
    i = i' ∨ ∃ slot slot' next, i = .save slot next ∧ i' = .save slot' next ∧
      min slot 2 = min slot' 2 := by
  cases i with
  | save slot next =>
    cases i' <;> simp only [Instr.ungrouped, reduceCtorEq, Instr.save.injEq] at same
    obtain ⟨slots, rfl⟩ := same
    exact Or.inr ⟨_, _, _, rfl, rfl, slots⟩
  | _ => cases i' <;> simp_all [Instr.ungrouped]

theorem noted_alike {t t' : Thread} (h : SameWhole t t') {slot slot' : Nat}
    (same : min slot 2 = min slot' 2) (next : Nat) :
    SameWhole ⟨next, t.place, (slot, t.place) :: t.slots⟩
      ⟨next, t'.place, (slot', t'.place) :: t'.slots⟩ := by
  refine ⟨rfl, h.place, ?_⟩
  intro wanted whole
  simp only
  rw [get?_cons, get?_cons, h.place, h.slots wanted whole]
  by_cases here : slot = wanted
  · rw [if_pos here, if_pos (by omega)]
  · rw [if_neg here, if_neg (by omega)]

theorem alike_simulates {code code' : Code} (alike : code.Alike code') (text : Array Char) :
    Simulates code code' text SameWhole where
  key := by
    intro t t' u u' h h'
    simp only [Thread.key, h.pc, h.place, h'.pc, h'.place, alike.size]
  move := by
    intro t t' h
    have goes (place next : Nat) : SameWhole ⟨next, place, t.slots⟩ ⟨next, place, t'.slots⟩ :=
      ⟨rfl, rfl, h.slots⟩
    have stays : Move.Alike SameWhole (.goOn []) (.goOn []) := .goOn .nil
    have found : (code[t.pc]?).map Instr.ungrouped = (code'[t'.pc]?).map Instr.ungrouped := by
      rw [← Array.getElem?_map, ← Array.getElem?_map, alike, h.pc]
    unfold Thread.move
    rw [h.place]
    cases here : code[t.pc]? with
    | none =>
      rw [here] at found
      cases here' : code'[t'.pc]? with
      | none => exact stays
      | some i => simp [here'] at found
    | some i =>
      rw [here] at found
      cases here' : code'[t'.pc]? with
      | none => simp [here'] at found
      | some i' =>
        rw [here'] at found
        rcases ungrouped_eq (Option.some.inj found) with rfl | ⟨slot, slot', next, rfl, rfl, slots⟩
        · cases i with
          | char c next =>
            simp only
            split
            · exact .goOn (.cons (goes _ next) .nil)
            · exact stays
          | codes set next =>
            simp only
            split
            · exact .goOn (.cons (goes _ next) .nil)
            · exact stays
          | look l next =>
            simp only
            split
            · exact .goOn (.cons (goes _ next) .nil)
            · exact stays
          | save slot next =>
            have noted := noted_alike h (rfl : min slot 2 = min slot 2) next
            rw [h.place] at noted
            exact .goOn (.cons noted .nil)
          | split first second => exact .goOn (.cons (goes _ first) (.cons (goes _ second) .nil))
          | fail => exact stays
          | accept => exact .accept
        · have noted := noted_alike h slots next
          rw [h.place] at noted
          exact .goOn (.cons noted .nil)

end TextCursor.Pattern
