import TextCursor.Pattern.Search
import TextCursor.Proofs.Pattern.Emission
/-!
Invariants of a search. What holds of the threads at the starts and is kept by every move holds of the
thread that accepts.
-/
namespace TextCursor.Pattern

theorem get?_cons (slot place : Nat) (slots : Slots) (wanted : Nat) :
    Slots.get? ((slot, place) :: slots) wanted =
      if slot = wanted then some place else slots.get? wanted := by
  unfold Slots.get?
  by_cases same : slot = wanted
  · simp [same]
  · simp [same]

theorem group?_some {slots : Slots} {index : Nat} {span : CharSpan}
    (h : slots.group? index = some span) :
    slots.get? (2 * index) = some span.start ∧ slots.get? (2 * index + 1) = some span.stop := by
  unfold Slots.group? at h
  split at h
  · rename_i start stop first last
    cases h
    exact ⟨first, last⟩
  · cases h

theorem head_groups {slots : Slots} {n : Nat} {span : CharSpan}
    (head : ((List.range n).map slots.group?).head? = some (some span)) :
    slots.group? 0 = some span := by
  cases n with
  | zero => cases head
  | succ n => simpa [List.range_succ_eq_map] using head

structure Thread.Moves (code : Code) (text : Array Char) (t : Thread) (i : Instr) (u : Thread) :
    Prop where
  found : code[t.pc]? = some i
  target : ∀ place : Nat → Prop, i.Targets place → place u.pc
  noted : ∀ slot next, i = .save slot next → u.slots = (slot, t.place) :: t.slots
  kept : (∀ slot next, i ≠ .save slot next) → u.slots = t.slots
  looked : ∀ l next, i = .look l next → l.holds (charBefore text t.place) text[t.place]? = true
  stays : (∀ c next, i ≠ .char c next) → (∀ set next, i ≠ .codes set next) → u.place = t.place
  goes : t.place ≤ text.size → t.place ≤ u.place ∧ u.place ≤ text.size

theorem move_goOn {code : Code} {text : Array Char} {t u : Thread} {threads : List Thread}
    (h : t.move code text = .goOn threads) (mem : u ∈ threads) : ∃ i, t.Moves code text i u := by
  unfold Thread.move at h
  split at h
  · rename_i c next found
    split at h
    · rename_i taken
      cases h
      rw [List.mem_singleton.mp mem]
      obtain ⟨inside, _⟩ := Array.getElem?_eq_some_iff.mp taken
      exact ⟨_, found, fun _ target => target, by simp, fun _ => rfl, by simp,
        fun other => absurd rfl (other c next), fun _ => ⟨by simp, by simp only; omega⟩⟩
    · cases h
      cases mem
  · rename_i set next found
    split at h
    · rename_i taken
      cases h
      rw [List.mem_singleton.mp mem]
      have inside : t.place < text.size := by
        cases same : text[t.place]? with
        | none => simp [same] at taken
        | some c => exact (Array.getElem?_eq_some_iff.mp same).1
      exact ⟨_, found, fun _ target => target, by simp, fun _ => rfl, by simp,
        fun _ other => absurd rfl (other set next), fun _ => ⟨by simp, by simp only; omega⟩⟩
    · cases h
      cases mem
  · rename_i l next found
    split at h
    · rename_i holds
      cases h
      rw [List.mem_singleton.mp mem]
      refine ⟨_, found, fun _ target => target, by simp, fun _ => rfl, ?_, fun _ _ => rfl,
        fun inside => ⟨Nat.le_refl _, inside⟩⟩
      intro l' next' same
      cases same
      exact holds
    · cases h
      cases mem
  · rename_i slot next found
    cases h
    rw [List.mem_singleton.mp mem]
    refine ⟨_, found, fun _ target => target, ?_, fun other => absurd rfl (other slot next),
      by simp, fun _ _ => rfl, fun inside => ⟨Nat.le_refl _, inside⟩⟩
    intro slot' next' same
    cases same
    rfl
  · rename_i first second found
    cases h
    rcases List.mem_cons.mp mem with rfl | later
    · exact ⟨_, found, fun _ target => target.1, by simp, fun _ => rfl, by simp, fun _ _ => rfl,
        fun inside => ⟨Nat.le_refl _, inside⟩⟩
    · rw [List.mem_singleton.mp later]
      exact ⟨_, found, fun _ target => target.2, by simp, fun _ => rfl, by simp, fun _ _ => rfl,
        fun inside => ⟨Nat.le_refl _, inside⟩⟩
  · cases h
    cases mem
  · cases h
  · cases h
    cases mem

theorem move_accept {code : Code} {text : Array Char} {t : Thread}
    (h : t.move code text = .accept) : code[t.pc]? = some .accept := by
  unfold Thread.move at h
  split at h
  · split at h <;> cases h
  · split at h <;> cases h
  · split at h <;> cases h
  · cases h
  · cases h
  · cases h
  · rename_i found
    exact found
  · cases h

section

variable {text : Array Char} {inv : Thread → Prop}

/-- The thread that accepts satisfies what every move keeps. -/
theorem explore_accepts {code : Code}
    (step : ∀ t i u, inv t → t.Moves code text i u → inv u) {fuel : Nat} {visited : Visited}
    {stack : List Thread} (all : ∀ t ∈ stack, inv t) {slots : Slots}
    (h : (explore code text fuel visited stack).1 = some slots) :
    ∃ t, inv t ∧ code[t.pc]? = some .accept ∧ t.slots = slots := by
  induction fuel generalizing visited stack with
  | zero => simp [explore] at h
  | succ fuel ih =>
    cases stack with
    | nil => simp [explore] at h
    | cons t stack =>
      obtain ⟨here, later⟩ := List.forall_mem_cons.mp all
      simp only [explore] at h
      split at h
      · exact ih later h
      · split at h
        · rename_i accepts
          cases h
          exact ⟨t, here, move_accept accepts, rfl⟩
        · rename_i threads moved
          refine ih ?_ h
          intro u mem
          rcases List.mem_append.mp mem with new | old
          · obtain ⟨i, moves⟩ := move_goOn moved new
            exact step t i u here moves
          · exact later u old

theorem searchFrom_accepts {p : Program}
    (step : ∀ t i u, inv t → t.Moves p.code text i u → inv u) {visited : Visited}
    {starts : List Nat} (all : ∀ place ∈ starts, inv ⟨p.entry, place, []⟩) {slots : Slots}
    (h : searchFrom p text visited starts = some slots) :
    ∃ t, inv t ∧ p.code[t.pc]? = some .accept ∧ t.slots = slots := by
  induction starts generalizing visited with
  | nil => simp [searchFrom] at h
  | cons start rest ih =>
    obtain ⟨here, later⟩ := List.forall_mem_cons.mp all
    simp only [searchFrom] at h
    split at h
    · rename_i found visited' explored
      cases h
      exact explore_accepts step (by simpa using here) (congrArg Prod.fst explored)
    · exact ih later h

end

end TextCursor.Pattern
