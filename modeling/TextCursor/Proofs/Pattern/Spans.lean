import TextCursor.Proofs.Pattern.Nesting
/-!
The spans of a match. Places only grow along a thread, so no note is newer than the place where the
thread is, and a group that is closed stopped where it started or behind. The program accepts right
where it notes the end of the match, outside of all groups: so every group lies within the match.
-/
namespace TextCursor.Pattern

/-- In the program, `inside i` is what belongs to group `i`. -/
structure NestedCode (p : Program) (inside : Nat → Nat → Prop) : Prop where
  accept : ∀ i, ¬ inside i 0
  keeps : ∀ i n (instr : Instr), p.code[n]? = some instr → instr.Keeps i (inside i) n

theorem ofTree_nested (t : Tree) : ∃ inside, NestedCode (.ofTree t) inside := by
  have nests (i : Nat) : ∃ within, Nested i within #[.accept]
      ((Tree.capture 0 none t).emit 0 #[.accept]) := emit_nests i (.capture 0 none t) 0 #[.accept]
  have grown := tree_grown (.capture 0 none t) 0 #[.accept]
  obtain ⟨inside, nested⟩ := Classical.axiomOfChoice nests
  refine ⟨inside, ?_, ?_⟩
  · intro i within
    have := ((nested i).added 0 within).1
    contradiction
  · intro i n instr found
    cases n with
    | zero =>
      have first := grown.kept 0 (by decide)
      rw [show ((Tree.capture 0 none t).emit 0 #[.accept]).2[0]? = some instr from found] at first
      cases first
      trivial
    | succ n => exact (nested i).keeps (n + 1) instr (Nat.le_add_left 1 n) found

theorem Thread.Moves.other {code : Code} {text : Array Char} {t u : Thread} {i : Instr}
    (moves : t.Moves code text i u) {slot : Nat} (other : ∀ next, i ≠ .save slot next) :
    u.slots.get? slot = t.slots.get? slot := by
  by_cases saves : ∃ slot' next, i = .save slot' next
  · obtain ⟨slot', next, rfl⟩ := saves
    rw [moves.noted slot' next rfl, get?_cons, if_neg]
    rintro rfl
    exact other next rfl
  · rw [moves.kept fun slot' next same => saves ⟨slot', next, same⟩]

/-- No note is newer than the thread, closed groups are in order, and who accepts has just noted the
end of the match. -/
structure InOrder (inside : Nat → Nat → Prop) (text : Array Char) (t : Thread) : Prop where
  reach : t.place ≤ text.size
  noted : ∀ slot n, t.slots.get? slot = some n → n ≤ t.place
  closed : ∀ i, ¬ inside i t.pc → ∀ a b, t.slots.get? (2 * i) = some a →
    t.slots.get? (2 * i + 1) = some b → a ≤ b
  ended : t.pc = 0 → t.slots.get? 1 = some t.place

section

variable {p : Program} {inside : Nat → Nat → Prop} {text : Array Char} {t u : Thread} {i : Instr}

theorem noted_step (h : InOrder inside text t) (moves : t.Moves p.code text i u) (slot n : Nat)
    (found : u.slots.get? slot = some n) : n ≤ u.place := by
  have forward := (moves.goes h.reach).1
  by_cases saves : ∃ next, i = .save slot next
  · obtain ⟨next, rfl⟩ := saves
    rw [moves.noted slot next rfl, get?_cons, if_pos rfl] at found
    cases found
    exact forward
  · rw [moves.other fun next same => saves ⟨next, same⟩] at found
    exact Nat.le_trans (h.noted slot n found) forward

theorem closed_step (nested : NestedCode p inside) (h : InOrder inside text t)
    (moves : t.Moves p.code text i u) (group : Nat) (out : ¬ inside group u.pc) (a b : Nat)
    (first : u.slots.get? (2 * group) = some a) (last : u.slots.get? (2 * group + 1) = some b) :
    a ≤ b := by
  have enters := moves.target _ (nested.keeps group t.pc i moves.found)
  have unopened (next : Nat) : i ≠ .save (2 * group) next := by
    rintro rfl
    exact out (enters (Or.inl rfl))
  rw [moves.other unopened] at first
  -- outside now: the thread has just closed the group, or it was outside before
  by_cases closes : ∃ next, i = .save (2 * group + 1) next
  · obtain ⟨next, rfl⟩ := closes
    rw [moves.noted _ next rfl, get?_cons, if_pos rfl] at last
    cases last
    exact h.noted _ a first
  · have unclosed : ¬ i.Closes group := by
      intro closing
      cases i with
      | save slot next => exact closes ⟨next, congrArg (Instr.save · next) closing⟩
      | _ => exact closing
    have before : ¬ inside group t.pc := fun within => out (enters (Or.inr ⟨within, unclosed⟩))
    rw [moves.other fun next same => closes ⟨next, same⟩] at last
    exact h.closed group before a b first last

theorem ended_step (code : AnchoredCode p) (moves : t.Moves p.code text i u) (arrived : u.pc = 0) :
    u.slots.get? 1 = some u.place := by
  rcases code.instr_cases moves.found with ⟨_, rfl⟩ | ⟨_, rfl⟩ | ⟨anchor, low, rfl⟩ | ⟨targets, _⟩
  · exact (moves.target (fun _ => False) trivial).elim
  · rw [moves.noted 1 0 rfl, get?_cons, if_pos rfl, moves.stays (by simp) (by simp)]
  · have target : anchor = u.pc := moves.target (anchor = ·) rfl
    omega
  · have target := moves.target _ targets
    omega

theorem inOrder_step (code : AnchoredCode p) (nested : NestedCode p inside) (t : Thread) (i : Instr)
    (u : Thread) (h : InOrder inside text t) (moves : t.Moves p.code text i u) :
    InOrder inside text u where
  reach := (moves.goes h.reach).2
  noted := noted_step h moves
  closed := closed_step nested h moves
  ended := ended_step code moves

end

theorem find?_within (p : Pattern) {text : Text} {spans : List (Option CharSpan)}
    (found : p.find? text = some spans) :
    ∃ stop, stop ≤ text.length ∧ spans.head? = some (some ⟨0, stop⟩) ∧
      ∀ span, some span ∈ spans → span.start ≤ span.stop ∧ span.stop ≤ stop := by
  have code := anchored_program p
  obtain ⟨_, _, _, _, program⟩ := compiled_from p
  obtain ⟨inside, nested⟩ : ∃ inside, NestedCode p.program inside := by
    rw [program]
    exact ofTree_nested _
  obtain ⟨last, head⟩ := find?_start p found
  obtain ⟨slots, search, made⟩ := Option.map_eq_some_iff.mp found
  have starts : ∀ place ∈ List.range (text.length + 1),
      InOrder inside text.toArray ⟨p.program.entry, place, []⟩ := by
    intro place mem
    have reach : place < text.length + 1 := List.mem_range.mp mem
    obtain ⟨anchor, low, high, _⟩ := code.body
    constructor
    · simp only [List.size_toArray]
      omega
    · simp [Slots.get?]
    · simp [Slots.get?]
    · intro zero
      have entry : p.program.entry = 0 := zero
      omega
  obtain ⟨t, inOrder, accepts, same⟩ := searchFrom_accepts (inOrder_step code nested) starts search
  subst same
  have zero := code.accepts accepts
  have stop : last = t.place := by
    rw [← made] at head
    have noted := (group?_some (head_groups head)).2
    exact Option.some.inj (noted.symm.trans (inOrder.ended zero))
  subst stop
  refine ⟨t.place, ?_, head, ?_⟩
  · simpa using inOrder.reach
  · intro span mem
    rw [← made] at mem
    obtain ⟨index, _, noted⟩ := List.mem_map.mp mem
    obtain ⟨first, second⟩ := group?_some noted
    constructor
    · exact inOrder.closed index (zero ▸ nested.accept index) _ _ first second
    · exact inOrder.noted _ _ second

end TextCursor.Pattern
