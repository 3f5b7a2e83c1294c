import TextCursor.Operation
/-!
Sessions hold several cursors, one of which is in use. A clone of a cursor has its own position,
checkpoint and compiled patterns. Since a clone starts as what was cloned, every cursor of a session
is one that operations alone lead to, from the cursor that the session began with: those done to its
original before the cloning, and to itself since.
-/
namespace TextCursor

structure Session where
  cursors : Array Cursor
  current : Nat

namespace Session

def ofCursor (c : Cursor) : Session := ⟨#[c], 0⟩

def cursor? (s : Session) : Option Cursor := s.cursors[s.current]?

def clone (s : Session) : Nat × Session :=
  match s.cursor? with
  | some c => (s.cursors.size, { s with cursors := s.cursors.push c })
  | none => (s.cursors.size, s)

def use? (s : Session) (index : Nat) : Option Session :=
  if index < s.cursors.size then some { s with current := index } else none

def update (s : Session) (c : Cursor) : Session :=
  { s with cursors := s.cursors.setIfInBounds s.current c }

inductive Step where
  | operate (op : Operation)
  | clone
  | use (index : Nat)

def step (s : Session) : Step → Session
  | .operate op =>
    match s.cursor? with
    | some c => s.update (op.run c).cursor
    | none => s
  | .clone => s.clone.2
  | .use index => (s.use? index).getD s

def run (s : Session) (steps : List Step) : Session := steps.foldl step s

theorem mem_cursor? {s : Session} {c : Cursor} (used : s.cursor? = some c) : c ∈ s.cursors :=
  Array.mem_of_getElem? used

theorem mem_step {s : Session} {todo : Step} {c : Cursor} (held : c ∈ (s.step todo).cursors) :
    c ∈ s.cursors ∨ ∃ before ∈ s.cursors, ∃ op : Operation, c = (op.run before).cursor := by
  cases todo with
  | operate op =>
    simp only [step] at held
    split at held
    · rename_i before used
      rcases Array.mem_or_eq_of_mem_setIfInBounds held with old | new
      · exact .inl old
      · exact .inr ⟨before, mem_cursor? used, op, new⟩
    · exact .inl held
  | clone =>
    simp only [step, clone] at held
    split at held
    · rename_i before used
      rcases Array.mem_push.mp held with old | new
      · exact .inl old
      · exact .inl (new ▸ mem_cursor? used)
    · exact .inl held
  | use index =>
    simp only [step, use?] at held
    split at held
    · exact .inl held
    · exact .inl held

/-- What was done to each cursor of a session and which one is in use, told from the steps alone. -/
structure Account where
  pasts : Array (List Operation)
  current : Nat

namespace Account

def start : Account := ⟨#[[]], 0⟩

def step (a : Account) : Step → Account
  | .operate op =>
    match a.pasts[a.current]? with
    | some past => { a with pasts := a.pasts.setIfInBounds a.current (past ++ [op]) }
    | none => a
  | .clone =>
    match a.pasts[a.current]? with
    | some past => { a with pasts := a.pasts.push past }
    | none => a
  | .use index => if index < a.pasts.size then { a with current := index } else a

def ofSteps (steps : List Step) : Account := steps.foldl step start

def session (a : Account) (c : Cursor) : Session := ⟨a.pasts.map (runCursor c), a.current⟩

theorem session_step (a : Account) (c : Cursor) (todo : Step) :
    (a.session c).step todo = (a.step todo).session c := by
  have used : (a.session c).cursor? = a.pasts[a.current]?.map (runCursor c) := Array.getElem?_map
  cases todo with
  | operate op =>
    simp only [Session.step, step, used]
    cases a.pasts[a.current]? with
    | none => rfl
    | some past => simp [session, update, runCursor]
  | clone =>
    simp only [Session.step, Session.clone, step, used]
    cases a.pasts[a.current]? with
    | none => rfl
    | some past => simp [session]
  | use index =>
    simp only [Session.step, use?, session, Array.size_map, step]
    split <;> rfl

end Account

/-- Whatever was cloned, each cursor of a session is as what was done to it leaves the cursor that the
session began with. -/
theorem run_eq_session (start : Cursor) (steps : List Step) :
    (ofCursor start).run steps = (Account.ofSteps steps).session start := by
  have begun : ofCursor start = Account.start.session start := by
    simp [ofCursor, Account.session, Account.start, runCursor]
  rw [begun, run, Account.ofSteps]
  generalize Account.start = a
  induction steps generalizing a with
  | nil => rfl
  | cons todo rest ih =>
    rw [List.foldl_cons, Account.session_step]
    exact ih (a.step todo)

theorem run_reached (start : Cursor) (steps : List Step) :
    ∀ c ∈ ((ofCursor start).run steps).cursors, ∃ ops, c = runCursor start ops := by
  intro c held
  rw [run_eq_session] at held
  obtain ⟨ops, _, rfl⟩ := Array.mem_map.mp held
  exact ⟨ops, rfl⟩

end Session

end TextCursor
