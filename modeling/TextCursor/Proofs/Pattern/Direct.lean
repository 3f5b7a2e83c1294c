import TextCursor.Proofs.Pattern.Anchoring
import TextCursor.Proofs.Pattern.Simulation
/-!
Matching a tree itself at the start of a text. The program of an anchored tree is that of the tree
behind two more instructions, which only let through what starts with the text. So what its search
finds among all starts is what the program of the tree alone finds at the first; that the two
programs differ in size does not matter, since a search never runs out of steps.
-/
namespace TextCursor.Pattern

def Tree.matchSlots? (t : Tree) (text : Text) : Option Slots :=
  (explore (Program.ofTree t).code text.toArray
    (exploreFuel (Program.ofTree t).code text.toArray) {} [⟨(Program.ofTree t).entry, 0, []⟩]).1

def Tree.matchEnd? (t : Tree) (text : Text) : Option Nat :=
  (t.matchSlots? text).bind (·.get? 1)

def unvisited (bound : Nat) (visited : Visited) : Nat :=
  (List.range bound).countP fun key => !visited.contains key

theorem countP_lt {α : Type} {p q : α → Bool} {l : List α} (fewer : ∀ a, q a = true → p a = true)
    {a : α} (mem : a ∈ l) (yes : p a = true) (no : q a = false) : l.countP q < l.countP p := by
  induction l with
  | nil => cases mem
  | cons b rest ih =>
    have mono : rest.countP q ≤ rest.countP p := List.countP_mono_left fun a _ => fewer a
    rcases List.mem_cons.mp mem with rfl | later
    · rw [List.countP_cons_of_pos yes, List.countP_cons_of_neg (by simp [no])]
      omega
    · have := ih later
      by_cases here : q b = true
      · rw [List.countP_cons_of_pos here, List.countP_cons_of_pos (fewer b here)]
        omega
      · rw [List.countP_cons_of_neg here, List.countP_cons]
        omega

theorem unvisited_insert_le (bound : Nat) (visited : Visited) (key : Nat) :
    unvisited bound (visited.insert key ()) ≤ unvisited bound visited := by
  refine List.countP_mono_left fun k _ unseen => ?_
  simp only [Std.TreeMap.contains_insert, Bool.not_or, Bool.and_eq_true] at unseen
  exact unseen.2

theorem unvisited_insert_lt {bound key : Nat} {visited : Visited} (inside : key < bound)
    (fresh : visited.contains key = false) :
    unvisited bound (visited.insert key ()) < unvisited bound visited := by
  refine countP_lt ?_ (List.mem_range.mpr inside) (by simp [fresh]) (by simp)
  intro k unseen
  simp only [Std.TreeMap.contains_insert, Bool.not_or, Bool.and_eq_true] at unseen
  exact unseen.2

theorem move_length {code : Code} {text : Array Char} {t : Thread} {threads : List Thread}
    (h : t.move code text = .goOn threads) : threads.length ≤ 2 := by
  unfold Thread.move at h
  split at h <;> (try split at h) <;> cases h <;> simp

/-- Steps beyond those that visit every instruction at every place change nothing. -/
theorem explore_fuel {code : Code} {text : Array Char} (fuel more : Nat) {visited : Visited}
    {stack : List Thread} (inside : ∀ t ∈ stack, t.place ≤ text.size)
    (enough : 2 * unvisited (code.size * (text.size + 1)) visited + stack.length < fuel) :
    explore code text (fuel + more) visited stack = explore code text fuel visited stack := by
  induction fuel generalizing visited stack with
  | zero => omega
  | succ fuel ih =>
    rw [Nat.add_right_comm]
    cases stack with
    | nil => rfl
    | cons t stack =>
      obtain ⟨here, later⟩ := List.forall_mem_cons.mp inside
      rw [List.length_cons] at enough
      simp only [explore]
      split
      · exact ih later (by omega)
      · rename_i fresh
        rw [Bool.not_eq_true] at fresh
        split
        · rfl
        · rename_i threads moved
          have places : ∀ u ∈ threads ++ stack, u.place ≤ text.size := by
            intro u mem
            rcases List.mem_append.mp mem with new | old
            · obtain ⟨i, moves⟩ := move_goOn moved new
              exact (moves.goes here).2
            · exact later u old
          -- at most two threads are added, and only where a place is visited for the first time
          apply ih places
          rw [List.length_append]
          cases threads with
          | nil =>
            have := unvisited_insert_le (code.size * (text.size + 1)) visited
              (t.place * code.size + t.pc)
            simp only [List.length_nil]
            omega
          | cons u others =>
            obtain ⟨i, moves⟩ := move_goOn moved List.mem_cons_self
            have pc : t.pc < code.size := (Array.getElem?_eq_some_iff.mp moves.found).1
            have key : t.place * code.size + t.pc < code.size * (text.size + 1) := by
              have : t.place * code.size ≤ text.size * code.size := Nat.mul_le_mul_right _ here
              rw [Nat.mul_comm code.size, Nat.succ_mul]
              omega
            have := unvisited_insert_lt key fresh
            have := move_length moved
            omega

theorem unvisited_le (bound : Nat) (visited : Visited) : unvisited bound visited ≤ bound :=
  Nat.le_trans List.countP_le_length (Nat.le_of_eq List.length_range)

theorem move_congr {code code' : Code} {text : Array Char} {t : Thread}
    (same : code[t.pc]? = code'[t.pc]?) : t.move code text = t.move code' text := by
  simp only [Thread.move, same]

theorem explore_goOn {code : Code} {text : Array Char} {visited : Visited} {t : Thread}
    {threads : List Thread} (fresh : visited.contains (t.key code) = false)
    (moved : t.move code text = .goOn threads) (fuel : Nat) :
    explore code text (fuel + 1) visited [t] =
      explore code text fuel (visited.insert (t.key code) ()) threads := by
  simp only [Thread.key] at fresh ⊢
  simp [explore, fresh, moved]

theorem explore_nothing (code : Code) (text : Array Char) (fuel : Nat) (visited : Visited) :
    (explore code text fuel visited []).1 = none := by
  cases fuel <;> rfl

theorem explore_stuck {code : Code} {text : Array Char} {t : Thread} {threads : List Thread}
    (moved : t.move code text = .goOn threads)
    (stuck : ∀ fuel visited, (explore code text fuel visited threads).1 = none) (fuel : Nat)
    (visited : Visited) : (explore code text fuel visited [t]).1 = none := by
  cases fuel with
  | zero => rfl
  | succ fuel =>
    cases seen : visited.contains (t.key code) with
    | true =>
      simp only [Thread.key] at seen
      simp [explore, seen, explore_nothing]
    | false =>
      rw [explore_goOn seen moved]
      exact stuck fuel _

theorem searchFrom_none {p : Program} {text : Array Char} {places : List Nat}
    (stuck : ∀ place ∈ places, ∀ fuel visited,
      (explore p.code text fuel visited [⟨p.entry, place, []⟩]).1 = none) (visited : Visited) :
    searchFrom p text visited places = none := by
  induction places generalizing visited with
  | nil => rfl
  | cons place rest ih =>
    obtain ⟨here, later⟩ := List.forall_mem_cons.mp stuck
    have none := here (exploreFuel p.code text) visited
    simp only [searchFrom]
    generalize explore p.code text _ visited _ = e at none
    obtain ⟨found, seen⟩ := e
    cases none
    exact ih later seen

theorem searchFrom_first {p : Program} {text : Array Char} {places : List Nat} {place : Nat}
    (stuck : ∀ place ∈ places, ∀ fuel visited,
      (explore p.code text fuel visited [⟨p.entry, place, []⟩]).1 = none) (visited : Visited) :
    searchFrom p text visited (place :: places) =
      (explore p.code text (exploreFuel p.code text) visited [⟨p.entry, place, []⟩]).1 := by
  simp only [searchFrom]
  generalize explore p.code text _ visited _ = e
  obtain ⟨found, seen⟩ := e
  cases found with
  | none => exact searchFrom_none stuck seen
  | some slots => rfl

namespace Tree

theorem anchored_eq {t : Tree} (normal : t.Normal) :
    t.anchored = if t = empty then look .start else concat (look .start :: t.asParts) := by
  have unjoined : Unjoined t.asParts := by
    cases t with
    | concat parts => exact normal.1.unjoined
    | empty => trivial
    | _ => exact ⟨by simp, trivial⟩
  have flat : [look .start, t].flatMap asParts = look .start :: t.asParts := by
    rw [List.flatMap_cons, List.flatMap_cons, List.flatMap_nil, List.append_nil]
    rfl
  have joined : joinLiterals (look .start :: t.asParts) = look .start :: t.asParts := by
    simp only [joinLiterals, joinLiterals_eq unjoined]
  unfold anchored concatenation
  rw [flat, joined]
  cases t with
  | concat parts =>
    cases parts with
    | nil => exact absurd normal.1.several (by simp)
    | cons first rest => rfl
  | _ => rfl

theorem emit_anchored {t : Tree} (normal : t.Normal) (next : Nat) (code : Code) :
    t.anchored.emit next code = push (.look .start (t.emit next code).1) (t.emit next code).2 := by
  rw [anchored_eq normal]
  cases t <;> rfl

end Tree

def Tree.inner (t : Tree) : Emitted := t.emit 1 #[.accept, .save 1 0]

structure Inside (shared : Code) (text : Array Char) (t t' : Thread) : Prop where
  same : t = t'
  pc : t.pc < shared.size
  place : t.place ≤ text.size

/-- The code goes on nowhere but in itself. -/
def SelfContained (code : Code) : Prop :=
  ∀ (i : Nat) (instr : Instr), code[i]? = some instr → instr.Targets (· < code.size)

theorem inner_closed (t : Tree) : SelfContained t.inner.2 ∧ t.inner.1 < t.inner.2.size := by
  have grown : Grown (· = 1) (fun _ => True) #[.accept, .save 1 0] t.inner :=
    emit_grown t (fun _ _ => trivial) 1 _
  have size := grown.size
  simp only [List.size_toArray, List.length_cons, List.length_nil] at size
  have small : ∀ n, Within (· = 1) 2 t.inner.2.size n → n < t.inner.2.size := by
    rintro n (rfl | ⟨_, below⟩)
    · omega
    · exact below
  refine ⟨?_, small _ grown.entry⟩
  intro i instr found
  by_cases added : 2 ≤ i
  · exact (grown.targets i instr added found).mono small
  · rw [grown.kept i (by simp only [List.size_toArray, List.length_cons, List.length_nil]; omega)]
      at found
    have low : i = 0 ∨ i = 1 := by omega
    rcases low with rfl | rfl
    · cases found
      trivial
    · cases found
      exact Nat.lt_of_lt_of_le Nat.zero_lt_two size

theorem key_inj {code : Code} {t u : Thread} (inside : t.pc < code.size) (inside' : u.pc < code.size) :
    t.key code = u.key code ↔ t.place = u.place ∧ t.pc = u.pc := by
  unfold Thread.key
  constructor
  · intro keys
    have places : t.place = u.place := by
      have : (t.place * code.size + t.pc) / code.size = (u.place * code.size + u.pc) / code.size := by
        rw [keys]
      rwa [Nat.mul_comm, Nat.mul_add_div (by omega), Nat.div_eq_of_lt inside, Nat.mul_comm,
        Nat.mul_add_div (by omega), Nat.div_eq_of_lt inside'] at this
    rw [places] at keys
    exact ⟨places, by omega⟩
  · rintro ⟨places, pcs⟩
    rw [places, pcs]

theorem shared_simulates {shared code code' : Code} (closed : SelfContained shared)
    (code_shared : ∀ i, i < shared.size → code[i]? = shared[i]?)
    (code'_shared : ∀ i, i < shared.size → code'[i]? = shared[i]?)
    (size : shared.size ≤ code.size) (size' : shared.size ≤ code'.size) (text : Array Char) :
    Simulates code code' text (Inside shared text) where
  key := by
    intro t t' u u' h h'
    cases h.same
    cases h'.same
    have pc := h.pc
    have pc' := h'.pc
    rw [key_inj (by omega) (by omega), key_inj (by omega) (by omega)]
  move := by
    intro t t' h
    cases h.same
    have here := (code_shared t.pc h.pc).trans (code'_shared t.pc h.pc).symm
    rw [← move_congr here]
    cases moved : t.move code text with
    | accept => exact .accept
    | goOn threads =>
      refine .goOn (List.forall₂_same.mpr ?_)
      intro u mem
      obtain ⟨i, moves⟩ := move_goOn moved mem
      have found := moves.found
      rw [code_shared t.pc h.pc] at found
      exact ⟨rfl, moves.target _ (closed _ _ found), (moves.goes h.place).2⟩

theorem ofTree_code (t : Tree) :
    (Program.ofTree t).code = t.inner.2.push (.save 0 t.inner.1) ∧
      (Program.ofTree t).entry = t.inner.2.size :=
  ⟨rfl, rfl⟩

theorem ofTree_anchored {t : Tree} (normal : t.Normal) :
    (Program.ofTree t.anchored).code =
        (t.inner.2.push (.look .start t.inner.1)).push (.save 0 t.inner.2.size) ∧
      (Program.ofTree t.anchored).entry = t.inner.2.size + 1 := by
  obtain ⟨code, entry⟩ := ofTree_code t.anchored
  have front : t.anchored.inner = push (.look .start t.inner.1) t.inner.2 :=
    Tree.emit_anchored normal 1 _
  rw [code, entry, front]
  exact ⟨rfl, by simp [push]⟩

section
variable {t : Tree} (normal : t.Normal) (text : Array Char)
include normal

theorem anchored_entering (place : Nat) :
    Thread.move (Program.ofTree t.anchored).code text
        ⟨(Program.ofTree t.anchored).entry, place, []⟩ =
      .goOn [⟨t.inner.2.size, place, [(0, place)]⟩] := by
  obtain ⟨code, entry⟩ := ofTree_anchored normal
  have found : (Program.ofTree t.anchored).code[t.inner.2.size + 1]? =
      some (.save 0 t.inner.2.size) := by
    rw [code, ← Array.size_push (.look .start t.inner.1), Array.getElem?_push_size]
  simp only [Thread.move, entry, found]

theorem anchored_looking (place : Nat) (slots : Slots) :
    Thread.move (Program.ofTree t.anchored).code text ⟨t.inner.2.size, place, slots⟩ =
      if Look.start.holds (charBefore text place) text[place]?
      then .goOn [⟨t.inner.1, place, slots⟩] else .goOn [] := by
  have found : (Program.ofTree t.anchored).code[t.inner.2.size]? =
      some (.look .start t.inner.1) := by
    rw [(ofTree_anchored normal).1, Array.getElem?_push_lt (by simp), ← Array.getElem?_eq_getElem,
      Array.getElem?_push_size]
  simp only [Thread.move, found]

theorem anchored_stuck {place : Nat} (behind : 0 < place) (inside : place ≤ text.size)
    (fuel : Nat) (visited : Visited) :
    (explore (Program.ofTree t.anchored).code text fuel visited
      [⟨(Program.ofTree t.anchored).entry, place, []⟩]).1 = none := by
  have looks : Look.start.holds (charBefore text place) text[place]? = false := by
    obtain ⟨c, before⟩ : ∃ c, charBefore text place = some c := by
      rw [charBefore, if_neg (by omega)]
      exact ⟨_, Array.getElem?_eq_getElem (by omega)⟩
    simp [Look.holds, before]
  refine explore_stuck (anchored_entering normal text place) ?_ fuel visited
  refine explore_stuck ?_ (explore_nothing _ text)
  rw [anchored_looking normal, looks]
  rfl

end

def Untouched (shared code : Code) (visited : Visited) : Prop :=
  ∀ t : Thread, t.pc < shared.size → visited.contains (t.key code) = false

theorem untouched_start (shared code : Code) : Untouched shared code {} := by
  intro t _
  simp

theorem contains_insert_key {code : Code} {t u : Thread} (inside : t.pc < code.size)
    (inside' : u.pc < code.size) (apart : t.pc ≠ u.pc) (visited : Visited) :
    (visited.insert (t.key code) ()).contains (u.key code) = visited.contains (u.key code) := by
  have : t.key code ≠ u.key code := fun keys => apart ((key_inj inside inside').mp keys).2
  simp [Std.TreeMap.contains_insert, this]

theorem untouched_insert {shared code : Code} {visited : Visited} {t : Thread}
    (outside : shared.size ≤ t.pc) (inside : t.pc < code.size)
    (h : Untouched shared code visited) :
    Untouched shared code (visited.insert (t.key code) ()) := by
  intro u shares
  rw [contains_insert_key inside (by omega) (by omega)]
  exact h u shares

section
variable {t : Tree} (normal : t.Normal) (text : Array Char)

theorem direct_size : (Program.ofTree t).code.size = t.inner.2.size + 1 := by
  simp [(ofTree_code t).1]

theorem direct_first (fuel : Nat) : ∃ visited,
    Untouched t.inner.2 (Program.ofTree t).code visited ∧
      explore (Program.ofTree t).code text (fuel + 1) {} [⟨(Program.ofTree t).entry, 0, []⟩] =
        explore (Program.ofTree t).code text fuel visited [⟨t.inner.1, 0, [(0, 0)]⟩] := by
  obtain ⟨code, entry⟩ := ofTree_code t
  have size := direct_size (t := t)
  have entering : Thread.move (Program.ofTree t).code text ⟨(Program.ofTree t).entry, 0, []⟩ =
      .goOn [⟨t.inner.1, 0, [(0, 0)]⟩] := by
    simp [Thread.move, code, entry]
  refine ⟨_, ?_, explore_goOn (by simp) entering fuel⟩
  exact untouched_insert (Nat.le_of_eq entry.symm) (by simp only [entry]; omega)
    (untouched_start _ _)

theorem direct_fuel (more : Nat) :
    explore (Program.ofTree t).code text (exploreFuel (Program.ofTree t).code text + more) {}
        [⟨(Program.ofTree t).entry, 0, []⟩] =
      explore (Program.ofTree t).code text (exploreFuel (Program.ofTree t).code text) {}
        [⟨(Program.ofTree t).entry, 0, []⟩] := by
  have few := unvisited_le ((Program.ofTree t).code.size * (text.size + 1)) {}
  refine explore_fuel _ _ (by simp) ?_
  rw [exploreFuel, Nat.mul_assoc, List.length_singleton]
  omega

include normal

theorem anchored_size : (Program.ofTree t.anchored).code.size = t.inner.2.size + 2 := by
  simp [(ofTree_anchored normal).1]

theorem anchored_first (fuel : Nat) : ∃ visited,
    Untouched t.inner.2 (Program.ofTree t.anchored).code visited ∧
      explore (Program.ofTree t.anchored).code text (fuel + 1 + 1) {}
          [⟨(Program.ofTree t.anchored).entry, 0, []⟩] =
        explore (Program.ofTree t.anchored).code text fuel visited
          [⟨t.inner.1, 0, [(0, 0)]⟩] := by
  have entry := (ofTree_anchored normal).2
  have size := anchored_size normal
  have looking := anchored_looking normal text 0 [(0, 0)]
  rw [if_pos (by rfl)] at looking
  rw [explore_goOn (by simp) (anchored_entering normal text 0)]
  refine ⟨_, ?_, explore_goOn ?_ looking fuel⟩
  · refine untouched_insert (Nat.le_refl _) (by simp only; omega) ?_
    exact untouched_insert (by simp only [entry]; omega) (by simp only [entry]; omega)
      (untouched_start _ _)
  · rw [contains_insert_key (by simp only [entry]; omega) (by simp only; omega) (by simp [entry])]
    simp

theorem shared_explore (fuel : Nat) {visited visited' : Visited}
    (fresh : Untouched t.inner.2 (Program.ofTree t.anchored).code visited)
    (fresh' : Untouched t.inner.2 (Program.ofTree t).code visited') :
    (explore (Program.ofTree t.anchored).code text fuel visited [⟨t.inner.1, 0, [(0, 0)]⟩]).1 =
      (explore (Program.ofTree t).code text fuel visited' [⟨t.inner.1, 0, [(0, 0)]⟩]).1 := by
  obtain ⟨closed, first⟩ := inner_closed t
  have size := anchored_size normal
  have size' := direct_size (t := t)
  have sim : Simulates (Program.ofTree t.anchored).code (Program.ofTree t).code text
      (Inside t.inner.2 text) := by
    refine shared_simulates closed ?_ ?_ (by omega) (by omega) text
    · intro i inside
      rw [(ofTree_anchored normal).1, Array.getElem?_push, if_neg (by simp; omega),
        Array.getElem?_push, if_neg (by omega)]
    · intro i inside
      rw [(ofTree_code t).1, Array.getElem?_push, if_neg (by omega)]
  have same : VisitedAlike (Program.ofTree t.anchored).code (Program.ofTree t).code
      (Inside t.inner.2 text) visited visited' := by
    rintro u _ ⟨rfl, pc, _⟩
    exact (fresh u pc).trans (fresh' u pc).symm
  have start : Inside t.inner.2 text ⟨t.inner.1, 0, [(0, 0)]⟩ ⟨t.inner.1, 0, [(0, 0)]⟩ :=
    ⟨rfl, first, Nat.zero_le _⟩
  rcases (explore_simulates sim fuel same (.cons start .nil)).1 with
    ⟨none, none'⟩ | ⟨u, u', related, found, found'⟩
  · rw [none, none']
  · rw [found, found', related.same]

end

/-- Searching with an anchored tree finds what the tree itself does at the start of the text. -/
theorem anchored_search {t : Tree} (normal : t.Normal) (text : Text) :
    searchFrom (.ofTree t.anchored) text.toArray {} (List.range (text.length + 1)) =
      t.matchSlots? text := by
  have length : text.toArray.size = text.length := List.size_toArray
  rw [List.range_succ_eq_map, searchFrom_first ?late, Tree.matchSlots?]
  case late =>
    intro place mem
    obtain ⟨n, inside, rfl⟩ := List.mem_map.mp mem
    have := List.mem_range.mp inside
    exact anchored_stuck normal text.toArray (Nat.succ_pos n) (by omega)
  have steps : exploreFuel (Program.ofTree t.anchored).code text.toArray =
      2 * (t.inner.2.size + 2) * (text.length + 1) + 1 + 1 := by
    rw [exploreFuel, anchored_size normal, length]
  have steps' : exploreFuel (Program.ofTree t).code text.toArray + (2 * text.length + 1) =
      2 * (t.inner.2.size + 2) * (text.length + 1) + 1 := by
    rw [exploreFuel, direct_size, length]
    simp only [Nat.mul_add, Nat.add_mul]
    omega
  obtain ⟨visited, fresh, front⟩ := anchored_first normal text.toArray
    (2 * (t.inner.2.size + 2) * (text.length + 1))
  obtain ⟨visited', fresh', front'⟩ := direct_first (t := t) text.toArray
    (2 * (t.inner.2.size + 2) * (text.length + 1))
  rw [steps, front, ← direct_fuel text.toArray (2 * text.length + 1), steps', front']
  exact shared_explore normal text.toArray _ fresh fresh'

end TextCursor.Pattern
