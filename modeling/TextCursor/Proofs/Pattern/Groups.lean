import TextCursor.Proofs.Pattern.Meaning
import Mathlib.Data.List.Forall2
/-!
What becomes of capture groups. Lowering keeps each with what stands inside, in the order in which
they open, but for those under a repetition of no rounds: such a repetition is nothing, and its
groups are gone with it. Reading a written tree again numbers what is left anew. So the groups of a
compiled pattern are the kept groups of its source, each by its rank among them.
-/
namespace TextCursor.Pattern

structure Captured (α : Type) where
  number : Nat
  name : Option Text
  inside : α

def Count.never : Count := ⟨0, some 0⟩

def GroupKind.held (kind : GroupKind) (sub : Ast) : List (Captured Ast) :=
  match kind with
  | .capture index name => [⟨index, name, sub⟩]
  | .plain _ => []

mutual

/-- The capture groups of a source in order, under repetitions of the given kind only. -/
def Ast.capturedUnder (kind : Count → Bool) : Ast → List (Captured Ast)
  | repetition _ count _ sub => if kind count then sub.capturedUnder kind else []
  | group _ g sub => g.held sub ++ sub.capturedUnder kind
  | alternation _ branches => Ast.capturedUnderAll kind branches
  | concat _ parts => Ast.capturedUnderAll kind parts
  | _ => []

def Ast.capturedUnderAll (kind : Count → Bool) : List Ast → List (Captured Ast)
  | [] => []
  | a :: rest => a.capturedUnder kind ++ Ast.capturedUnderAll kind rest

end

def Ast.captured (a : Ast) : List (Captured Ast) := a.capturedUnder fun _ => true

def Ast.kept (a : Ast) : List (Captured Ast) := a.capturedUnder fun count => count ≠ .never

mutual

def Tree.captured : Tree → List (Captured Tree)
  | repetition _ _ sub => sub.captured
  | capture index name sub => ⟨index, name, sub⟩ :: sub.captured
  | concat parts => Tree.capturedAll parts
  | alternation branches => Tree.capturedAll branches
  | _ => []

def Tree.capturedAll : List Tree → List (Captured Tree)
  | [] => []
  | t :: rest => t.captured ++ Tree.capturedAll rest

end

def Captured.label {α : Type} (g : Captured α) : Nat × Option Text := (g.number, g.name)

namespace Tree

mutual

theorem captured_labels : (t : Tree) → t.captured.map Captured.label = t.captures
  | empty => rfl
  | literal _ => rfl
  | codes _ _ => rfl
  | look _ => rfl
  | repetition _ _ sub => captured_labels sub
  | capture index name sub => congrArg ((index, name) :: ·) (captured_labels sub)
  | concat parts => capturedAll_labels parts
  | alternation branches => capturedAll_labels branches

theorem capturedAll_labels : (ts : List Tree) → (capturedAll ts).map Captured.label = capturesAll ts
  | [] => rfl
  | t :: rest => by
    rw [capturedAll, capturesAll, List.map_append, captured_labels t, capturedAll_labels rest]

end

theorem capturedAll_append (a b : List Tree) : capturedAll (a ++ b) = capturedAll a ++ capturedAll b := by
  induction a with
  | nil => rfl
  | cons t rest ih => simp [capturedAll, ih]

theorem capturedAll_nil {ts : List Tree} (none : capturesAll ts = []) : capturedAll ts = [] := by
  rw [← capturedAll_labels] at none
  exact List.map_eq_nil_iff.mp none

theorem captured_nil {t : Tree} (none : t.captures = []) : t.captured = [] := by
  rw [← captured_labels] at none
  exact List.map_eq_nil_iff.mp none

theorem capCount_never {count : Count} (rounds : count ≠ .never) (sub : Tree) :
    capCount count sub ≠ .never := by
  obtain ⟨least, most⟩ := count
  unfold capCount
  split
  · intro capped
    simp only [Count.never, Count.mk.injEq, Option.some.injEq] at capped
    cases most with
    | none => simp at capped
    | some most =>
      simp only [Option.map_some, Option.getD_some] at capped
      have zero : least = 0 ∧ most = 0 := by omega
      exact rounds (by rw [zero.1, zero.2, Count.never])
  · exact rounds

theorem repeated_captured {count : Count} (rounds : count ≠ .never) (greedy : Bool) (sub : Tree) :
    (repeated count greedy sub).captured = sub.captured := by
  simp only [repeated]
  split
  · rename_i never
    exact absurd never (capCount_never rounds sub)
  · split
    · rfl
    · rfl

theorem repeated_never (greedy : Bool) (sub : Tree) : repeated .never greedy sub = empty := by
  have capped : capCount .never sub = .never := by
    unfold capCount
    split
    · rfl
    · rfl
  simp only [repeated, capped]
  rfl

theorem under_captured (t : Tree) {behind : List Count} (rounds : ∀ c ∈ behind, c ≠ .never) :
    (t.under behind).captured = t.captured := by
  have all : ∀ o ∈ operators behind, o.count ≠ .never := fun o mem =>
    rounds _ (operators_count behind o mem)
  unfold under
  generalize operators behind = ops at all
  induction ops generalizing t with
  | nil => rfl
  | cons o rest ih =>
    obtain ⟨here, later⟩ := List.forall_mem_cons.mp all
    rw [List.foldl_cons, ih _ later, repeated_captured here]

theorem flatMap_asParts_captured (ts : List Tree) :
    capturedAll (ts.flatMap asParts) = capturedAll ts := by
  have single (t : Tree) : capturedAll t.asParts = t.captured := by
    cases t <;> simp [asParts, capturedAll, captured]
  induction ts with
  | nil => rfl
  | cons t rest ih => simp [capturedAll_append, capturedAll, single, ih]

theorem joinLiterals_captured (ts : List Tree) : capturedAll (joinLiterals ts) = capturedAll ts := by
  induction ts with
  | nil => rfl
  | cons t rest ih =>
    rcases joinLiterals_cons t rest with ⟨a, b, more, rfl, tail, whole⟩ | ⟨_, whole⟩
    · rw [whole]
      rw [tail] at ih
      simpa [capturedAll, captured] using ih
    · rw [whole]
      simp [capturedAll, ih]

theorem concatenation_captured (ts : List Tree) : (concatenation ts).captured = capturedAll ts := by
  rw [← flatMap_asParts_captured ts, ← joinLiterals_captured (ts.flatMap asParts)]
  unfold concatenation
  split
  · rename_i none
    rw [none]
    rfl
  · rename_i t one
    rw [one]
    simp [capturedAll]
  · rfl

theorem flatMap_asBranches_captured (ts : List Tree) :
    capturedAll (ts.flatMap asBranches) = capturedAll ts := by
  have single (t : Tree) : capturedAll t.asBranches = t.captured := by
    cases t <;> simp [asBranches, capturedAll, captured]
  induction ts with
  | nil => rfl
  | cons t rest ih => simp [capturedAll_append, capturedAll, single, ih]

theorem mapM_captured {α : Type} {f : Tree → Option α} (bare : ∀ t a, f t = some a → t.captured = [])
    {ts : List Tree} {as : List α} (all : ts.mapM f = some as) : capturedAll ts = [] := by
  induction ts generalizing as with
  | nil => rfl
  | cons t rest ih =>
    simp only [List.mapM_cons, Option.bind_eq_bind, Option.bind_eq_some_iff] at all
    obtain ⟨a, here, others, there, _⟩ := all
    rw [capturedAll, bare t a here, ih there, List.append_nil]

theorem singleChar?_captured (t : Tree) (c : Char) (single : t.singleChar? = some c) :
    t.captured = [] := by
  cases t <;> first | rfl | cases single

theorem set?_captured (t : Tree) (set : Unicode.CodeSet) (found : t.set? = some set) :
    t.captured = [] := by
  cases t <;> first | rfl | cases found

theorem ofSet_captured (bytes : Bool) (set : Unicode.CodeSet) : (ofSet bytes set).captured = [] :=
  captured_nil (ofSet_captures bytes set)

theorem anyOfDistinct_captured (ts : List Tree) : (anyOfDistinct ts).captured = capturedAll ts := by
  rw [← flatMap_asBranches_captured ts]
  unfold anyOfDistinct
  cases ts.flatMap asBranches with
  | nil => rfl
  | cons t rest =>
    cases rest with
    | nil => simp [capturedAll]
    | cons u rest =>
      simp only
      split
      · rename_i chars single
        rw [ofSet_captured, mapM_captured singleChar?_captured single]
      · split
        · rename_i sets found
          rw [ofSet_captured, mapM_captured set?_captured found]
        · rfl

theorem dropped_captured {common : List Tree} (bare : capturedAll common = []) {pss : List (List Tree)}
    (start : ∀ parts ∈ pss, common <+: parts) :
    capturedAll (pss.map fun parts => concatenation (parts.drop common.length)) =
      capturedAll (pss.map concat) := by
  induction pss with
  | nil => rfl
  | cons parts rest ih =>
    obtain ⟨⟨tail, split⟩, later⟩ := List.forall_mem_cons.mp start
    rw [List.map_cons, List.map_cons, capturedAll, capturedAll, ih later, concatenation_captured, captured,
      ← split, List.drop_left, capturedAll_append, bare, List.nil_append]

theorem shared_bare {common first second : List Tree} {more : List (Nat × Option Text)}
    (start : common <+: first) (start' : common <+: second)
    (distinct : ((capturesAll first ++ (capturesAll second ++ more)).map (·.1)).Nodup) :
    capturesAll common = [] := by
  obtain ⟨tail, rfl⟩ := start
  obtain ⟨tail', rfl⟩ := start'
  rw [capturesAll_append, capturesAll_append] at distinct
  cases same : capturesAll common with
  | nil => rfl
  | cons group rest =>
    rw [same] at distinct
    simp at distinct

/-- Pulling a common start out of branches keeps their groups: no group is in two branches. -/
theorem anyOf_captured {ts : List Tree} (all : ∀ t ∈ ts, t.Normal)
    (distinct : ((capturesAll ts).map (·.1)).Nodup) : (anyOf ts).captured = capturedAll ts := by
  have apart := anyOfDistinct_captured ts
  rcases anyOf_cases ts with same | ⟨first, others, common, whole, start, same⟩
  · rw [same, apart]
  · have normal := anyOfDistinct_normal all
    have fewer := anyOfDistinct_captures ts
    rw [whole] at normal apart fewer
    cases others with
    | nil => exact absurd normal.1.several (by simp)
    | cons second others =>
      have apart' : ((capturesAll first ++ (capturesAll second ++
          capturesAll (others.map concat))).map (·.1)).Nodup := distinct.sublist (fewer.map _)
      have bare : capturedAll common = [] := by
        apply capturedAll_nil
        exact shared_bare (start first (by simp)) (start second (by simp)) apart'
      rw [same, concatenation_captured, capturedAll_append, bare, List.nil_append, capturedAll,
        anyOfDistinct_captured, dropped_captured bare start, ← apart]
      simp [capturedAll, captured]

end Tree

structure Captured.Lowers (source : Captured Ast) (group : Captured Tree) : Prop where
  number : group.number = source.number
  name : group.name = source.name
  inside : ∃ flags flags', source.inside.lower flags = .ok (group.inside, flags')

theorem literal_captured {flags : Flags} {l : Literal} {t : Tree} (h : l.lower flags = .ok t) :
    t.captured = [] :=
  Tree.captured_nil (literal_normal h).2

theorem distinct_append {a b : List (Nat × Option Text)} (distinct : ((a ++ b).map (·.1)).Nodup) :
    (a.map (·.1)).Nodup ∧ (b.map (·.1)).Nodup :=
  ⟨distinct.sublist ((List.sublist_append_left a b).map _),
    distinct.sublist ((List.sublist_append_right a b).map _)⟩

mutual

/-- Lowering keeps the capture groups that are not under a repetition of no rounds, and no others. -/
theorem lower_captured : (a : Ast) → a.Sound → (a.captures.map (·.1)).Nodup →
    ∀ {flags flags' : Flags} {t : Tree}, a.lower flags = .ok (t, flags') →
      List.Forall₂ Captured.Lowers a.kept t.captured
  | .empty _, _, _, _, _, _, h => by
    cases h
    exact .nil
  | .flags _ _, _, _, _, _, _, h => by
    cases h
    exact .nil
  | .literal l, _, _, _, _, _, h => by
    obtain ⟨t, lowered, h⟩ := bind_ok.mp h
    cases h
    rw [literal_captured lowered]
    exact .nil
  | .dot _, _, _, flags, _, _, h => by
    simp only [Ast.lower] at h
    split at h
    · cases h
      rw [Tree.ofSet_captured]
      exact .nil
    · exact absurd h fault_ne_ok
  | .assertion _ _, _, _, _, _, _, h => by
    cases h
    exact .nil
  | .property p, _, _, _, _, _, h => by
    obtain ⟨set, lowered, h⟩ := bind_ok.mp h
    cases h
    rw [Tree.ofSet_captured]
    exact .nil
  | .shorthand p, _, _, _, _, _, h => by
    obtain ⟨set, lowered, h⟩ := bind_ok.mp h
    cases h
    rw [Tree.ofSet_captured]
    exact .nil
  | .bracketed span negated set, _, _, flags, _, _, h => by
    simp only [Ast.lower] at h
    obtain ⟨made, lowered, h⟩ := bind_ok.mp h
    cases h
    rw [Tree.ofSet_captured]
    exact .nil
  | .repetition _ count greedy sub, sound, distinct, _, _, _, h => by
    simp only [Ast.lower, bind_ok, Prod.exists] at h
    obtain ⟨t, flags, lowered, h⟩ := h
    cases h
    have inner := lower_captured sub sound.2 distinct lowered
    by_cases never : count = .never
    · rw [never, Tree.repeated_never]
      exact .nil
    · have entered : (Ast.repetition ‹_› count greedy sub).kept = sub.kept := by
        simp [Ast.kept, Ast.capturedUnder, never]
      rw [entered, Tree.repeated_captured never]
      exact inner
  | .group _ (.capture index name) sub, sound, distinct, flags, _, _, h => by
    simp only [Ast.lower, bind_ok, Prod.exists] at h
    obtain ⟨t, flags', lowered, h⟩ := h
    cases h
    have inner := lower_captured sub sound.2 (distinct_append distinct).2 lowered
    exact .cons ⟨rfl, rfl, flags, flags', lowered⟩ inner
  | .group _ (.plain _) sub, sound, distinct, _, _, _, h => by
    simp only [Ast.lower, bind_ok, Prod.exists] at h
    obtain ⟨t, flags, lowered, h⟩ := h
    cases h
    exact lower_captured sub sound.2 distinct lowered
  | .alternation _ branches, sound, distinct, _, _, _, h => by
    simp only [Ast.lower, bind_ok, Prod.exists] at h
    obtain ⟨ts, flags, lowered, h⟩ := h
    cases h
    obtain ⟨normal, fewer⟩ := lowerAll_normal branches sound lowered
    rw [Tree.anyOf_captured normal (distinct.sublist (fewer.map _))]
    exact lowerAll_captured branches sound distinct lowered
  | .concat _ parts, sound, distinct, _, _, _, h => by
    simp only [Ast.lower, bind_ok, Prod.exists] at h
    obtain ⟨ts, flags, lowered, h⟩ := h
    cases h
    rw [Tree.concatenation_captured]
    exact lowerAll_captured parts sound distinct lowered

theorem lowerAll_captured : (as : List Ast) → Ast.AllSound as →
    ((Ast.capturesAll as).map (·.1)).Nodup → ∀ {flags flags' : Flags} {ts : List Tree},
      Ast.lowerAll flags as = .ok (ts, flags') →
        List.Forall₂ Captured.Lowers (Ast.capturedUnderAll (fun count => count ≠ .never) as)
          (Tree.capturedAll ts)
  | [], _, _, _, _, _, h => by
    cases h
    exact .nil
  | a :: rest, sound, distinct, _, _, _, h => by
    simp only [Ast.lowerAll, bind_ok, Prod.exists] at h
    obtain ⟨t, flags, here, ts, flags', there, h⟩ := h
    cases h
    obtain ⟨left, right⟩ := distinct_append distinct
    exact List.rel_append (lower_captured a sound.1 left here)
      (lowerAll_captured rest sound.2 right there)

end

namespace Tree

theorem signs_rounds {count : Count} (rounds : count ≠ .never) (greedy : Bool) :
    ∀ c ∈ signs count greedy, c ≠ .never := by
  have option : Count.option ≠ .never := by decide
  intro c mem
  unfold signs at mem
  split at mem
  · rw [List.mem_singleton.mp mem]
    exact rounds
  · rcases List.mem_cons.mp mem with rfl | mark
    · exact rounds
    · rw [List.mem_singleton.mp mark]
      exact option

def rereadGroup (n i : Nat) (g : Captured Tree) : Captured Tree :=
  ⟨n + i + 1, g.name, g.inside.reread (n + i + 1) []⟩

theorem rereadGroup_add (n k : Nat) :
    (fun i => rereadGroup n (i + k)) = rereadGroup (n + k) := by
  funext i g
  have same : n + (i + k) + 1 = n + k + i + 1 := by omega
  rw [rereadGroup, rereadGroup, same]

theorem captured_length (t : Tree) : t.captured.length = t.captures.length := by
  rw [← captured_labels, List.length_map]

theorem rereadGroup_numbers (n : Nat) (groups : List (Captured Tree)) :
    (groups.mapIdx (rereadGroup n)).map (·.number) = List.range' (n + 1) groups.length := by
  induction groups generalizing n with
  | nil => rfl
  | cons g rest ih =>
    have later : (fun i => rereadGroup n (i + 1)) = rereadGroup (n + 1) := rereadGroup_add n 1
    rw [List.mapIdx_cons, later, List.map_cons, ih, List.length_cons, List.range'_succ]
    rfl

theorem capturesAll_numbers {ts : List Tree} {n : Nat} {groups : List (Captured Tree)}
    (made : capturedAll ts = groups.mapIdx (rereadGroup n)) :
    (capturesAll ts).map (·.1) = List.range' (n + 1) groups.length := by
  rw [← capturedAll_labels, List.map_map, made, ← rereadGroup_numbers n groups]
  rfl

mutual

/-- The capture groups of a tree that is read back are those of the tree, numbered by rank, each with
what its inside is read back as. -/
theorem reread_captured : (t : Tree) → t.Normal → ∀ n behind, (∀ c ∈ behind, c ≠ .never) →
    (t.reread n behind).captured = t.captured.mapIdx (rereadGroup n)
  | empty, _, _, _, rounds => under_captured empty rounds
  | literal _, _, _, _, rounds => under_captured (literal _) rounds
  | codes _ _, _, _, _, rounds => under_captured (codes _ _) rounds
  | look _, _, _, _, rounds => under_captured (look _) rounds
  | repetition count greedy sub, normal, n, behind, rounds => by
    apply reread_captured sub normal.2
    exact List.forall_mem_append.mpr ⟨signs_rounds normal.1.notNever greedy, rounds⟩
  | capture index name sub, normal, n, behind, rounds => by
    have later : (fun i => rereadGroup n (i + 1)) = rereadGroup (n + 1) := rereadGroup_add n 1
    rw [reread, under_captured _ rounds, captured, captured, List.mapIdx_cons, later,
      reread_captured sub normal.2 (n + 1) [] (by simp)]
    rfl
  | concat parts, normal, n, behind, rounds => by
    rw [reread, under_captured _ rounds, concatenation_captured]
    exact rereadAll_captured parts normal.2 n
  | alternation branches, normal, n, behind, rounds => by
    have inner := rereadAll_captured branches normal.2 n
    have distinct : ((capturesAll (rereadAll n branches)).map (·.1)).Nodup := by
      rw [capturesAll_numbers inner]
      exact List.nodup_range'
    rw [reread, under_captured _ rounds,
      anyOf_captured (rereadAll_normal branches normal.2 n) distinct]
    exact inner

theorem rereadAll_captured : (ts : List Tree) → AllNormal ts → ∀ n,
    capturedAll (rereadAll n ts) = (capturedAll ts).mapIdx (rereadGroup n)
  | [], _, _ => rfl
  | t :: rest, normal, n => by
    rw [rereadAll, capturedAll, capturedAll, List.mapIdx_append, rereadGroup_add,
      reread_captured t normal.1 n [] (by simp), rereadAll_captured rest normal.2, captured_length]

end

end Tree

end TextCursor.Pattern
