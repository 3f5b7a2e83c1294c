import TextCursor.Proofs.Pattern.Normal
import TextCursor.Proofs.Pattern.Reread
/-!
Which trees are read back as they were written. The signs of a tree are taken for what they stand
for unless an option stands right behind an operator without a mark. Of a fixed count the mark is not
written, and branches that only differed in such marks then begin alike, which the reader pulls in
front. A tree without either is read back as it was, but for those marks and the numbers of its
groups.
-/
namespace TextCursor.Pattern

/-- Whether a repetition is written as its bounds alone. -/
def unmarked (count : Count) (greedy : Bool) : Bool := greedy || count.most == some count.least

namespace Tree

mutual

def settled : Tree → Tree
  | repetition count greedy sub => repetition count (unmarked count greedy) sub.settled
  | capture index name sub => capture index name sub.settled
  | concat parts => concat (settledAll parts)
  | alternation branches => alternation (settledAll branches)
  | t => t

def settledAll : List Tree → List Tree
  | [] => []
  | t :: rest => t.settled :: settledAll rest

end

mutual

def renumbered (n : Nat) : Tree → Tree
  | repetition count greedy sub => repetition count greedy (sub.renumbered n)
  | capture _ name sub => capture (n + 1) name (sub.renumbered (n + 1))
  | concat parts => concat (renumberedAll n parts)
  | alternation branches => alternation (renumberedAll n branches)
  | t => t

def renumberedAll (n : Nat) : List Tree → List Tree
  | [] => []
  | t :: rest => t.renumbered n :: renumberedAll (n + t.captures.length) rest

end

def firstPart? : Tree → Option Tree
  | concat (t :: _) => some t
  | _ => none

def startAlike : List Tree → Bool
  | [] => false
  | t :: rest => t.firstPart?.isSome && rest.all fun u => u.firstPart? = t.firstPart?

def isUnmarked : Tree → Bool
  | repetition count greedy _ => unmarked count greedy
  | _ => false

mutual

/-- Whether no option stands right behind an operator without a mark, and no branches begin alike
once all fixed counts are greedy. -/
def faithful : Tree → Bool
  | repetition count _ sub => !(count = .option && sub.isUnmarked) && sub.faithful
  | capture _ _ sub => sub.faithful
  | concat parts => allFaithful parts
  | alternation branches => !startAlike (settledAll branches) && allFaithful branches
  | _ => true

def allFaithful : List Tree → Bool
  | [] => true
  | t :: rest => t.faithful && allFaithful rest

end

def root : Tree → Tree
  | repetition _ _ _ => repetition .option true empty
  | capture _ _ _ => capture 0 none empty
  | concat _ => concat []
  | alternation _ => alternation []
  | t => t

theorem isLiteral_root (t : Tree) : t.root.isLiteral = t.isLiteral := by
  cases t <;> rfl

theorem singleChar?_root (t : Tree) : t.root.singleChar? = t.singleChar? := by
  cases t <;> rfl

theorem set?_root (t : Tree) : t.root.set? = t.set? := by
  cases t <;> rfl

theorem asParts_root (t : Tree) : t.asParts = [t] ↔ t.root ≠ empty ∧ t.root ≠ concat [] := by
  cases t with
  | concat parts =>
    simp only [asParts, root, ne_eq, not_true_eq_false, and_false, iff_false]
    intro loop
    have size := congrArg sizeOf loop
    simp at size
    omega
  | _ => simp [asParts, root]

theorem asBranches_root (t : Tree) : t.asBranches = [t] ↔ t.root ≠ alternation [] := by
  cases t with
  | alternation branches =>
    simp only [asBranches, root, ne_eq, not_true_eq_false, iff_false]
    intro loop
    have size := congrArg sizeOf loop
    simp at size
    omega
  | _ => simp [asBranches, root]

theorem unjoined_root (ts : List Tree) : Unjoined (ts.map root) ↔ Unjoined ts := by
  induction ts with
  | nil => rfl
  | cons t rest ih =>
    have next : (rest.map root).head?.any isLiteral = rest.head?.any isLiteral := by
      cases rest <;> simp [isLiteral_root]
    simp only [List.map_cons, Unjoined, isLiteral_root, next, ih]

section
variable {as bs : List Tree}

theorem flat_roots {P : Tree → Prop} (same : as.map root = bs.map root)
    (h : ∀ a ∈ as, P a.root) : ∀ b ∈ bs, P b.root := by
  intro b mem
  have : b.root ∈ as.map root := same ▸ List.mem_map_of_mem mem
  obtain ⟨a, given, root⟩ := List.mem_map.mp this
  exact root ▸ h a given

theorem normalParts_roots (same : as.map root = bs.map root) (normal : NormalParts as) :
    NormalParts bs where
  several := by
    have := congrArg List.length same
    simp only [List.length_map] at this
    exact this ▸ normal.several
  flat := by
    intro b mem
    exact (asParts_root b).mpr (flat_roots same (P := fun r => r ≠ empty ∧ r ≠ concat [])
      (fun a given => (asParts_root a).mp (normal.flat a given)) b mem)
  unjoined := by
    rw [← unjoined_root, ← same, unjoined_root]
    exact normal.unjoined

theorem normalBranches_roots (same : as.map root = bs.map root) (normal : NormalBranches as) :
    NormalBranches bs where
  several := by
    have := congrArg List.length same
    simp only [List.length_map] at this
    exact this ▸ normal.several
  flat := by
    intro b mem
    exact (asBranches_root b).mpr (flat_roots same (P := fun r => r ≠ alternation [])
      (fun a given => (asBranches_root a).mp (normal.flat a given)) b mem)
  chars := by
    have outside : singleChar? ∘ root = singleChar? := funext singleChar?_root
    rw [← outside, ← List.mapM_map, ← same, List.mapM_map, outside]
    exact normal.chars
  sets := by
    have outside : set? ∘ root = set? := funext set?_root
    rw [← outside, ← List.mapM_map, ← same, List.mapM_map, outside]
    exact normal.sets

end

theorem settled_root (t : Tree) : t.settled.root = t.root := by
  cases t <;> rfl

theorem renumbered_root (n : Nat) (t : Tree) : (t.renumbered n).root = t.root := by
  cases t <;> rfl

theorem renumberedAll_settledAll_root (n : Nat) (ts : List Tree) :
    (renumberedAll n (settledAll ts)).map root = ts.map root := by
  induction ts generalizing n with
  | nil => rfl
  | cons t rest ih => simp [settledAll, renumberedAll, renumbered_root, settled_root, ih]

mutual

theorem settled_captures : (t : Tree) → t.settled.captures = t.captures
  | empty => rfl
  | literal _ => rfl
  | codes _ _ => rfl
  | look _ => rfl
  | repetition _ _ sub => settled_captures sub
  | capture index name sub => congrArg ((index, name) :: ·) (settled_captures sub)
  | concat parts => settledAll_captures parts
  | alternation branches => settledAll_captures branches

theorem settledAll_captures : (ts : List Tree) → capturesAll (settledAll ts) = capturesAll ts
  | [] => rfl
  | t :: rest => by simp only [settledAll, capturesAll, settled_captures t, settledAll_captures rest]

end

mutual

theorem renumbered_numbers : (t : Tree) → ∀ n,
    (t.renumbered n).captures.map (·.1) = List.range' (n + 1) t.captures.length
  | empty, _ => rfl
  | literal _, _ => rfl
  | codes _ _, _ => rfl
  | look _, _ => rfl
  | repetition _ _ sub, n => renumbered_numbers sub n
  | capture _ _ sub, n => by
    simp only [renumbered, captures, List.map_cons, List.length_cons, List.range'_succ,
      renumbered_numbers sub (n + 1)]
  | concat parts, n => renumberedAll_numbers parts n
  | alternation branches, n => renumberedAll_numbers branches n

theorem renumberedAll_numbers : (ts : List Tree) → ∀ n,
    (capturesAll (renumberedAll n ts)).map (·.1) = List.range' (n + 1) (capturesAll ts).length
  | [], _ => rfl
  | t :: rest, n => by
    have next : n + t.captures.length + 1 = n + 1 + 1 * t.captures.length := by omega
    simp only [renumberedAll, capturesAll, List.map_append, List.length_append,
      renumbered_numbers t n, renumberedAll_numbers rest, next, List.range'_append]

end

theorem renumbered_captures_length (n : Nat) (t : Tree) :
    (t.renumbered n).captures.length = t.captures.length := by
  have := congrArg List.length (renumbered_numbers t n)
  simpa using this

mutual

theorem renumbered_uncaptured : (t : Tree) → t.captures = [] → ∀ n, t.renumbered n = t
  | empty, _, _ => rfl
  | literal _, _, _ => rfl
  | codes _ _, _, _ => rfl
  | look _, _, _ => rfl
  | repetition count greedy sub, bare, n =>
    congrArg (repetition count greedy) (renumbered_uncaptured sub bare n)
  | capture _ _ _, bare, _ => by simp [captures] at bare
  | concat parts, bare, n => congrArg concat (renumberedAll_uncaptured parts bare n)
  | alternation branches, bare, n =>
    congrArg alternation (renumberedAll_uncaptured branches bare n)

theorem renumberedAll_uncaptured : (ts : List Tree) → capturesAll ts = [] → ∀ n,
    renumberedAll n ts = ts
  | [], _, _ => rfl
  | t :: rest, bare, n => by
    obtain ⟨here, later⟩ := List.append_eq_nil_iff.mp bare
    simp only [renumberedAll, renumbered_uncaptured t here, renumberedAll_uncaptured rest later]

end

mutual

theorem onlyEmpty_settled : (t : Tree) → t.settled.onlyEmpty = t.onlyEmpty
  | empty => rfl
  | literal _ => rfl
  | codes _ _ => rfl
  | look _ => rfl
  | repetition _ _ sub => onlyEmpty_settled sub
  | capture _ _ sub => onlyEmpty_settled sub
  | concat parts => allOnlyEmpty_settled parts
  | alternation branches => allOnlyEmpty_settled branches

theorem allOnlyEmpty_settled : (ts : List Tree) → allOnlyEmpty (settledAll ts) = allOnlyEmpty ts
  | [] => rfl
  | t :: rest => by
    simp only [settledAll, allOnlyEmpty, onlyEmpty_settled t, allOnlyEmpty_settled rest]

end

mutual

theorem onlyEmpty_renumbered : (t : Tree) → ∀ n, (t.renumbered n).onlyEmpty = t.onlyEmpty
  | empty, _ => rfl
  | literal _, _ => rfl
  | codes _ _, _ => rfl
  | look _, _ => rfl
  | repetition _ _ sub, n => onlyEmpty_renumbered sub n
  | capture _ _ sub, n => onlyEmpty_renumbered sub (n + 1)
  | concat parts, n => allOnlyEmpty_renumbered parts n
  | alternation branches, n => allOnlyEmpty_renumbered branches n

theorem allOnlyEmpty_renumbered : (ts : List Tree) → ∀ n,
    allOnlyEmpty (renumberedAll n ts) = allOnlyEmpty ts
  | [], _ => rfl
  | t :: rest, n => by
    simp only [renumberedAll, allOnlyEmpty, onlyEmpty_renumbered t,
      allOnlyEmpty_renumbered rest]

end

theorem startAlike_iff (ts : List Tree) :
    startAlike ts = true ↔ ts ≠ [] ∧ ∃ h, ∀ t ∈ ts, t.firstPart? = some h := by
  cases ts with
  | nil => simp [startAlike]
  | cons t rest =>
    simp only [startAlike, Bool.and_eq_true, Option.isSome_iff_exists, List.all_eq_true,
      decide_eq_true_eq, ne_eq, reduceCtorEq, not_false_eq_true, true_and, List.forall_mem_cons]
    constructor
    · rintro ⟨⟨h, first⟩, others⟩
      exact ⟨h, first, fun u mem => (others u mem).trans first⟩
    · rintro ⟨h, first, others⟩
      exact ⟨⟨h, first⟩, fun u mem => (others u mem).trans first.symm⟩

theorem commonStart_head {a b : List Tree} {h : Tree} (start : (commonStart a b).head? = some h) :
    a.head? = some h ∧ b.head? = some h := by
  cases a with
  | nil => simp [commonStart] at start
  | cons t rest =>
    cases b with
    | nil => simp [commonStart] at start
    | cons u more =>
      by_cases same : t = u
      · subst same
        simpa [commonStart] using start
      · simp [commonStart, same] at start

theorem foldl_commonStart_head {first : List Tree} {others : List (List Tree)} {h : Tree}
    (start : (others.foldl commonStart first).head? = some h) :
    ∀ parts ∈ first :: others, parts.head? = some h := by
  induction others generalizing first with
  | nil => simpa using start
  | cons next rest ih =>
    obtain ⟨both, later⟩ := List.forall_mem_cons.mp (ih start)
    obtain ⟨left, right⟩ := commonStart_head both
    exact List.forall_mem_cons.mpr ⟨left, List.forall_mem_cons.mpr ⟨right, later⟩⟩

theorem sharedStart_nil {branches : List Tree} (apart : startAlike branches = false) :
    sharedStart branches = [] := by
  unfold sharedStart
  split
  · rename_i first others given
    cases start : others.foldl commonStart first with
    | nil => rfl
    | cons h rest =>
      have heads := foldl_commonStart_head (h := h) (by rw [start]; rfl)
      have alike : startAlike branches = true := by
        rw [startAlike_iff, mapM_parts?_eq given]
        refine ⟨by simp, h, ?_⟩
        intro t mem
        obtain ⟨parts, member, rfl⟩ := List.mem_map.mp mem
        have head := heads parts member
        cases parts with
        | nil => cases head
        | cons t rest => exact head
      rw [alike] at apart
      cases apart
  · rfl

theorem firstPart?_renumbered {n : Nat} {t h : Tree} (first : (t.renumbered n).firstPart? = some h) :
    ∃ p, t.firstPart? = some p ∧ h = p.renumbered n ∧ p.captures.length ≤ t.captures.length := by
  cases t with
  | concat parts =>
    cases parts with
    | nil => cases first
    | cons p rest =>
      cases first
      refine ⟨p, rfl, rfl, ?_⟩
      simp only [captures, capturesAll, List.length_append]
      omega
  | _ => cases first

theorem firstPart?_bare {h : Tree} (bare : h.captures = []) (ts : List Tree) (n : Nat)
    (all : ∀ t ∈ renumberedAll n ts, t.firstPart? = some h) : ∀ t ∈ ts, t.firstPart? = some h := by
  induction ts generalizing n with
  | nil => simp
  | cons t rest ih =>
    obtain ⟨here, later⟩ := List.forall_mem_cons.mp all
    obtain ⟨p, first, same, _⟩ := firstPart?_renumbered here
    have none : p.captures = [] := by
      rw [← List.length_eq_zero_iff, ← renumbered_captures_length n, ← same, bare]
      rfl
    rw [renumbered_uncaptured p none n] at same
    exact List.forall_mem_cons.mpr ⟨same ▸ first, ih _ later⟩

/-- Parts that hold groups differ once they are numbered in order, so numbering makes no branches
alike. -/
theorem startAlike_renumbered {n : Nat} {ts : List Tree} (several : 2 ≤ ts.length)
    (apart : startAlike ts = false) : startAlike (renumberedAll n ts) = false := by
  rw [← Bool.not_eq_true] at apart ⊢
  intro alike
  obtain ⟨_, h, all⟩ := (startAlike_iff _).mp alike
  apply apart
  match ts, several with
  | t :: u :: rest, _ =>
    have one : (t.renumbered n).firstPart? = some h := all _ List.mem_cons_self
    have two : (u.renumbered (n + t.captures.length)).firstPart? = some h :=
      all _ (List.mem_cons_of_mem _ List.mem_cons_self)
    obtain ⟨p, _, first, fits⟩ := firstPart?_renumbered one
    obtain ⟨q, _, second, _⟩ := firstPart?_renumbered two
    have numbers := renumbered_numbers p n
    have others := renumbered_numbers q (n + t.captures.length)
    rw [← first] at numbers
    rw [← second, numbers] at others
    -- two branches number the groups of the shared part from different numbers on
    have bare : h.captures = [] := by
      rw [← List.length_eq_zero_iff, first, renumbered_captures_length]
      have length := congrArg List.length others
      simp only [List.length_range'] at length
      by_cases empty : p.captures.length = 0
      · exact empty
      · obtain ⟨k, more⟩ := Nat.exists_eq_succ_of_ne_zero empty
        rw [← length, more, List.range'_succ, List.range'_succ] at others
        have := (List.cons.inj others).1
        omega
    rw [startAlike_iff]
    exact ⟨by simp, h, firstPart?_bare bare _ n all⟩

theorem under_cons (t : Tree) (count : Count) (greedy : Bool) (behind : List Count)
    (marks : unmarked count greedy = true → behind.head? ≠ some .option) :
    t.under (signs count greedy ++ behind) =
      (repeated count (unmarked count greedy) t).under behind := by
  have read : operators (signs count greedy ++ behind) =
      ⟨count, unmarked count greedy⟩ :: operators behind := by
    by_cases plain : unmarked count greedy = true
    · have single : signs count greedy = [count] := if_pos plain
      rw [single, plain]
      cases behind with
      | nil => rfl
      | cons next rest =>
        have : next ≠ .option := by simpa using marks plain
        simp [operators, this]
    · have both : signs count greedy = [count, .option] := if_neg plain
      have marked : unmarked count greedy = false := by simpa using plain
      rw [both, marked]
      simp [operators]
  unfold under
  rw [read]
  rfl

theorem repeated_eq {count : Count} {sub : Tree} (normal : NormalRepetition count sub)
    (greedy : Bool) : repeated count greedy sub = repetition count greedy sub := by
  have capped : capCount count sub = count := by
    unfold capCount
    split
    · rename_i only
      rw [normal.option only]
      rfl
    · rfl
  simp only [repeated, capped, normal.notNever, normal.notOnce, if_false]

theorem normalRepetition_onlyEmpty {count : Count} {sub sub' : Tree}
    (normal : NormalRepetition count sub) (same : sub'.onlyEmpty = sub.onlyEmpty) :
    NormalRepetition count sub' :=
  ⟨normal.bounded, normal.notNever, normal.notOnce, fun only => normal.option (same ▸ only)⟩

theorem normalParts_renumbered {parts : List Tree} (normal : NormalParts parts) (n : Nat) :
    NormalParts (renumberedAll n (settledAll parts)) :=
  normalParts_roots (renumberedAll_settledAll_root n parts).symm normal

theorem normalBranches_renumbered {branches : List Tree} (normal : NormalBranches branches)
    (n : Nat) : NormalBranches (renumberedAll n (settledAll branches)) :=
  normalBranches_roots (renumberedAll_settledAll_root n branches).symm normal

theorem settledAll_length (ts : List Tree) : (settledAll ts).length = ts.length := by
  induction ts with
  | nil => rfl
  | cons t rest ih => simp [settledAll, ih]

mutual

/-- A faithful tree is read back as it was, its fixed counts greedy and its groups numbered anew. -/
theorem reread_faithful : (t : Tree) → t.Normal → t.faithful = true → ∀ n behind,
    (t.isUnmarked = true → behind.head? ≠ some .option) →
      t.reread n behind = (t.settled.renumbered n).under behind
  | empty, _, _, _, _, _ => rfl
  | literal _, _, _, _, _, _ => rfl
  | codes _ _, _, _, _, _, _ => rfl
  | look _, _, _, _, _, _ => rfl
  | repetition count greedy sub, normal, faithful, n, behind, marks => by
    simp only [Tree.faithful, Bool.and_eq_true, Bool.not_eq_true', Bool.and_eq_false_iff,
      decide_eq_false_iff_not] at faithful
    obtain ⟨apart, inner⟩ := faithful
    -- what the body sees behind it are the signs of this repetition
    have next : sub.isUnmarked = true → (signs count greedy ++ behind).head? ≠ some .option := by
      intro plain
      have other : count ≠ .option := by simpa [plain] using apart
      unfold signs
      split <;> simpa using other
    have same : (sub.settled.renumbered n).onlyEmpty = sub.onlyEmpty := by
      rw [onlyEmpty_renumbered, onlyEmpty_settled]
    rw [reread, reread_faithful sub normal.2 inner n _ next, under_cons _ _ _ _ marks,
      repeated_eq (normalRepetition_onlyEmpty normal.1 same)]
    rfl
  | capture index name sub, normal, faithful, n, behind, _ => by
    rw [reread, reread_faithful sub normal.2 faithful (n + 1) [] (by simp)]
    rfl
  | concat parts, normal, faithful, n, behind, _ => by
    rw [reread, rereadAll_faithful parts normal.2 faithful n,
      concatenation_eq (normalParts_renumbered normal.1 n)]
    rfl
  | alternation branches, normal, faithful, n, behind, _ => by
    simp only [Tree.faithful, Bool.and_eq_true, Bool.not_eq_true'] at faithful
    have several : 2 ≤ (settledAll branches).length := by
      rw [settledAll_length]
      exact normal.1.several
    rw [reread, rereadAll_faithful branches normal.2 faithful.2 n,
      anyOf_eq (normalBranches_renumbered normal.1 n)
        (sharedStart_nil (startAlike_renumbered several faithful.1))]
    rfl

theorem rereadAll_faithful : (ts : List Tree) → AllNormal ts → allFaithful ts = true → ∀ n,
    rereadAll n ts = renumberedAll n (settledAll ts)
  | [], _, _, _ => rfl
  | t :: rest, normal, faithful, n => by
    simp only [allFaithful, Bool.and_eq_true] at faithful
    rw [rereadAll, reread_faithful t normal.1 faithful.1 n [] (by simp), under_nil,
      rereadAll_faithful rest normal.2 faithful.2, settledAll, renumberedAll, settled_captures]

end

end Tree

end TextCursor.Pattern
