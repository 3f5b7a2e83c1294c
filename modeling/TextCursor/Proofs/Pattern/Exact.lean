import TextCursor.Proofs.Pattern.Weight
/-!
Only a faithful tree is read back as it was. Where an option was taken for a mark, or a start pulled in
front of branches, the tree that is read weighs less or prefers otherwise, and nothing around it makes
up for that.
-/
namespace TextCursor.Pattern

namespace Tree

mutual

theorem weight_settled : (t : Tree) → t.settled.weight = t.weight
  | empty => rfl
  | literal _ => rfl
  | codes _ _ => rfl
  | look _ => rfl
  | repetition _ _ sub => congrArg (1 + ·) (weight_settled sub)
  | capture _ _ sub => congrArg (1 + ·) (weight_settled sub)
  | concat parts => weightAll_settled parts
  | alternation branches => congrArg (1 + ·) (weightAll_settled branches)

theorem weightAll_settled : (ts : List Tree) → weightAll (settledAll ts) = weightAll ts
  | [] => rfl
  | t :: rest => by simp only [settledAll, weightAll, weight_settled t, weightAll_settled rest]

end

mutual

theorem weight_renumbered : (t : Tree) → ∀ n, (t.renumbered n).weight = t.weight
  | empty, _ => rfl
  | literal _, _ => rfl
  | codes _ _, _ => rfl
  | look _, _ => rfl
  | repetition _ _ sub, n => congrArg (1 + ·) (weight_renumbered sub n)
  | capture _ _ sub, n => congrArg (1 + ·) (weight_renumbered sub (n + 1))
  | concat parts, n => weightAll_renumbered parts n
  | alternation branches, n => congrArg (1 + ·) (weightAll_renumbered branches n)

theorem weightAll_renumbered : (ts : List Tree) → ∀ n,
    weightAll (renumberedAll n ts) = weightAll ts
  | [], _ => rfl
  | t :: rest, n => by
    simp only [renumberedAll, weightAll, weight_renumbered t, weightAll_renumbered rest]

end

theorem under_light {made t : Tree} (less : made.weight ≤ t.weight)
    (kind : made.weight = t.weight → made.root = t.root) (behind : List Count) :
    (made.under behind).weight ≤ t.weight + (operators behind).length ∧
      ((made.under behind).weight = t.weight + (operators behind).length →
        (made.under behind).root = if behind = [] then t.root else repetition .option true empty) := by
  have folded := weight_foldl (operators behind) made
  refine ⟨Nat.le_trans folded (by omega), fun same => ?_⟩
  unfold under at same ⊢
  by_cases bare : behind = []
  · subst bare
    exact kind same
  · rw [if_neg bare]
    exact root_foldl _ made (operators_nonempty bare) (by omega)

mutual

/-- Read back, a tree weighs no more, and if no less it is of the same kind. -/
theorem reread_light : (t : Tree) → t.Normal → ∀ n behind,
    (t.reread n behind).weight ≤ t.weight + (operators behind).length ∧
      ((t.reread n behind).weight = t.weight + (operators behind).length →
        (t.reread n behind).root = if behind = [] then t.root else repetition .option true empty)
  | empty, _, _, behind => under_light (Nat.le_refl _) (fun _ => rfl) behind
  | literal _, _, _, behind => under_light (Nat.le_refl _) (fun _ => rfl) behind
  | codes _ _, _, _, behind => under_light (Nat.le_refl _) (fun _ => rfl) behind
  | look _, _, _, behind => under_light (Nat.le_refl _) (fun _ => rfl) behind
  | repetition count greedy sub, normal, n, behind => by
    obtain ⟨less, kind⟩ := reread_light sub normal.2 n (signs count greedy ++ behind)
    have fewer := operators_signs count greedy behind
    have some : signs count greedy ++ behind ≠ [] := by
      unfold signs
      split <;> simp
    rw [if_neg some] at kind
    refine ⟨by simp only [reread, weight]; omega, fun same => ?_⟩
    simp only [reread, weight] at same ⊢
    rw [kind (by omega)]
    split <;> rfl
  | capture index name sub, normal, n, behind => by
    have inner := (reread_light sub normal.2 (n + 1) []).1
    have less : (capture (n + 1) name (sub.reread (n + 1) [])).weight ≤
        (capture index name sub).weight := by
      simp only [operators, List.length_nil] at inner
      simp only [weight]
      omega
    exact under_light less (fun _ => rfl) behind
  | concat parts, normal, n, behind => by
    obtain ⟨less, kinds⟩ := rereadAll_light parts normal.2 n
    refine under_light ?_ (fun same => ?_) behind
    · rw [weight_concatenation]
      exact less
    · rw [weight_concatenation] at same
      rw [concatenation_eq (normalParts_roots (kinds same).symm normal.1)]
      rfl
  | alternation branches, normal, n, behind => by
    obtain ⟨less, kinds⟩ := rereadAll_light branches normal.2 n
    have lighter := weight_anyOf (rereadAll n branches)
    refine under_light ?_ (fun same => ?_) behind
    · simp only [weight]
      omega
    · simp only [weight] at same
      have normal' := normalBranches_roots (kinds (by omega)).symm normal.1
      have all := (allNormal_iff _).mpr (rereadAll_normal branches normal.2 n)
      by_cases alike : startAlike (rereadAll n branches) = true
      · have := weight_pulled ⟨normal', all⟩ alike
        simp only [weight] at this
        omega
      · rw [anyOf_eq normal' (sharedStart_nil (by simpa using alike))]
        rfl

theorem rereadAll_light : (ts : List Tree) → AllNormal ts → ∀ n,
    weightAll (rereadAll n ts) ≤ weightAll ts ∧
      (weightAll (rereadAll n ts) = weightAll ts → (rereadAll n ts).map root = ts.map root)
  | [], _, _ => ⟨Nat.le_refl _, fun _ => rfl⟩
  | t :: rest, normal, n => by
    obtain ⟨less, kind⟩ := reread_light t normal.1 n []
    obtain ⟨fewer, kinds⟩ := rereadAll_light rest normal.2 (n + t.captures.length)
    simp only [operators, List.length_nil, Nat.add_zero, if_true] at less kind
    refine ⟨by simp only [rereadAll, weightAll]; omega, fun same => ?_⟩
    simp only [rereadAll, weightAll] at same ⊢
    rw [List.map_cons, List.map_cons, kind (by omega), kinds (by omega)]

end

end Tree

def operatorSigns (ops : List Operator) : List Count := ops.flatMap fun o => signs o.count o.greedy

def SettledOperators (ops : List Operator) : Prop := ∀ o ∈ ops, o.greedy = unmarked o.count o.greedy

theorem unmarked_unmarked (count : Count) (greedy : Bool) :
    unmarked count (unmarked count greedy) = unmarked count greedy := by
  cases greedy <;> simp [unmarked]

theorem signs_unmarked (count : Count) (greedy : Bool) :
    signs count (unmarked count greedy) = signs count greedy := by
  have same : signs count greedy = if unmarked count greedy then [count] else [count, .option] := rfl
  have same' : signs count (unmarked count greedy) =
      if unmarked count (unmarked count greedy) then [count] else [count, .option] := rfl
  rw [same', same, unmarked_unmarked]

theorem operators_fewer (ops : List Operator) :
    (operators (operatorSigns ops)).length ≤ ops.length := by
  induction ops with
  | nil => exact Nat.le_refl _
  | cons o rest ih =>
    have := operators_signs o.count o.greedy (operatorSigns rest)
    simp only [operatorSigns, List.flatMap_cons, List.length_cons] at *
    omega

theorem operatorSigns_head (ops : List Operator) :
    (operatorSigns ops).head? = ops.head?.map (·.count) := by
  cases ops with
  | nil => rfl
  | cons o rest =>
    simp only [operatorSigns, List.flatMap_cons, signs]
    split <;> rfl

theorem operators_cons {count : Count} {greedy : Bool} (settled : greedy = unmarked count greedy)
    (behind : List Count) :
    (greedy = true ∧ behind.head? = some .option ∧
        ∃ rest, operators (signs count greedy ++ behind) = ⟨count, false⟩ :: rest) ∨
      ((greedy = true → behind.head? ≠ some .option) ∧
        operators (signs count greedy ++ behind) = ⟨count, greedy⟩ :: operators behind) := by
  cases greedy with
  | true =>
    have single : signs count true = [count] := rfl
    rw [single]
    cases behind with
    | nil => exact Or.inr ⟨by simp, rfl⟩
    | cons next rest =>
      by_cases option : next = .option
      · exact Or.inl ⟨rfl, by simp [option], operators rest, by simp [operators, option]⟩
      · exact Or.inr ⟨by simpa using option, by simp [operators, option]⟩
  | false =>
    have both : signs count false = [count, .option] := if_neg (by
      rw [Bool.not_eq_true]
      exact settled.symm)
    rw [both]
    exact Or.inr ⟨by simp, by simp [operators]⟩

theorem operators_same {ops : List Operator} (settled : SettledOperators ops)
    (same : (operators (operatorSigns ops)).map (·.greedy) = ops.map (·.greedy)) :
    operators (operatorSigns ops) = ops := by
  induction ops with
  | nil => rfl
  | cons o rest ih =>
    obtain ⟨here, later⟩ := List.forall_mem_cons.mp settled
    have split : operatorSigns (o :: rest) = signs o.count o.greedy ++ operatorSigns rest := rfl
    rw [split] at same ⊢
    rcases operators_cons here (operatorSigns rest) with ⟨greedy, _, more, read⟩ | ⟨_, read⟩
    · rw [read, List.map_cons, List.map_cons, greedy] at same
      cases (List.cons.inj same).1
    · rw [read, List.map_cons, List.map_cons] at same
      rw [read, ih later (List.cons.inj same).2]

namespace Tree

def around (ops : List Operator) (t : Tree) : Tree :=
  ops.foldl (fun t o => repetition o.count o.greedy t) t

theorem weight_around (ops : List Operator) (t : Tree) :
    (around ops t).weight = t.weight + ops.length := by
  induction ops generalizing t with
  | nil => rfl
  | cons o rest ih =>
    have inner := ih (repetition o.count o.greedy t)
    simp only [around, List.foldl_cons, List.length_cons, weight] at inner ⊢
    omega

/-- If simplified repetitions around a tree come out as plain ones around one that weighs as much,
then nothing was simplified. -/
theorem around_eq {read ops : List Operator} {made t : Tree} (less : made.weight ≤ t.weight)
    (fewer : read.length ≤ ops.length)
    (same : read.foldl (fun t o => repeated o.count o.greedy t) made = around ops t) :
    made = t ∧ read.map (·.greedy) = ops.map (·.greedy) := by
  induction ops generalizing read made t with
  | nil =>
    cases List.eq_nil_of_length_eq_zero (Nat.le_zero.mp fewer)
    exact ⟨same, rfl⟩
  | cons p rest ih =>
    have folded := weight_foldl read made
    rw [same, weight_around] at folded
    cases read with
    | nil =>
      simp only [List.length_nil, List.length_cons] at folded
      omega
    | cons o read =>
      simp only [List.length_cons] at fewer folded
      obtain ⟨most, whole⟩ := weight_repeated o.count o.greedy made
      have later := weight_foldl read (repeated o.count o.greedy made)
      simp only [List.foldl_cons] at same
      rw [same, weight_around, List.length_cons] at later
      obtain ⟨count, kept⟩ := whole (by omega)
      rw [kept] at same
      -- both trees gain one repetition, so the bound on the weight is kept
      have deeper : (repetition count o.greedy made).weight ≤
          (repetition p.count p.greedy t).weight := by
        simp only [weight]
        omega
      obtain ⟨inner, others⟩ := ih deeper (by omega) same
      rw [repetition.injEq] at inner
      obtain ⟨_, greedy, base⟩ := inner
      exact ⟨base, by rw [List.map_cons, List.map_cons, greedy, others]⟩

theorem under_unchanged {made t : Tree} {ops : List Operator} (settled : SettledOperators ops)
    (less : made.weight ≤ t.weight)
    (same : made.under (operatorSigns ops) = around ops t) :
    made = t ∧ operators (operatorSigns ops) = ops := by
  obtain ⟨inner, greedy⟩ := around_eq less (operators_fewer ops) same
  exact ⟨inner, operators_same settled greedy⟩

theorem firstPart?_renumberedAll {h : Tree} (bare : h.captures = []) {ts : List Tree}
    (all : ∀ t ∈ ts, t.firstPart? = some h) (n : Nat) :
    ∀ t ∈ renumberedAll n ts, t.firstPart? = some h := by
  induction ts generalizing n with
  | nil => simp [renumberedAll]
  | cons t rest ih =>
    obtain ⟨here, later⟩ := List.forall_mem_cons.mp all
    obtain ⟨more, rfl⟩ := firstPart?_eq here
    refine List.forall_mem_cons.mpr ⟨?_, ih later _⟩
    simp [renumbered, renumberedAll, firstPart?, renumbered_uncaptured h bare n]

theorem startAlike_settled {ts : List Tree} (several : 2 ≤ ts.length)
    (distinct : ((capturesAll ts).map (·.1)).Nodup) (n : Nat) (alike : startAlike ts = true) :
    startAlike (renumberedAll n ts) = true := by
  obtain ⟨_, h, all⟩ := (startAlike_iff ts).mp alike
  have bare : h.captures = [] := by
    match ts, several with
    | t :: u :: rest, _ =>
      obtain ⟨_, rfl⟩ := firstPart?_eq (all t List.mem_cons_self)
      obtain ⟨_, rfl⟩ := firstPart?_eq (all u (List.mem_cons_of_mem _ List.mem_cons_self))
      cases inside : h.captures with
      | nil => rfl
      | cons group others => simp [capturesAll, captures, inside] at distinct
  refine (startAlike_iff _).mpr ⟨?_, h, firstPart?_renumberedAll bare all n⟩
  cases ts with
  | nil => cases several
  | cons t rest => simp [renumberedAll]

theorem weight_target (n : Nat) (t : Tree) : (t.settled.renumbered n).weight = t.weight := by
  rw [weight_renumbered, weight_settled]

theorem concatenation_unchanged {parts : List Tree} (normal : (concat parts).Normal) {n : Nat}
    (made : concatenation (rereadAll n parts) = (concat parts).settled.renumbered n) :
    rereadAll n parts = renumberedAll n (settledAll parts) := by
  obtain ⟨_, kinds⟩ := rereadAll_light parts normal.2 n
  have equal := congrArg weight made
  rw [weight_target, weight_concatenation] at equal
  rw [concatenation_eq (normalParts_roots (kinds equal).symm normal.1)] at made
  exact concat.inj made

theorem anyOf_unchanged {branches : List Tree} (normal : (alternation branches).Normal) {n : Nat}
    (made : anyOf (rereadAll n branches) = (alternation branches).settled.renumbered n) :
    startAlike (rereadAll n branches) = false ∧
      rereadAll n branches = renumberedAll n (settledAll branches) := by
  obtain ⟨less, kinds⟩ := rereadAll_light branches normal.2 n
  have pulled := weight_anyOf (rereadAll n branches)
  have equal := congrArg weight made
  rw [weight_target] at equal
  simp only [weight] at equal
  have normal' := normalBranches_roots (kinds (by omega)).symm normal.1
  have all := (allNormal_iff _).mpr (rereadAll_normal branches normal.2 n)
  have apart : startAlike (rereadAll n branches) = false := by
    rw [← Bool.not_eq_true]
    intro alike
    have := weight_pulled ⟨normal', all⟩ alike
    simp only [weight] at this
    omega
  rw [anyOf_eq normal' (sharedStart_nil apart)] at made
  exact ⟨apart, alternation.inj made⟩

mutual

theorem unchanged_faithful : (t : Tree) → t.Normal → (t.captures.map (·.1)).Nodup → ∀ n ops,
    SettledOperators ops → t.reread n (operatorSigns ops) = around ops (t.settled.renumbered n) →
      t.faithful = true ∧ operators (operatorSigns ops) = ops ∧
        (t.isUnmarked = true → (operatorSigns ops).head? ≠ some .option)
  | empty, _, _, _, _, settled, same =>
    ⟨rfl, (under_unchanged settled (Nat.le_refl _) same).2, by simp [isUnmarked]⟩
  | literal _, _, _, _, _, settled, same =>
    ⟨rfl, (under_unchanged settled (Nat.le_refl _) same).2, by simp [isUnmarked]⟩
  | codes _ _, _, _, _, _, settled, same =>
    ⟨rfl, (under_unchanged settled (Nat.le_refl _) same).2, by simp [isUnmarked]⟩
  | look _, _, _, _, _, settled, same =>
    ⟨rfl, (under_unchanged settled (Nat.le_refl _) same).2, by simp [isUnmarked]⟩
  | repetition count greedy sub, normal, distinct, n, ops, settled, same => by
    have here : unmarked count greedy = unmarked count (unmarked count greedy) :=
      (unmarked_unmarked count greedy).symm
    have signed : operatorSigns (⟨count, unmarked count greedy⟩ :: ops) =
        signs count greedy ++ operatorSigns ops := by
      simp only [operatorSigns, List.flatMap_cons, signs_unmarked]
    obtain ⟨inner, read, apart⟩ := unchanged_faithful sub normal.2 distinct n
      (⟨count, unmarked count greedy⟩ :: ops) (List.forall_mem_cons.mpr ⟨here, settled⟩)
      (by rw [signed]; exact same)
    rw [operatorSigns_head] at apart
    have split : operatorSigns (⟨count, unmarked count greedy⟩ :: ops) =
        signs count (unmarked count greedy) ++ operatorSigns ops := rfl
    rw [split] at read
    rcases operators_cons here (operatorSigns ops) with ⟨plain, _, more, taken⟩ | ⟨marks, kept⟩
    · rw [taken, plain] at read
      cases (List.cons.inj read).1
    · rw [kept] at read
      refine ⟨?_, (List.cons.inj read).2, marks⟩
      by_cases plain : sub.isUnmarked = true
      · have other : count ≠ .option := by simpa using apart plain
        simp [Tree.faithful, inner, other]
      · simp [Tree.faithful, inner, plain]
  | capture index name sub, normal, distinct, n, ops, settled, same => by
    have less : (capture (n + 1) name (sub.reread (n + 1) [])).weight ≤
        ((capture index name sub).settled.renumbered n).weight := by
      have inner := (reread_light sub normal.2 (n + 1) []).1
      rw [weight_target]
      simp only [operators, List.length_nil] at inner
      simp only [weight]
      omega
    obtain ⟨made, read⟩ := under_unchanged settled less same
    simp only [Tree.settled, renumbered, capture.injEq, true_and] at made
    have inside : (sub.captures.map (·.1)).Nodup := (List.nodup_cons.mp distinct).2
    exact ⟨(unchanged_faithful sub normal.2 inside (n + 1) [] (by simp [SettledOperators]) made).1,
      read, by simp [isUnmarked]⟩
  | concat parts, normal, distinct, n, ops, settled, same => by
    have lighter : (concatenation (rereadAll n parts)).weight ≤
        ((concat parts).settled.renumbered n).weight := by
      rw [weight_target, weight_concatenation]
      exact (rereadAll_light parts normal.2 n).1
    obtain ⟨made, read⟩ := under_unchanged settled lighter same
    have inside := concatenation_unchanged normal made
    exact ⟨unchangedAll_faithful parts normal.2 distinct n inside, read, by simp [isUnmarked]⟩
  | alternation branches, normal, distinct, n, ops, settled, same => by
    have lighter : (anyOf (rereadAll n branches)).weight ≤
        ((alternation branches).settled.renumbered n).weight := by
      have less := (rereadAll_light branches normal.2 n).1
      have pulled := weight_anyOf (rereadAll n branches)
      rw [weight_target]
      simp only [weight]
      omega
    obtain ⟨made, read⟩ := under_unchanged settled lighter same
    obtain ⟨apart, inside⟩ := anyOf_unchanged normal made
    have several : 2 ≤ (settledAll branches).length := by
      rw [settledAll_length]
      exact normal.1.several
    have differ : startAlike (settledAll branches) = false := by
      rw [← Bool.not_eq_true]
      intro alike
      rw [inside, ← Bool.not_eq_true] at apart
      exact apart (startAlike_settled several (by rwa [settledAll_captures]) n alike)
    refine ⟨?_, read, by simp [isUnmarked]⟩
    simp [Tree.faithful, differ, unchangedAll_faithful branches normal.2 distinct n inside]

theorem unchangedAll_faithful : (ts : List Tree) → AllNormal ts →
    ((capturesAll ts).map (·.1)).Nodup → ∀ n,
      rereadAll n ts = renumberedAll n (settledAll ts) → allFaithful ts = true
  | [], _, _, _, _ => rfl
  | t :: rest, normal, distinct, n, same => by
    simp only [rereadAll, settledAll, renumberedAll, settled_captures, List.cons.injEq] at same
    rw [capturesAll, List.map_append] at distinct
    obtain ⟨here, later, _⟩ := List.nodup_append.mp distinct
    have first := unchanged_faithful t normal.1 here n [] (by simp [SettledOperators]) same.1
    simp [allFaithful, first.1, unchangedAll_faithful rest normal.2 later _ same.2]

end

/-- A tree is faithful exactly if it is read back as it was, but for the marks of fixed counts and
the numbers of its groups. -/
theorem faithful_iff {t : Tree} (normal : t.Normal) (distinct : (t.captures.map (·.1)).Nodup)
    (n : Nat) : t.faithful = true ↔ t.reread n [] = t.settled.renumbered n := by
  constructor
  · intro faithful
    exact reread_faithful t normal faithful n [] (by simp)
  · intro same
    exact (unchanged_faithful t normal distinct n [] (by simp [SettledOperators]) same).1

end Tree

end TextCursor.Pattern
