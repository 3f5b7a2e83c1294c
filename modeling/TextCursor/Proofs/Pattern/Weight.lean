import TextCursor.Proofs.Pattern.Faithful
/-!
Reading back never adds to a tree. The weight of a tree counts its operators, groups and codepoints.
Simplifying keeps or lowers it, so a tree that weighs as much as before was simplified nowhere: each
part of it has kept its kind.
-/
namespace TextCursor.Pattern

namespace Tree

mutual

def weight : Tree → Nat
  | empty => 0
  | literal chars => chars.length
  | codes _ _ => 1
  | look _ => 1
  | repetition _ _ sub => 1 + sub.weight
  | capture _ _ sub => 1 + sub.weight
  | concat parts => weightAll parts
  | alternation branches => 1 + weightAll branches

def weightAll : List Tree → Nat
  | [] => 0
  | t :: rest => t.weight + weightAll rest

end

theorem weightAll_append (a b : List Tree) : weightAll (a ++ b) = weightAll a + weightAll b := by
  induction a with
  | nil => simp [weightAll]
  | cons t rest ih => simp [weightAll, ih, Nat.add_assoc]

theorem weight_asParts (t : Tree) : weightAll t.asParts = t.weight := by
  cases t <;> simp [asParts, weightAll, weight]

theorem weight_flatMap_asParts (ts : List Tree) : weightAll (ts.flatMap asParts) = weightAll ts := by
  induction ts with
  | nil => rfl
  | cons t rest ih => simp [weightAll_append, weightAll, weight_asParts, ih]

theorem weight_joinLiterals (ts : List Tree) : weightAll (joinLiterals ts) = weightAll ts := by
  induction ts with
  | nil => rfl
  | cons t rest ih =>
    rcases joinLiterals_cons t rest with ⟨a, b, more, rfl, tail, whole⟩ | ⟨_, whole⟩
    · rw [whole]
      rw [tail] at ih
      simp only [weightAll, weight, List.length_append] at ih ⊢
      omega
    · rw [whole]
      simp only [weightAll, ih]

theorem weight_concatenation (ts : List Tree) : (concatenation ts).weight = weightAll ts := by
  rw [← weight_flatMap_asParts ts, ← weight_joinLiterals (ts.flatMap asParts)]
  unfold concatenation
  split
  · rename_i none
    rw [none]
    rfl
  · rename_i t one
    rw [one]
    simp [weightAll]
  · rfl

theorem weight_flatMap_asBranches (ts : List Tree) :
    weightAll (ts.flatMap asBranches) ≤ weightAll ts := by
  have single (t : Tree) : weightAll t.asBranches ≤ t.weight := by
    cases t <;> simp [asBranches, weightAll, weight]
  induction ts with
  | nil => exact Nat.le_refl _
  | cons t rest ih =>
    have := single t
    simp only [List.flatMap_cons, weightAll_append, weightAll]
    omega

theorem weight_ofSet (bytes : Bool) (set : Unicode.CodeSet) : (ofSet bytes set).weight = 1 := by
  unfold ofSet
  split
  · rfl
  · split <;> rfl

theorem weight_anyOfDistinct (ts : List Tree) :
    (anyOfDistinct ts).weight ≤ 1 + weightAll ts := by
  have branches := weight_flatMap_asBranches ts
  unfold anyOfDistinct
  cases same : ts.flatMap asBranches with
  | nil => exact Nat.le_add_right _ _
  | cons t rest =>
    rw [same] at branches
    cases rest with
    | nil =>
      simp only [weightAll] at branches
      simp only
      omega
    | cons u rest =>
      simp only
      split
      · rw [weight_ofSet]
        omega
      · split
        · rw [weight_ofSet]
          omega
        · simp only [weight]
          omega

theorem weight_drop (n : Nat) (ts : List Tree) : weightAll (ts.drop n) ≤ weightAll ts := by
  have split := weightAll_append (ts.take n) (ts.drop n)
  rw [List.take_append_drop] at split
  omega

theorem weight_dropped (n : Nat) (pss : List (List Tree)) :
    weightAll (pss.map fun parts => concatenation (parts.drop n)) ≤
      weightAll (pss.map concat) := by
  induction pss with
  | nil => exact Nat.le_refl _
  | cons parts rest ih =>
    have := weight_drop n parts
    simp only [List.map_cons, weightAll, weight_concatenation, weight]
    omega

theorem weight_begun {common parts : List Tree} (start : common <+: parts) :
    weightAll common + weightAll (parts.drop common.length) = weightAll parts := by
  obtain ⟨rest, rfl⟩ := start
  rw [List.drop_left, weightAll_append]

theorem weight_anyOf (ts : List Tree) : (anyOf ts).weight ≤ 1 + weightAll ts := by
  have distinct := weight_anyOfDistinct ts
  rcases anyOf_cases ts with same | ⟨first, others, common, whole, start, same⟩
  · rw [same]
    exact distinct
  · have rest := weight_anyOfDistinct ((first :: others).map fun parts =>
      concatenation (parts.drop common.length))
    have dropped := weight_dropped common.length others
    have whole_first := weight_begun (start first List.mem_cons_self)
    rw [whole] at distinct
    rw [same, weight_concatenation, weightAll_append]
    simp only [weightAll, List.map_cons, weight, weight_concatenation] at rest distinct ⊢
    omega

theorem weight_repeated (count : Count) (greedy : Bool) (t : Tree) :
    (repeated count greedy t).weight ≤ 1 + t.weight ∧
      ((repeated count greedy t).weight = 1 + t.weight →
        ∃ count', repeated count greedy t = repetition count' greedy t) := by
  simp only [repeated]
  split
  · refine ⟨Nat.zero_le _, fun same => ?_⟩
    simp only [weight] at same
    omega
  · split
    · exact ⟨by omega, fun same => by omega⟩
    · exact ⟨Nat.le_refl _, fun _ => ⟨_, rfl⟩⟩

theorem weight_foldl (ops : List Operator) (t : Tree) :
    (ops.foldl (fun t o => repeated o.count o.greedy t) t).weight ≤ t.weight + ops.length := by
  induction ops generalizing t with
  | nil => exact Nat.le_refl _
  | cons o rest ih =>
    have := (weight_repeated o.count o.greedy t).1
    have := ih (repeated o.count o.greedy t)
    simp only [List.foldl_cons, List.length_cons]
    omega

theorem root_foldl (ops : List Operator) (t : Tree) (some : ops ≠ [])
    (same : (ops.foldl (fun t o => repeated o.count o.greedy t) t).weight = t.weight + ops.length) :
    (ops.foldl (fun t o => repeated o.count o.greedy t) t).root =
      repetition .option true empty := by
  induction ops generalizing t with
  | nil => exact absurd rfl some
  | cons o rest ih =>
    obtain ⟨most, whole⟩ := weight_repeated o.count o.greedy t
    have later := weight_foldl rest (repeated o.count o.greedy t)
    simp only [List.foldl_cons, List.length_cons] at same ⊢
    by_cases last : rest = []
    · subst last
      obtain ⟨count, made⟩ := whole (by simpa [Nat.add_comm] using same)
      simp only [List.foldl_nil, made]
      rfl
    · exact ih _ last (by omega)

end Tree

theorem operators_length (behind : List Count) : ∀ count,
    (operators behind).length ≤ (operators (count :: behind)).length ∧
      (operators (count :: behind)).length ≤ 1 + (operators behind).length := by
  induction behind with
  | nil => simp [operators]
  | cons next rest ih =>
    intro count
    obtain ⟨least, most⟩ := ih next
    by_cases option : next = .option
    · rw [operators, if_pos option, List.length_cons]
      omega
    · rw [operators, if_neg option, List.length_cons]
      omega

theorem operators_signs (count : Count) (greedy : Bool) (behind : List Count) :
    (operators (signs count greedy ++ behind)).length ≤ 1 + (operators behind).length := by
  unfold signs
  split
  · exact (operators_length behind count).2
  · simp only [List.cons_append, List.nil_append, operators, ↓reduceIte, List.length_cons]
    omega

theorem operators_nonempty {signs : List Count} (h : signs ≠ []) : operators signs ≠ [] := by
  match signs with
  | [] => exact absurd rfl h
  | [_] => simp [operators]
  | _ :: next :: _ => by_cases option : next = .option <;> simp [operators, option]

theorem operators_count (behind : List Count) : ∀ o ∈ operators behind, o.count ∈ behind := by
  match behind with
  | [] => simp [operators]
  | [count] => simp [operators]
  | count :: next :: rest =>
    intro o mem
    simp only [operators] at mem
    split at mem
    · rcases List.mem_cons.mp mem with rfl | later
      · exact List.mem_cons_self
      · exact List.mem_cons_of_mem _ (List.mem_cons_of_mem _ (operators_count rest o later))
    · rcases List.mem_cons.mp mem with rfl | later
      · exact List.mem_cons_self
      · exact List.mem_cons_of_mem _ (operators_count (next :: rest) o later)
termination_by behind.length

namespace Tree

theorem under_normal {t : Tree} (normal : t.Normal) {behind : List Count}
    (bounded : ∀ c ∈ behind, c.Bounded) : (t.under behind).Normal := by
  have all : ∀ o ∈ operators behind, o.count.Bounded := fun o mem =>
    bounded _ (operators_count behind o mem)
  unfold under
  generalize operators behind = ops at all
  induction ops generalizing t with
  | nil => exact normal
  | cons o rest ih =>
    obtain ⟨here, later⟩ := List.forall_mem_cons.mp all
    exact ih (repeated_normal o.greedy here normal) later

mutual

theorem reread_normal : (t : Tree) → t.Normal → ∀ n behind, (∀ c ∈ behind, c.Bounded) →
    (t.reread n behind).Normal
  | empty, normal, _, _, bounded => under_normal normal bounded
  | literal _, normal, _, _, bounded => under_normal normal bounded
  | codes _ _, normal, _, _, bounded => under_normal normal bounded
  | look _, normal, _, _, bounded => under_normal normal bounded
  | repetition count greedy sub, normal, n, _, bounded =>
    reread_normal sub normal.2 n _
      (List.forall_mem_append.mpr ⟨signs_bounded normal.1.bounded greedy, bounded⟩)
  | capture _ _ sub, normal, n, _, bounded =>
    under_normal (t := capture _ _ _) ⟨normal.1, reread_normal sub normal.2 (n + 1) [] (by simp)⟩
      bounded
  | concat parts, normal, n, _, bounded =>
    under_normal (concatenation_normal (rereadAll_normal parts normal.2 n)) bounded
  | alternation branches, normal, n, _, bounded =>
    under_normal (anyOf_normal (rereadAll_normal branches normal.2 n)) bounded

theorem rereadAll_normal : (ts : List Tree) → AllNormal ts → ∀ n, ∀ t ∈ rereadAll n ts, t.Normal
  | [], _, _ => by simp [rereadAll]
  | t :: rest, normal, n =>
    List.forall_mem_cons.mpr ⟨reread_normal t normal.1 n [] (by simp),
      rereadAll_normal rest normal.2 _⟩

end

theorem weight_part {t : Tree} (normal : t.Normal) (flat : t.asParts = [t]) : 1 ≤ t.weight := by
  cases t with
  | empty => simp [asParts] at flat
  | literal chars => exact List.length_pos_iff.mpr normal
  | codes _ _ => exact Nat.le_refl _
  | look _ => exact Nat.le_refl _
  | repetition _ _ _ => exact Nat.le_add_right _ _
  | capture _ _ _ => exact Nat.le_add_right _ _
  | concat parts => simp [asParts_root, root] at flat
  | alternation _ => exact Nat.le_add_right _ _

theorem firstPart?_eq {t h : Tree} (first : t.firstPart? = some h) :
    ∃ rest, t = concat (h :: rest) := by
  cases t with
  | concat parts =>
    cases parts with
    | nil => cases first
    | cons u rest =>
      cases first
      exact ⟨rest, rfl⟩
  | _ => cases first

theorem commonStart_same (h : Tree) (a b : List Tree) :
    commonStart (h :: a) (h :: b) = h :: commonStart a b := by
  simp [commonStart]

theorem sharedStart_cons {branches : List Tree} (alike : startAlike branches = true) :
    ∃ h rest first others, branches = (first :: others).map concat ∧
      branches.mapM parts? = some (first :: others) ∧
      others.foldl commonStart first = h :: rest ∧
      ∀ parts ∈ first :: others, ∃ more, parts = h :: more := by
  obtain ⟨nonempty, h, all⟩ := (startAlike_iff branches).mp alike
  have split : ∀ ts : List Tree, (∀ t ∈ ts, t.firstPart? = some h) →
      ∃ pss, ts = pss.map concat ∧ ts.mapM parts? = some pss ∧
        ∀ parts ∈ pss, ∃ more, parts = h :: more := by
    intro ts each
    induction ts with
    | nil => exact ⟨[], rfl, rfl, by simp⟩
    | cons t rest ih =>
      obtain ⟨here, later⟩ := List.forall_mem_cons.mp each
      obtain ⟨pss, rfl, given, heads⟩ := ih later
      obtain ⟨more, rfl⟩ := firstPart?_eq here
      refine ⟨(h :: more) :: pss, rfl, ?_, List.forall_mem_cons.mpr ⟨⟨more, rfl⟩, heads⟩⟩
      simp [List.mapM_cons, given, parts?]
  obtain ⟨pss, made, given, heads⟩ := split branches all
  cases pss with
  | nil => exact absurd made nonempty
  | cons first others =>
    have fold : ∀ others : List (List Tree), (∀ parts ∈ others, ∃ more, parts = h :: more) →
        ∀ a, ∃ rest, others.foldl commonStart (h :: a) = h :: rest := by
      intro others each
      induction others with
      | nil => exact fun a => ⟨a, rfl⟩
      | cons parts more ih =>
        obtain ⟨here, later⟩ := List.forall_mem_cons.mp each
        obtain ⟨b, rfl⟩ := here
        intro a
        rw [List.foldl_cons, commonStart_same]
        exact ih later _
    obtain ⟨⟨a, start⟩, later⟩ := List.forall_mem_cons.mp heads
    obtain ⟨rest, shared⟩ := fold others later a
    exact ⟨h, rest, first, others, made, given, start ▸ shared, heads⟩

/-- Pulling a start in front of branches makes them weigh less. -/
theorem weight_pulled {branches : List Tree} (normal : (alternation branches).Normal)
    (alike : startAlike branches = true) :
    (anyOf branches).weight < (alternation branches).weight := by
  obtain ⟨h, rest, first, others, made, given, shared, heads⟩ := sharedStart_cons alike
  have start := foldl_commonStart_begins others first first List.mem_cons_self
  have pulled : anyOf branches = concatenation (h :: rest ++
      [anyOfDistinct ((first :: others).map fun parts =>
        concatenation (parts.drop (h :: rest).length))]) := by
    unfold anyOf
    rw [anyOfDistinct_eq normal.1]
    simp only [given, shared]
    rfl
  cases others with
  | nil =>
    have several := normal.1.several
    rw [made] at several
    simp at several
  | cons second others =>
    have whole := weight_begun start
    have dropped := weight_dropped (h :: rest).length others
    have distinct := weight_anyOfDistinct ((first :: second :: others).map fun parts =>
      concatenation (parts.drop (h :: rest).length))
    obtain ⟨more, begins⟩ := heads second (by simp)
    have inside : (concat second).Normal := by
      refine (allNormal_iff branches).mp normal.2 _ ?_
      rw [made]
      simp
    have heavy : 1 ≤ h.weight := by
      have part : h ∈ second := begins ▸ List.mem_cons_self
      exact weight_part ((allNormal_iff second).mp inside.2 h part) (inside.1.flat h part)
    have less := weight_drop rest.length more
    rw [shared] at whole
    rw [pulled, made, weight_concatenation, weightAll_append]
    simp only [weightAll, weight, List.map_cons, weight_concatenation, begins, List.length_cons,
      List.drop_succ_cons] at distinct whole dropped ⊢
    omega

end Tree

end TextCursor.Pattern
