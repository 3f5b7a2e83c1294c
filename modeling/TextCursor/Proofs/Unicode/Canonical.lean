import TextCursor.Unicode.CaseFolding
/-!
The canonical form of sets of codepoints: ranges in increasing order that neither overlap nor touch,
with codepoints for bounds. All operations on sets keep it. A set in canonical form is got back when
its ranges are added one by one, which is what makes it survive being written out as a class.
-/
namespace TextCursor.Unicode

structure CodeRange.Valid (r : CodeRange) : Prop where
  ordered : r.lo ≤ r.hi
  first : r.lo.isValidChar
  last : r.hi.isValidChar

def CodeRange.Before (a b : CodeRange) : Prop := a.hi + 1 < b.lo

structure CodeSet.Canonical (s : CodeSet) : Prop where
  valid : ∀ r ∈ s.ranges, r.Valid
  sorted : s.ranges.Pairwise CodeRange.Before

theorem CodeRange.lo_lt {r : CodeRange} (h : r.Valid) : r.lo < 0x110000 := by
  have first := h.first
  simp only [Nat.isValidChar] at first
  omega

theorem valid_char (c : Char) : c.toNat.isValidChar := c.valid

namespace CodeSet

theorem empty_canonical : empty.Canonical := ⟨by simp [empty], by simp [empty]⟩

theorem range_canonical {lo hi : Nat} (h : (CodeRange.mk lo hi).Valid) :
    (range lo hi).Canonical := ⟨by simpa [range] using h, by simp [range]⟩

theorem singleton_canonical (c : Char) : (singleton c).Canonical :=
  range_canonical ⟨Nat.le_refl _, valid_char c, valid_char c⟩

theorem insertRange_all {P : CodeRange → Prop}
    (join : ∀ a b, P a → P b → P ⟨min a.lo b.lo, max a.hi b.hi⟩) (r : CodeRange)
    (rs : List CodeRange) (h : P r) (all : ∀ x ∈ rs, P x) : ∀ x ∈ insertRange r rs, P x := by
  induction rs generalizing r with
  | nil => simpa [insertRange] using h
  | cons s rest ih =>
    have tail : ∀ x ∈ rest, P x := fun x mem => all x (List.mem_cons_of_mem s mem)
    simp only [insertRange]
    split
    · intro x mem
      rcases List.mem_cons.mp mem with same | later
      · exact same ▸ h
      · exact all x later
    · split
      · intro x mem
        rcases List.mem_cons.mp mem with same | later
        · exact same ▸ all s (by simp)
        · exact ih r h tail x later
      · exact ih _ (join r s h (all s (by simp))) tail

theorem foldl_insert_all {P : CodeRange → Prop}
    (join : ∀ a b, P a → P b → P ⟨min a.lo b.lo, max a.hi b.hi⟩) (rs : List CodeRange)
    {s : CodeSet} (old : ∀ x ∈ s.ranges, P x) (new : ∀ r ∈ rs, P r) :
    ∀ x ∈ (rs.foldl insert s).ranges, P x := by
  induction rs generalizing s with
  | nil => exact old
  | cons r rest ih =>
    exact ih (insertRange_all join r s.ranges (new r (by simp)) old)
      (fun x mem => new x (List.mem_cons_of_mem r mem))

theorem join_valid (a b : CodeRange) (ha : a.Valid) (hb : b.Valid) :
    (CodeRange.mk (min a.lo b.lo) (max a.hi b.hi)).Valid := by
  have := ha.ordered
  have := hb.ordered
  refine ⟨by simp only; omega, ?_, ?_⟩
  · simp only [Nat.min_def]
    split
    · exact ha.first
    · exact hb.first
  · simp only [Nat.max_def]
    split
    · exact hb.last
    · exact ha.last

theorem insertRange_starts (r : CodeRange) (rs : List CodeRange) :
    ∀ x ∈ insertRange r rs, r.lo ≤ x.lo ∨ ∃ y ∈ rs, y.lo ≤ x.lo := by
  induction rs generalizing r with
  | nil => simp [insertRange]
  | cons s rest ih =>
    intro x mem
    simp only [insertRange] at mem
    split at mem
    · rcases List.mem_cons.mp mem with same | later
      · exact Or.inl (Nat.le_of_eq (by rw [same]))
      · exact Or.inr ⟨x, later, Nat.le_refl _⟩
    · split at mem
      · rcases List.mem_cons.mp mem with same | later
        · exact Or.inr ⟨s, by simp, Nat.le_of_eq (by rw [same])⟩
        · rcases ih r x later with added | ⟨y, old, before⟩
          · exact Or.inl added
          · exact Or.inr ⟨y, List.mem_cons_of_mem s old, before⟩
      · rcases ih _ x mem with joined | ⟨y, old, before⟩
        · by_cases first : r.lo ≤ s.lo
          · exact Or.inl (by simp only at joined; omega)
          · exact Or.inr ⟨s, by simp, by simp only at joined; omega⟩
        · exact Or.inr ⟨y, List.mem_cons_of_mem s old, before⟩

theorem insertRange_sorted (r : CodeRange) (rs : List CodeRange) (h : r.Valid)
    (valid : ∀ x ∈ rs, x.Valid) (sorted : rs.Pairwise CodeRange.Before) :
    (insertRange r rs).Pairwise CodeRange.Before := by
  induction rs generalizing r with
  | nil => simp [insertRange]
  | cons s rest ih =>
    have hs := valid s (by simp)
    have tail : ∀ x ∈ rest, x.Valid := fun x mem => valid x (List.mem_cons_of_mem s mem)
    obtain ⟨behind, sortedTail⟩ := List.pairwise_cons.mp sorted
    simp only [insertRange]
    split
    · rename_i early
      refine List.pairwise_cons.mpr ⟨?_, sorted⟩
      intro x mem
      rcases List.mem_cons.mp mem with same | later
      · exact same ▸ early
      · have := behind x later
        have := hs.ordered
        simp only [CodeRange.Before] at *
        omega
    · split
      · rename_i late
        refine List.pairwise_cons.mpr ⟨?_, ih r h tail sortedTail⟩
        intro x mem
        rcases insertRange_starts r rest x mem with added | ⟨y, old, before⟩
        · exact Nat.lt_of_lt_of_le late added
        · exact Nat.lt_of_lt_of_le (behind y old) before
      · exact ih _ (join_valid r s h hs) tail sortedTail

theorem insert_canonical {s : CodeSet} {r : CodeRange} (hs : s.Canonical) (hr : r.Valid) :
    (s.insert r).Canonical :=
  ⟨insertRange_all join_valid r s.ranges hr hs.valid,
    insertRange_sorted r s.ranges hr hs.valid hs.sorted⟩

theorem foldl_insert_canonical {s : CodeSet} (rs : List CodeRange) (hs : s.Canonical)
    (valid : ∀ r ∈ rs, r.Valid) : (rs.foldl insert s).Canonical := by
  induction rs generalizing s with
  | nil => exact hs
  | cons r rest ih =>
    exact ih (insert_canonical hs (valid r (by simp)))
      (fun x mem => valid x (List.mem_cons_of_mem r mem))

theorem union_canonical {a b : CodeSet} (ha : a.Canonical) (hb : b.Canonical) :
    (a.union b).Canonical := foldl_insert_canonical b.ranges ha hb.valid

theorem foldl_union_canonical {s : CodeSet} (sets : List CodeSet) (hs : s.Canonical)
    (all : ∀ t ∈ sets, t.Canonical) : (sets.foldl union s).Canonical := by
  induction sets generalizing s with
  | nil => exact hs
  | cons t rest ih =>
    exact ih (union_canonical hs (all t (by simp)))
      (fun x mem => all x (List.mem_cons_of_mem t mem))

theorem unions_canonical (sets : List CodeSet) (all : ∀ t ∈ sets, t.Canonical) :
    (unions sets).Canonical := foldl_union_canonical sets empty_canonical all

theorem inter?_bounds {a b r : CodeRange} (h : a.inter? b = some r) :
    r = ⟨max a.lo b.lo, min a.hi b.hi⟩ ∧ r.lo ≤ r.hi := by
  unfold CodeRange.inter? at h
  split at h
  · rename_i shared
    cases h
    exact ⟨rfl, shared⟩
  · cases h

theorem inter?_valid {a b r : CodeRange} (ha : a.Valid) (hb : b.Valid)
    (h : a.inter? b = some r) : r.Valid := by
  obtain ⟨made, ordered⟩ := inter?_bounds h
  refine ⟨ordered, ?_, ?_⟩
  · rw [made]
    simp only [Nat.max_def]
    split
    · exact hb.first
    · exact ha.first
  · rw [made]
    simp only [Nat.min_def]
    split
    · exact ha.last
    · exact hb.last

theorem inter_canonical {a b : CodeSet} (ha : a.Canonical) (hb : b.Canonical) :
    (a.inter b).Canonical := by
  constructor
  · intro r mem
    simp only [inter, List.mem_flatMap, List.mem_filterMap] at mem
    obtain ⟨x, hx, y, hy, shared⟩ := mem
    exact inter?_valid (ha.valid x hx) (hb.valid y hy) shared
  · simp only [inter, List.pairwise_flatMap, List.pairwise_filterMap]
    constructor
    · intro x hx
      refine hb.sorted.imp ?_
      intro y z before r hr s hs
      obtain ⟨rfl, _⟩ := inter?_bounds hr
      obtain ⟨rfl, _⟩ := inter?_bounds hs
      simp only [CodeRange.Before] at before ⊢
      omega
    · refine ha.sorted.imp ?_
      intro x y before r hr s hs
      obtain ⟨u, _, shared⟩ := List.mem_filterMap.mp hr
      obtain ⟨v, _, shared'⟩ := List.mem_filterMap.mp hs
      obtain ⟨rfl, _⟩ := inter?_bounds shared
      obtain ⟨rfl, _⟩ := inter?_bounds shared'
      simp only [CodeRange.Before] at before ⊢
      omega

theorem predCode_valid {n : Nat} (h : n.isValidChar) (positive : 0 < n) :
    (predCode n).isValidChar ∧ predCode n < n := by
  simp only [Nat.isValidChar, predCode] at *
  split <;> omega

theorem succCode_valid {n : Nat} (h : n.isValidChar) :
    n < succCode n ∧ ((succCode n).isValidChar ∨ maxCode < succCode n) := by
  simp only [Nat.isValidChar, succCode, maxCode] at *
  split <;> omega

theorem gaps_canonical (next : Nat) (rs : List CodeRange)
    (start : next.isValidChar ∨ maxCode < next) (later : ∀ r ∈ rs, next ≤ r.lo)
    (valid : ∀ r ∈ rs, r.Valid) (sorted : rs.Pairwise CodeRange.Before) :
    (∀ x ∈ gaps maxCode next rs, x.Valid ∧ next ≤ x.lo) ∧
      (gaps maxCode next rs).Pairwise CodeRange.Before := by
  induction rs generalizing next with
  | nil =>
    simp only [gaps]
    split
    · rename_i inside
      have first : next.isValidChar := by
        rcases start with h | h
        · exact h
        · omega
      have last : maxCode.isValidChar := by decide
      refine ⟨?_, List.pairwise_singleton _ _⟩
      intro x mem
      rw [List.mem_singleton.mp mem]
      exact ⟨⟨inside, first, last⟩, Nat.le_refl _⟩
    · simp
  | cons r rest ih =>
    have hr := valid r (by simp)
    have ordered := hr.ordered
    have from_next := later r (by simp)
    have bound := CodeRange.lo_lt hr
    obtain ⟨behind, sortedTail⟩ := List.pairwise_cons.mp sorted
    obtain ⟨past, startTail⟩ := succCode_valid hr.last
    have tail : ∀ x ∈ rest, x.Valid := fun x mem => valid x (List.mem_cons_of_mem r mem)
    have laterTail : ∀ x ∈ rest, succCode r.hi ≤ x.lo := by
      intro x mem
      have before := behind x mem
      have first := (tail x mem).first
      simp only [CodeRange.Before, succCode, Nat.isValidChar] at *
      split <;> omega
    obtain ⟨inside, apart⟩ := ih (succCode r.hi) startTail laterTail tail sortedTail
    simp only [gaps]
    split
    · rename_i room
      have first : next.isValidChar := by
        rcases start with h | h
        · exact h
        · simp only [maxCode] at h
          omega
      obtain ⟨last, less⟩ := predCode_valid hr.first (by omega)
      constructor
      · intro x mem
        rcases List.mem_cons.mp mem with same | later
        · rw [same]
          exact ⟨⟨room.2, first, last⟩, Nat.le_refl _⟩
        · obtain ⟨ok, after⟩ := inside x later
          exact ⟨ok, by omega⟩
      · refine List.pairwise_cons.mpr ⟨?_, apart⟩
        intro x mem
        have after := (inside x mem).2
        simp only [CodeRange.Before]
        omega
    · refine ⟨?_, apart⟩
      intro x mem
      obtain ⟨ok, after⟩ := inside x mem
      exact ⟨ok, by omega⟩

theorem complement_canonical {s : CodeSet} (h : s.Canonical) : s.complement.Canonical := by
  obtain ⟨valid, sorted⟩ := gaps_canonical 0 s.ranges (Or.inl (by decide))
    (fun _ _ => Nat.zero_le _) h.valid h.sorted
  exact ⟨fun r mem => (valid r mem).1, sorted⟩

theorem diff_canonical {a b : CodeSet} (ha : a.Canonical) (hb : b.Canonical) :
    (a.diff b).Canonical := inter_canonical ha (complement_canonical hb)

theorem symmDiff_canonical {a b : CodeSet} (ha : a.Canonical) (hb : b.Canonical) :
    (a.symmDiff b).Canonical := diff_canonical (union_canonical ha hb) (inter_canonical ha hb)

theorem foldl_insert_code_canonical {α : Type} (pairs : List α) (wanted : α → Bool)
    (code : α → Nat) (valid : ∀ p ∈ pairs, (code p).isValidChar) {s : CodeSet}
    (hs : s.Canonical) :
    (pairs.foldl (fun acc p => if wanted p then acc.insert ⟨code p, code p⟩ else acc)
      s).Canonical := by
  induction pairs generalizing s with
  | nil => exact hs
  | cons p rest ih =>
    have tail : ∀ q ∈ rest, (code q).isValidChar :=
      fun q mem => valid q (List.mem_cons_of_mem p mem)
    have here := valid p (by simp)
    simp only [List.foldl_cons]
    split
    · exact ih tail (insert_canonical hs ⟨Nat.le_refl _, here, here⟩)
    · exact ih tail hs

theorem folds_valid : ∀ p ∈ folds, p.1.isValidChar ∧ p.2.isValidChar := by
  have checked : (folds.all fun p => decide p.1.isValidChar && decide p.2.isValidChar) = true := by
    decide +kernel
  intro p mem
  simpa using List.all_eq_true.mp checked p mem

theorem closeCase_canonical {s : CodeSet} (h : s.Canonical) : s.closeCase.Canonical := by
  have folded (t : CodeSet) (ht : t.Canonical) : t.insertFolds.Canonical := by
    unfold insertFolds
    exact foldl_insert_code_canonical folds (fun p => containsCode t.ranges p.1) (·.2)
      (fun p mem => (folds_valid p mem).2) ht
  have unfolded (t : CodeSet) (ht : t.Canonical) : t.insertFolded.Canonical := by
    unfold insertFolded
    exact foldl_insert_code_canonical folds (fun p => containsCode t.ranges p.2) (·.1)
      (fun p mem => (folds_valid p mem).1) ht
  exact unfolded _ (folded s h)

theorem ascii_valid {n : Nat} (h : n < 128) : n.isValidChar := Or.inl (by omega)

theorem moved_valid {s : CodeSet} (h : s.Canonical) (lo hi : Nat) (move : Nat → Nat)
    (ordered : ∀ a b, a ≤ b → move a ≤ move b)
    (ascii : ∀ n, lo ≤ n → n ≤ hi → move n < 128) (valid : (CodeRange.mk lo hi).Valid) :
    ∀ r ∈ (s.inter (range lo hi)).ranges.map (fun r => CodeRange.mk (move r.lo) (move r.hi)),
      r.Valid ∧ r.hi < 128 := by
  intro r mem
  obtain ⟨x, hx, rfl⟩ := List.mem_map.mp mem
  have ordered_x := ((inter_canonical h (range_canonical valid)).valid x hx).ordered
  simp only [inter, range, List.mem_flatMap, List.mem_filterMap, List.mem_singleton] at hx
  obtain ⟨y, _, z, rfl, shared⟩ := hx
  obtain ⟨rfl, _⟩ := CodeSet.inter?_bounds shared
  simp only at ordered_x ⊢
  have first := ascii (max y.lo lo) (by omega) (by omega)
  have last := ascii (min y.hi hi) (by omega) (by omega)
  exact ⟨⟨ordered _ _ ordered_x, ascii_valid first, ascii_valid last⟩, last⟩

theorem closeAsciiCase_canonical {s : CodeSet} (h : s.Canonical) :
    s.closeAsciiCase.Canonical := by
  have upper := moved_valid h 0x41 0x5A (· + 32) (by intro a b; omega) (by intro n; omega)
    ⟨by decide, by decide, by decide⟩
  have lower := moved_valid h 0x61 0x7A (· - 32) (by intro a b; omega) (by intro n; omega)
    ⟨by decide, by decide, by decide⟩
  exact foldl_insert_canonical _ (foldl_insert_canonical _ h fun r mem => (upper r mem).1)
    fun r mem => (lower r mem).1

theorem isAscii_iff (s : CodeSet) : s.isAscii = true ↔ ∀ r ∈ s.ranges, r.hi < 128 := by
  simp [isAscii]

theorem foldl_insert_ascii {s : CodeSet} (rs : List CodeRange) (hs : s.isAscii = true)
    (new : ∀ r ∈ rs, r.hi < 128) : (rs.foldl insert s).isAscii = true := by
  rw [isAscii_iff] at hs ⊢
  exact foldl_insert_all (by intro a b ha hb; simp only; omega) rs hs new

theorem union_ascii {a b : CodeSet} (ha : a.isAscii = true) (hb : b.isAscii = true) :
    (a.union b).isAscii = true := foldl_insert_ascii b.ranges ha ((isAscii_iff b).mp hb)

theorem inter_ascii {a b : CodeSet} (ha : a.isAscii = true) : (a.inter b).isAscii = true := by
  rw [isAscii_iff] at ha ⊢
  intro r mem
  simp only [inter, List.mem_flatMap, List.mem_filterMap] at mem
  obtain ⟨x, hx, y, _, shared⟩ := mem
  obtain ⟨rfl, _⟩ := inter?_bounds shared
  have bound := ha x hx
  simp only
  omega

theorem closeAsciiCase_ascii {s : CodeSet} (h : s.Canonical) (ascii : s.isAscii = true) :
    s.closeAsciiCase.isAscii = true := by
  have upper := moved_valid h 0x41 0x5A (· + 32) (by intro a b; omega) (by intro n; omega)
    ⟨by decide, by decide, by decide⟩
  have lower := moved_valid h 0x61 0x7A (· - 32) (by intro a b; omega) (by intro n; omega)
    ⟨by decide, by decide, by decide⟩
  exact foldl_insert_ascii _ (foldl_insert_ascii _ ascii fun r mem => (upper r mem).2)
    fun r mem => (lower r mem).2

end CodeSet

/-- The parts that a range is written in: its bounds where they are neighbours, else itself. -/
def CodeRange.atoms (r : CodeRange) : List CodeRange :=
  if r.lo + 1 = r.hi then [⟨r.lo, r.lo⟩, ⟨r.hi, r.hi⟩] else [r]

namespace CodeSet

theorem insertRange_last (r : CodeRange) (rs : List CodeRange) (h : r.Valid)
    (valid : ∀ x ∈ rs, x.Valid) (before : ∀ x ∈ rs, x.Before r) :
    insertRange r rs = rs ++ [r] := by
  induction rs with
  | nil => rfl
  | cons s rest ih =>
    have ordered := h.ordered
    have ordered_s := (valid s (by simp)).ordered
    have apart := before s (by simp)
    simp only [CodeRange.Before] at apart
    have late : ¬ r.hi + 1 < s.lo := by omega
    simp only [insertRange, late, ↓reduceIte, apart, List.cons_append]
    rw [ih (fun x mem => valid x (List.mem_cons_of_mem s mem))
      (fun x mem => before x (List.mem_cons_of_mem s mem))]

theorem insertRange_touching (lo : Nat) (rs : List CodeRange)
    (before : ∀ x ∈ rs, x.lo ≤ x.hi ∧ x.hi + 1 < lo) :
    insertRange ⟨lo + 1, lo + 1⟩ (rs ++ [⟨lo, lo⟩]) = rs ++ [⟨lo, lo + 1⟩] := by
  induction rs with
  | nil =>
    simp [insertRange]
    omega
  | cons s rest ih =>
    have apart := before s (by simp)
    have late : ¬ lo + 1 + 1 < s.lo := by omega
    have skip : s.hi + 1 < lo + 1 := by omega
    simp only [List.cons_append, insertRange, late, ↓reduceIte, skip]
    rw [ih (fun x mem => before x (List.mem_cons_of_mem s mem))]

theorem foldl_insert_atoms (r : CodeRange) (rs : List CodeRange) (h : r.Valid)
    (valid : ∀ x ∈ rs, x.Valid) (before : ∀ x ∈ rs, x.Before r) :
    r.atoms.foldl insert ⟨rs⟩ = ⟨rs ++ [r]⟩ := by
  unfold CodeRange.atoms
  split
  · rename_i neighbours
    have first : (CodeRange.mk r.lo r.lo).Valid := ⟨Nat.le_refl _, h.first, h.first⟩
    have alone := insertRange_last ⟨r.lo, r.lo⟩ rs first valid before
    have bounds : ∀ x ∈ rs, x.lo ≤ x.hi ∧ x.hi + 1 < r.lo :=
      fun x mem => ⟨(valid x mem).ordered, before x mem⟩
    have whole : r = ⟨r.lo, r.lo + 1⟩ := by cases r; simp_all
    simp only [List.foldl_cons, List.foldl_nil, insert, alone]
    rw [← neighbours, insertRange_touching r.lo rs bounds, ← whole]
  · simp [insert, insertRange_last r rs h valid before]

/-- A canonical set is what its parts make up when they are added one by one. -/
theorem foldl_insert_all_atoms {s : CodeSet} (h : s.Canonical) :
    (s.ranges.flatMap CodeRange.atoms).foldl insert empty = s := by
  have general (rs done : List CodeRange) (valid : ∀ r ∈ done ++ rs, r.Valid)
      (sorted : (done ++ rs).Pairwise CodeRange.Before) :
      (rs.flatMap CodeRange.atoms).foldl insert ⟨done⟩ = ⟨done ++ rs⟩ := by
    induction rs generalizing done with
    | nil => simp
    | cons r rest ih =>
      obtain ⟨_, _, before⟩ := List.pairwise_append.mp sorted
      rw [List.flatMap_cons, List.foldl_append,
        foldl_insert_atoms r done (valid r (by simp))
          (fun x mem => valid x (List.mem_append_left _ mem))
          (fun x mem => before x mem r (by simp)),
        ih (done ++ [r]) (by simpa using valid) (by simpa using sorted)]
      simp
  exact general s.ranges [] (by simpa using h.valid) (by simpa using h.sorted)

end CodeSet

end TextCursor.Unicode
