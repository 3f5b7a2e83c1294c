import TextCursor.Pattern.Lower
import TextCursor.Proofs.Pattern.Sound
import TextCursor.Proofs.Unicode.Tables
/-!
The form in which trees are built. `ofSet`, `repeated`, `concatenation` and `anyOf` keep a tree normal:
nothing in it could be simplified again on its own. So the tree of every written pattern is normal,
and its capture groups are among those of the pattern, in the same order.
-/
namespace TextCursor.Pattern

open Unicode (CodeSet CodeRange)

namespace Tree

structure NormalCodes (bytes : Bool) (set : CodeSet) : Prop where
  canonical : set.Canonical
  several : set.single? = none
  ascii : bytes = true → set.isAscii = true
  fails : set.isEmpty = true → bytes = true

structure NormalRepetition (count : Count) (sub : Tree) : Prop where
  bounded : count.Bounded
  notNever : count ≠ ⟨0, some 0⟩
  notOnce : count ≠ ⟨1, some 1⟩
  option : sub.onlyEmpty = true → count = ⟨0, some 1⟩

def isLiteral : Tree → Bool
  | literal _ => true
  | _ => false

def Unjoined : List Tree → Prop
  | [] => True
  | t :: rest => (t.isLiteral = true → rest.head?.any isLiteral = false) ∧ Unjoined rest

structure NormalParts (parts : List Tree) : Prop where
  several : 2 ≤ parts.length
  flat : ∀ t ∈ parts, t.asParts = [t]
  unjoined : Unjoined parts

structure NormalBranches (branches : List Tree) : Prop where
  several : 2 ≤ branches.length
  flat : ∀ t ∈ branches, t.asBranches = [t]
  chars : branches.mapM singleChar? = none
  sets : branches.mapM set? = none

mutual

/-- Nothing in the tree could be simplified again, but for what its branches begin with. -/
def Normal : Tree → Prop
  | empty => True
  | literal chars => chars ≠ []
  | codes bytes set => NormalCodes bytes set
  | look _ => True
  | repetition count _ sub => NormalRepetition count sub ∧ sub.Normal
  | capture _ name sub => (∀ n, name = some n → ValidName n) ∧ sub.Normal
  | concat parts => NormalParts parts ∧ AllNormal parts
  | alternation branches => NormalBranches branches ∧ AllNormal branches

def AllNormal : List Tree → Prop
  | [] => True
  | t :: rest => t.Normal ∧ AllNormal rest

end

theorem allNormal_iff (ts : List Tree) : AllNormal ts ↔ ∀ t ∈ ts, t.Normal := by
  induction ts with
  | nil => simp [AllNormal]
  | cons t rest ih => simp [AllNormal, ih]

theorem capturesAll_append (a b : List Tree) :
    capturesAll (a ++ b) = capturesAll a ++ capturesAll b := by
  induction a with
  | nil => rfl
  | cons t rest ih => simp [capturesAll, ih]

theorem capturesAll_sublist {a b : List Tree} (h : a.Sublist b) :
    (capturesAll a).Sublist (capturesAll b) := by
  induction h with
  | slnil => exact List.Sublist.refl _
  | cons t _ ih => exact ih.trans (List.sublist_append_right _ _)
  | cons_cons t _ ih => exact (List.Sublist.refl _).append ih

theorem fail_normal : fail.Normal :=
  ⟨CodeSet.empty_canonical, rfl, fun _ => rfl, fun _ => rfl⟩

theorem ofSet_normal {bytes : Bool} {set : CodeSet} (canonical : set.Canonical)
    (ascii : bytes = true → set.isAscii = true) : (ofSet bytes set).Normal := by
  unfold ofSet
  split
  · exact fail_normal
  · rename_i nonempty
    split
    · exact List.cons_ne_nil _ _
    · rename_i several
      exact ⟨canonical, several, ascii, fun h => absurd h nonempty⟩

theorem ofSet_captures (bytes : Bool) (set : CodeSet) : (ofSet bytes set).captures = [] := by
  unfold ofSet
  split
  · rfl
  · split <;> rfl

theorem capped_ordered {count : Count} (h : count.Bounded) :
    min count.least 1 ≤ (count.most.map (min · 1)).getD 1 ∧
      (count.most.map (min · 1)).getD 1 ≤ 1 := by
  cases same : count.most with
  | none => exact ⟨Nat.min_le_right _ _, Nat.le_refl _⟩
  | some most =>
    have ordered := (h.most most same).1
    refine ⟨?_, Nat.min_le_right _ _⟩
    change min count.least 1 ≤ min most 1
    omega

theorem capCount_bounded {count : Count} (h : count.Bounded) (sub : Tree) :
    (capCount count sub).Bounded ∧
      (sub.onlyEmpty = true → capCount count sub = ⟨0, some 0⟩ ∨
        capCount count sub = ⟨0, some 1⟩ ∨ capCount count sub = ⟨1, some 1⟩) := by
  obtain ⟨ordered, high⟩ := capped_ordered h
  have small : 1 ≤ maxRepetition := by decide
  unfold capCount
  split
  · generalize min count.least 1 = least at *
    generalize (count.most.map (min · 1)).getD 1 = most at *
    refine ⟨⟨?_, ?_⟩, ?_⟩
    · exact Nat.le_trans (Nat.le_trans ordered high) small
    · intro m same
      cases Option.some.inj same
      exact ⟨ordered, Nat.le_trans high small⟩
    · intro _
      have bounds : least = 0 ∧ most = 0 ∨ least = 0 ∧ most = 1 ∨ least = 1 ∧ most = 1 := by omega
      rcases bounds with ⟨rfl, rfl⟩ | ⟨rfl, rfl⟩ | ⟨rfl, rfl⟩
      · exact Or.inl rfl
      · exact Or.inr (Or.inl rfl)
      · exact Or.inr (Or.inr rfl)
  · rename_i several
    exact ⟨h, fun only => absurd only several⟩

theorem repeated_normal {count : Count} {sub : Tree} (greedy : Bool) (bounded : count.Bounded)
    (normal : sub.Normal) : (repeated count greedy sub).Normal := by
  obtain ⟨capped, only⟩ := capCount_bounded bounded sub
  simp only [repeated]
  split
  · trivial
  · rename_i notNever
    split
    · exact normal
    · rename_i notOnce
      refine ⟨⟨capped, notNever, notOnce, ?_⟩, normal⟩
      intro empty
      rcases only empty with never | option | once
      · exact absurd never notNever
      · exact option
      · exact absurd once notOnce

theorem repeated_captures (count : Count) (greedy : Bool) (sub : Tree) :
    (repeated count greedy sub).captures.Sublist sub.captures := by
  simp only [repeated]
  split
  · exact List.nil_sublist _
  · split <;> exact List.Sublist.refl _

theorem asParts_normal {t : Tree} (normal : t.Normal) :
    ∀ p ∈ t.asParts, p.Normal ∧ p.asParts = [p] := by
  cases t with
  | empty => exact fun p mem => absurd mem List.not_mem_nil
  | concat parts =>
    intro p mem
    exact ⟨(allNormal_iff parts).mp normal.2 p mem, normal.1.flat p mem⟩
  | _ =>
    intro p mem
    rw [List.mem_singleton.mp mem]
    exact ⟨normal, rfl⟩

theorem asParts_captures (t : Tree) : capturesAll t.asParts = t.captures := by
  cases t <;> simp [asParts, capturesAll, captures]

theorem flatMap_asParts_captures (ts : List Tree) :
    capturesAll (ts.flatMap asParts) = capturesAll ts := by
  induction ts with
  | nil => rfl
  | cons t rest ih => simp [capturesAll_append, capturesAll, asParts_captures, ih]

theorem joinLiterals_cons (t : Tree) (rest : List Tree) :
    (∃ a b more, t = literal a ∧ joinLiterals rest = literal b :: more ∧
      joinLiterals (t :: rest) = literal (a ++ b) :: more) ∨
    ((t.isLiteral = true → (joinLiterals rest).head?.any isLiteral = false) ∧
      joinLiterals (t :: rest) = t :: joinLiterals rest) := by
  cases t with
  | literal a =>
    cases same : joinLiterals rest with
    | nil => exact Or.inr ⟨fun _ => rfl, by simp [joinLiterals, same]⟩
    | cons next more =>
      cases next with
      | literal b => exact Or.inl ⟨a, b, more, rfl, rfl, by simp [joinLiterals, same]⟩
      | _ => exact Or.inr ⟨fun _ => rfl, by simp [joinLiterals, same]⟩
  | _ => exact Or.inr ⟨by simp [isLiteral], by simp [joinLiterals]⟩

theorem joinLiterals_normal (ts : List Tree) (all : ∀ t ∈ ts, t.Normal ∧ t.asParts = [t]) :
    (∀ t ∈ joinLiterals ts, t.Normal ∧ t.asParts = [t]) ∧ Unjoined (joinLiterals ts) := by
  induction ts with
  | nil => exact ⟨by simp [joinLiterals], trivial⟩
  | cons t rest ih =>
    obtain ⟨here, later⟩ := List.forall_mem_cons.mp all
    obtain ⟨inner, unjoined⟩ := ih later
    rcases joinLiterals_cons t rest with ⟨a, b, more, rfl, tail, whole⟩ | ⟨apart, whole⟩
    · rw [tail] at inner unjoined
      obtain ⟨_, others⟩ := List.forall_mem_cons.mp inner
      have joined : (literal (a ++ b)).Normal := by
        have : a ≠ [] := here.1
        simp [Normal, this]
      rw [whole]
      exact ⟨List.forall_mem_cons.mpr ⟨⟨joined, rfl⟩, others⟩, unjoined⟩
    · rw [whole]
      exact ⟨List.forall_mem_cons.mpr ⟨here, inner⟩, apart, unjoined⟩

theorem joinLiterals_captures (ts : List Tree) :
    capturesAll (joinLiterals ts) = capturesAll ts := by
  induction ts with
  | nil => rfl
  | cons t rest ih =>
    rcases joinLiterals_cons t rest with ⟨a, b, more, rfl, tail, whole⟩ | ⟨_, whole⟩
    · rw [whole]
      rw [tail] at ih
      simpa [capturesAll, captures] using ih
    · rw [whole]
      simp [capturesAll, ih]

theorem joinLiterals_eq {ts : List Tree} (h : Unjoined ts) : joinLiterals ts = ts := by
  induction ts with
  | nil => rfl
  | cons t rest ih =>
    obtain ⟨apart, unjoined⟩ := h
    have same := ih unjoined
    rcases joinLiterals_cons t rest with ⟨a, b, more, rfl, tail, _⟩ | ⟨_, whole⟩
    · rw [same] at tail
      have := apart rfl
      simp [tail, isLiteral] at this
    · rw [whole, same]

theorem flatMap_flat {f : Tree → List Tree} {ts : List Tree} (flat : ∀ t ∈ ts, f t = [t]) :
    ts.flatMap f = ts := by
  induction ts with
  | nil => rfl
  | cons t rest ih =>
    obtain ⟨here, later⟩ := List.forall_mem_cons.mp flat
    simp [here, ih later]

theorem concatenation_normal {ts : List Tree} (all : ∀ t ∈ ts, t.Normal) :
    (concatenation ts).Normal := by
  have parts : ∀ p ∈ ts.flatMap asParts, p.Normal ∧ p.asParts = [p] := by
    intro p mem
    obtain ⟨t, given, part⟩ := List.mem_flatMap.mp mem
    exact asParts_normal (all t given) p part
  obtain ⟨normal, unjoined⟩ := joinLiterals_normal _ parts
  unfold concatenation
  cases same : joinLiterals (ts.flatMap asParts) with
  | nil => trivial
  | cons t rest =>
    rw [same] at normal unjoined
    cases rest with
    | nil => exact (normal t List.mem_cons_self).1
    | cons u rest =>
      exact ⟨⟨by simp, fun p mem => (normal p mem).2, unjoined⟩,
        (allNormal_iff _).mpr fun p mem => (normal p mem).1⟩

theorem concatenation_captures (ts : List Tree) :
    (concatenation ts).captures = capturesAll ts := by
  rw [← flatMap_asParts_captures ts, ← joinLiterals_captures (ts.flatMap asParts)]
  unfold concatenation
  split
  · rename_i none
    rw [none]
    rfl
  · rename_i t one
    rw [one]
    simp [capturesAll]
  · rfl

theorem concatenation_eq {parts : List Tree} (normal : NormalParts parts) :
    concatenation parts = concat parts := by
  unfold concatenation
  rw [flatMap_flat normal.flat, joinLiterals_eq normal.unjoined]
  match parts, normal.several with
  | [], few => simp at few
  | [_], few => simp at few
  | _ :: _ :: _, _ => rfl

theorem asBranches_normal {t : Tree} (normal : t.Normal) :
    ∀ b ∈ t.asBranches, b.Normal ∧ b.asBranches = [b] := by
  cases t with
  | alternation branches =>
    intro b mem
    exact ⟨(allNormal_iff branches).mp normal.2 b mem, normal.1.flat b mem⟩
  | _ =>
    intro b mem
    rw [List.mem_singleton.mp mem]
    exact ⟨normal, rfl⟩

theorem flatMap_asBranches_captures (ts : List Tree) :
    capturesAll (ts.flatMap asBranches) = capturesAll ts := by
  have single (t : Tree) : capturesAll t.asBranches = t.captures := by
    cases t <;> simp [asBranches, capturesAll, captures]
  induction ts with
  | nil => rfl
  | cons t rest ih => simp [capturesAll_append, capturesAll, single, ih]

theorem mapM_set?_canonical {bs : List Tree} (normal : ∀ b ∈ bs, b.Normal) {sets : List CodeSet}
    (h : bs.mapM set? = some sets) : ∀ s ∈ sets, s.Canonical := by
  induction bs generalizing sets with
  | nil =>
    cases h
    simp
  | cons b rest ih =>
    simp only [List.mapM_cons, Option.bind_eq_bind, Option.bind_eq_some_iff] at h
    obtain ⟨set, here, others, there, made⟩ := h
    cases made
    refine List.forall_mem_cons.mpr ⟨?_, ih (List.forall_mem_cons.mp normal).2 there⟩
    have : b.Normal := normal b List.mem_cons_self
    cases b <;> cases here
    exact this.canonical

theorem anyOfDistinct_normal {ts : List Tree} (all : ∀ t ∈ ts, t.Normal) :
    (anyOfDistinct ts).Normal := by
  have branches : ∀ b ∈ ts.flatMap asBranches, b.Normal ∧ b.asBranches = [b] := by
    intro b mem
    obtain ⟨t, given, branch⟩ := List.mem_flatMap.mp mem
    exact asBranches_normal (all t given) b branch
  have singles (chars : Text) : ∀ s ∈ chars.map CodeSet.singleton, s.Canonical := by
    intro s mem
    obtain ⟨c, _, rfl⟩ := List.mem_map.mp mem
    exact CodeSet.singleton_canonical c
  unfold anyOfDistinct
  cases same : ts.flatMap asBranches with
  | nil => exact fail_normal
  | cons t rest =>
    rw [same] at branches
    cases rest with
    | nil => exact (branches t List.mem_cons_self).1
    | cons u rest =>
      simp only
      split
      · exact ofSet_normal (CodeSet.unions_canonical _ (singles _)) (by simp)
      · rename_i chars
        split
        · rename_i sets given
          have := mapM_set?_canonical (fun b mem => (branches b mem).1) given
          exact ofSet_normal (CodeSet.unions_canonical sets this) (by simp)
        · rename_i sets
          exact ⟨⟨by simp, fun b mem => (branches b mem).2, chars, sets⟩,
            (allNormal_iff _).mpr fun b mem => (branches b mem).1⟩

theorem anyOfDistinct_captures (ts : List Tree) :
    (anyOfDistinct ts).captures.Sublist (capturesAll ts) := by
  rw [← flatMap_asBranches_captures ts]
  unfold anyOfDistinct
  cases ts.flatMap asBranches with
  | nil => exact List.nil_sublist _
  | cons t rest =>
    cases rest with
    | nil => simp [capturesAll]
    | cons u rest =>
      simp only
      split
      · rw [ofSet_captures]
        exact List.nil_sublist _
      · split
        · rw [ofSet_captures]
          exact List.nil_sublist _
        · exact List.Sublist.refl _

theorem anyOfDistinct_eq {branches : List Tree} (normal : NormalBranches branches) :
    anyOfDistinct branches = alternation branches := by
  unfold anyOfDistinct
  rw [flatMap_flat normal.flat]
  match branches, normal with
  | [], few => exact absurd few.several (by simp)
  | [_], few => exact absurd few.several (by simp)
  | _ :: _ :: _, normal => simp only [normal.chars, normal.sets]

def sharedStart (branches : List Tree) : List Tree :=
  match branches.mapM parts? with
  | some (first :: others) => others.foldl commonStart first
  | _ => []

theorem anyOf_eq {branches : List Tree} (normal : NormalBranches branches)
    (apart : sharedStart branches = []) : anyOf branches = alternation branches := by
  unfold anyOf
  unfold sharedStart at apart
  rw [anyOfDistinct_eq normal]
  simp only
  split
  · rename_i first others same
    rw [same] at apart
    simp [apart]
  · rfl

theorem mapM_parts?_eq {bs : List Tree} {pss : List (List Tree)}
    (h : bs.mapM parts? = some pss) : bs = pss.map concat := by
  induction bs generalizing pss with
  | nil =>
    cases h
    rfl
  | cons b rest ih =>
    simp only [List.mapM_cons, Option.bind_eq_bind, Option.bind_eq_some_iff] at h
    obtain ⟨parts, here, others, there, made⟩ := h
    cases made
    rw [List.map_cons, ← ih there]
    cases b <;> cases here
    rfl

theorem commonStart_begins (a b : List Tree) : commonStart a b <+: a ∧ commonStart a b <+: b := by
  induction a generalizing b with
  | nil => simp [commonStart]
  | cons t rest ih =>
    cases b with
    | nil => simp [commonStart]
    | cons u more =>
      simp only [commonStart]
      split
      · rename_i same
        subst same
        obtain ⟨left, right⟩ := ih more
        exact ⟨List.cons_prefix_cons.mpr ⟨rfl, left⟩, List.cons_prefix_cons.mpr ⟨rfl, right⟩⟩
      · exact ⟨List.nil_prefix, List.nil_prefix⟩

theorem foldl_commonStart_begins (others : List (List Tree)) (first : List Tree) :
    ∀ parts ∈ first :: others, others.foldl commonStart first <+: parts := by
  induction others generalizing first with
  | nil => simp
  | cons next rest ih =>
    obtain ⟨shared, later⟩ := List.forall_mem_cons.mp (ih (commonStart first next))
    obtain ⟨left, right⟩ := commonStart_begins first next
    exact List.forall_mem_cons.mpr ⟨shared.trans left,
      List.forall_mem_cons.mpr ⟨shared.trans right, later⟩⟩

theorem capturesAll_dropped (n : Nat) (pss : List (List Tree)) :
    (capturesAll (pss.map fun parts => concatenation (parts.drop n))).Sublist
      (capturesAll (pss.map concat)) := by
  induction pss with
  | nil => exact List.Sublist.refl _
  | cons parts rest ih =>
    simp only [List.map_cons, capturesAll, concatenation_captures, captures]
    exact (capturesAll_sublist (List.drop_sublist n parts)).append ih

theorem anyOf_cases (ts : List Tree) :
    anyOf ts = anyOfDistinct ts ∨
      ∃ first others common, anyOfDistinct ts = alternation ((first :: others).map concat) ∧
        (∀ parts ∈ first :: others, common <+: parts) ∧
        anyOf ts = concatenation (common ++ [anyOfDistinct ((first :: others).map fun parts =>
          concatenation (parts.drop common.length))]) := by
  unfold anyOf
  split
  · rename_i branches same
    split
    · rename_i first others found
      simp only
      split
      · exact Or.inl same.symm
      · refine Or.inr ⟨first, others, _, ?_, foldl_commonStart_begins others first, rfl⟩
        rw [same, mapM_parts?_eq found]
    · exact Or.inl same.symm
  · exact Or.inl rfl

theorem anyOf_normal {ts : List Tree} (all : ∀ t ∈ ts, t.Normal) : (anyOf ts).Normal := by
  have distinct := anyOfDistinct_normal all
  rcases anyOf_cases ts with same | ⟨first, others, common, whole, start, same⟩
  · rw [same]
    exact distinct
  · rw [whole] at distinct
    have inside : ∀ parts ∈ first :: others, ∀ p ∈ parts, p.Normal := by
      intro parts mem p part
      have := (allNormal_iff _).mp distinct.2 (concat parts) (List.mem_map_of_mem mem)
      exact (allNormal_iff parts).mp this.2 p part
    have rest : ∀ b ∈ (first :: others).map fun parts =>
        concatenation (parts.drop common.length), b.Normal := by
      intro b mem
      obtain ⟨parts, given, rfl⟩ := List.mem_map.mp mem
      exact concatenation_normal fun p part => inside parts given p (List.mem_of_mem_drop part)
    rw [same]
    refine concatenation_normal ?_
    intro p mem
    rcases List.mem_append.mp mem with front | back
    · exact inside first List.mem_cons_self p ((start first List.mem_cons_self).subset front)
    · rw [List.mem_singleton.mp back]
      exact anyOfDistinct_normal rest

theorem anyOf_captures (ts : List Tree) : (anyOf ts).captures.Sublist (capturesAll ts) := by
  have distinct := anyOfDistinct_captures ts
  rcases anyOf_cases ts with same | ⟨first, others, common, whole, start, same⟩
  · rw [same]
    exact distinct
  · rw [whole] at distinct
    refine List.Sublist.trans ?_ distinct
    obtain ⟨tail, split⟩ := start first List.mem_cons_self
    have dropped : first.drop common.length = tail := by simp [← split]
    rw [same, concatenation_captures, capturesAll_append]
    simp only [capturesAll, List.append_nil, captures, List.map_cons]
    rw [← split, capturesAll_append, List.append_assoc]
    refine (List.Sublist.refl _).append ((anyOfDistinct_captures _).trans ?_)
    simp only [capturesAll, split, dropped, concatenation_captures]
    exact (List.Sublist.refl _).append (capturesAll_dropped _ others)

end Tree

structure Admitted (flags : Flags) (set : CodeSet) : Prop where
  canonical : set.Canonical
  ascii : flags.unicode = false → set.isAscii = true

theorem foldCase_admitted {flags : Flags} {set : CodeSet} (h : Admitted flags set) :
    Admitted flags (foldCase flags set) := by
  unfold foldCase
  split
  · exact h
  · split
    · rename_i unicode
      exact ⟨CodeSet.closeCase_canonical h.canonical, by simp [unicode]⟩
    · exact ⟨CodeSet.closeAsciiCase_canonical h.canonical,
        fun bytes => CodeSet.closeAsciiCase_ascii h.canonical (h.ascii bytes)⟩

theorem negate_admitted {flags : Flags} {span : Span} {negated : Bool} {set made : CodeSet}
    (h : Admitted flags set) (lowered : negate flags span negated set = .ok made) :
    Admitted flags made := by
  unfold negate at lowered
  split at lowered
  · cases lowered
    exact h
  · split at lowered
    · rename_i unicode
      cases lowered
      exact ⟨CodeSet.complement_canonical h.canonical, by simp [unicode]⟩
    · exact absurd lowered fault_ne_ok

theorem asciiClass_admitted (flags : Flags) (kind : AsciiClass) : Admitted flags kind.set := by
  constructor
  · cases kind <;> exact Unicode.checked_canonical (by decide)
  · intro _
    cases kind <;> decide

theorem shorthand_admitted {flags : Flags} {p : ShorthandItem} {set : CodeSet}
    (h : p.lower flags = .ok set) : Admitted flags set := by
  refine negate_admitted ?_ h
  cases same : flags.unicode with
  | true =>
    refine ⟨?_, by simp [same]⟩
    cases p.kind
    · exact Unicode.table_canonical Unicode.digit (by simp [Unicode.digit, Unicode.tables])
    · exact Unicode.table_canonical Unicode.whiteSpace (by simp [Unicode.tables])
    · exact Unicode.word_canonical
  | false =>
    cases p.kind
    · exact asciiClass_admitted flags .digit
    · exact asciiClass_admitted flags .space
    · exact asciiClass_admitted flags .word

theorem property_admitted {flags : Flags} {p : PropertyItem} {set : CodeSet}
    (h : p.lower flags = .ok set) : Admitted flags set := by
  simp only [PropertyItem.lower] at h
  split at h
  · exact absurd h fault_ne_ok
  · rename_i unicode
    split at h
    · rename_i found same
      have : Admitted flags found := ⟨Unicode.find_canonical same, by simp_all⟩
      exact negate_admitted (foldCase_admitted this) h
    · exact absurd h fault_ne_ok
    · exact absurd h fault_ne_ok

theorem singleton_ascii {c : Char} (h : c.toNat < 128) : (CodeSet.singleton c).isAscii = true := by
  simpa [CodeSet.isAscii, CodeSet.singleton, CodeSet.range] using h

theorem classScalar_eq {flags : Flags} {l : Literal} {c : Char}
    (h : l.classScalar flags = .ok c) :
    c = l.char ∧ (flags.unicode = false → c.toNat < 128) := by
  obtain ⟨d, scalar, h⟩ := bind_ok.mp h
  have same : d = l.char := by
    unfold Literal.scalar at scalar
    split at scalar
    · exact absurd scalar fault_ne_ok
    · cases scalar
      rfl
  split at h
  · exact absurd h fault_ne_ok
  · rename_i small
    cases h
    refine ⟨same, ?_⟩
    intro bytes
    simp [bytes] at small
    omega

theorem apply_admitted {flags : Flags} {a b : CodeSet} (kind : ClassOp) (left : Admitted flags a)
    (right : Admitted flags b) : Admitted flags (kind.apply a b) := by
  cases kind with
  | intersection =>
    exact ⟨CodeSet.inter_canonical left.canonical right.canonical,
      fun bytes => CodeSet.inter_ascii (left.ascii bytes)⟩
  | difference =>
    exact ⟨CodeSet.diff_canonical left.canonical right.canonical,
      fun bytes => CodeSet.inter_ascii (left.ascii bytes)⟩
  | symmetricDifference =>
    exact ⟨CodeSet.symmDiff_canonical left.canonical right.canonical,
      fun bytes => CodeSet.inter_ascii (CodeSet.union_ascii (left.ascii bytes) (right.ascii bytes))⟩

mutual

theorem classSet_admitted {flags : Flags} : (set : ClassSet) → set.Ordered → ∀ {made : CodeSet},
    set.lower flags = .ok made → Admitted flags made
  | .empty _, _, made, h => by
    cases h
    exact ⟨CodeSet.empty_canonical, fun _ => rfl⟩
  | .literal l, _, made, h => by
    obtain ⟨c, scalar, h⟩ := bind_ok.mp h
    cases h
    exact ⟨CodeSet.singleton_canonical c,
      fun bytes => singleton_ascii ((classScalar_eq scalar).2 bytes)⟩
  | .range _ lo hi, ordered, made, h => by
    obtain ⟨a, first, h⟩ := bind_ok.mp h
    obtain ⟨b, last, h⟩ := bind_ok.mp h
    obtain ⟨rfl, _⟩ := classScalar_eq first
    obtain ⟨rfl, small⟩ := classScalar_eq last
    cases h
    refine ⟨CodeSet.range_canonical ⟨ordered, Unicode.valid_char _, Unicode.valid_char _⟩, ?_⟩
    intro bytes
    simpa [CodeSet.isAscii, CodeSet.range] using small bytes
  | .ascii span negated kind, _, made, h =>
    negate_admitted (foldCase_admitted (asciiClass_admitted flags kind)) h
  | .property p, _, made, h => property_admitted h
  | .shorthand p, _, made, h => shorthand_admitted h
  | .bracketed span negated set, ordered, made, h => by
    obtain ⟨inner, lowered, h⟩ := bind_ok.mp h
    exact negate_admitted (foldCase_admitted (classSet_admitted set ordered lowered)) h
  | .union _ items, ordered, made, h =>
    classSets_admitted items ordered ⟨CodeSet.empty_canonical, fun _ => rfl⟩ h
  | .op _ kind lhs rhs, ordered, made, h => by
    obtain ⟨a, left, h⟩ := bind_ok.mp h
    obtain ⟨b, right, h⟩ := bind_ok.mp h
    cases h
    exact apply_admitted kind (foldCase_admitted (classSet_admitted lhs ordered.1 left))
      (foldCase_admitted (classSet_admitted rhs ordered.2 right))

theorem classSets_admitted {flags : Flags} : (items : List ClassSet) →
    ClassSet.AllOrdered items → ∀ {before made : CodeSet}, Admitted flags before →
      ClassSet.lowerAll flags before items = .ok made → Admitted flags made
  | [], _, before, made, earlier, h => by
    cases h
    exact earlier
  | item :: rest, ordered, before, made, earlier, h => by
    obtain ⟨set, here, h⟩ := bind_ok.mp h
    have new := classSet_admitted item ordered.1 here
    exact classSets_admitted rest ordered.2
      ⟨CodeSet.union_canonical earlier.canonical new.canonical,
        fun bytes => CodeSet.union_ascii (earlier.ascii bytes) (new.ascii bytes)⟩ h

end

theorem isAlpha_ascii {c : Char} (h : c.isAlpha = true) : c.toNat < 128 := by
  have same : c.toNat = c.val.toNat := rfl
  rcases Bool.or_eq_true_iff.mp h with upper | lower
  · have high : c.val ≤ 'Z'.val := (of_decide_eq_true upper).2
    have last : ('Z').val.toNat = 90 := rfl
    rw [UInt32.le_iff_toNat_le] at high
    omega
  · have high : c.val ≤ 'z'.val := of_decide_eq_true (Bool.and_eq_true_iff.mp lower).2
    have last : ('z').val.toNat = 122 := rfl
    rw [UInt32.le_iff_toNat_le] at high
    omega

theorem literal_normal {flags : Flags} {l : Literal} {t : Tree} (h : l.lower flags = .ok t) :
    t.Normal ∧ t.captures = [] := by
  obtain ⟨c, _, h⟩ := bind_ok.mp h
  split at h
  · rename_i folded
    cases h
    have single : Admitted flags (.singleton c) := by
      refine ⟨CodeSet.singleton_canonical c, ?_⟩
      intro bytes
      exact singleton_ascii (isAlpha_ascii (by simp_all))
    have set := foldCase_admitted single
    exact ⟨Tree.ofSet_normal set.canonical (fun bytes => set.ascii (by simpa using bytes)),
      Tree.ofSet_captures _ _⟩
  · cases h
    exact ⟨List.cons_ne_nil _ _, rfl⟩

theorem dotSet_canonical (flags : Flags) : (dotSet flags).Canonical := by
  unfold dotSet
  split
  · exact Unicode.table_canonical _ (by simp [Unicode.tables])
  · split
    · exact CodeSet.complement_canonical (Unicode.checked_canonical (by decide))
    · exact CodeSet.complement_canonical (Unicode.checked_canonical (by decide))

mutual

/-- The tree of a pattern is normal, and has no groups but those of the pattern. -/
theorem lower_normal : (a : Ast) → a.Sound → ∀ {flags flags' : Flags} {t : Tree},
    a.lower flags = .ok (t, flags') → t.Normal ∧ t.captures.Sublist a.captures
  | .empty _, _, _, _, _, h => by
    cases h
    exact ⟨trivial, List.Sublist.refl _⟩
  | .flags _ _, _, _, _, _, h => by
    cases h
    exact ⟨trivial, List.Sublist.refl _⟩
  | .literal l, _, _, _, _, h => by
    obtain ⟨t, lowered, h⟩ := bind_ok.mp h
    cases h
    obtain ⟨normal, none⟩ := literal_normal lowered
    exact ⟨normal, by simp [none]⟩
  | .dot _, _, flags, _, _, h => by
    simp only [Ast.lower] at h
    split at h
    · cases h
      exact ⟨Tree.ofSet_normal (dotSet_canonical flags) (by simp), by simp [Tree.ofSet_captures]⟩
    · exact absurd h fault_ne_ok
  | .assertion _ _, _, _, _, _, h => by
    cases h
    exact ⟨trivial, List.Sublist.refl _⟩
  | .property p, _, _, _, _, h => by
    obtain ⟨set, lowered, h⟩ := bind_ok.mp h
    cases h
    exact ⟨Tree.ofSet_normal (property_admitted lowered).canonical (by simp),
      by simp [Tree.ofSet_captures]⟩
  | .shorthand p, _, flags, _, _, h => by
    obtain ⟨set, lowered, h⟩ := bind_ok.mp h
    cases h
    have admitted := shorthand_admitted lowered
    exact ⟨Tree.ofSet_normal admitted.canonical (fun bytes => admitted.ascii (by simpa using bytes)),
      by simp [Tree.ofSet_captures]⟩
  | .bracketed span negated set, ordered, flags, _, _, h => by
    simp only [Ast.lower] at h
    obtain ⟨made, lowered, h⟩ := bind_ok.mp h
    cases h
    have admitted := classSet_admitted (.bracketed span negated set) ordered lowered
    exact ⟨Tree.ofSet_normal admitted.canonical (fun bytes => admitted.ascii (by simpa using bytes)),
      by simp [Tree.ofSet_captures]⟩
  | .repetition _ count greedy sub, sound, _, _, _, h => by
    simp only [Ast.lower, bind_ok, Prod.exists] at h
    obtain ⟨t, flags, lowered, h⟩ := h
    cases h
    obtain ⟨normal, fewer⟩ := lower_normal sub sound.2 lowered
    exact ⟨Tree.repeated_normal _ sound.1 normal, (Tree.repeated_captures _ _ t).trans fewer⟩
  | .group _ (.capture index name) sub, sound, _, _, _, h => by
    simp only [Ast.lower, bind_ok, Prod.exists] at h
    obtain ⟨t, flags, lowered, h⟩ := h
    cases h
    obtain ⟨normal, fewer⟩ := lower_normal sub sound.2 lowered
    exact ⟨⟨sound.1, normal⟩, fewer.cons_cons (index, name)⟩
  | .group _ (.plain _) sub, sound, _, _, _, h => by
    simp only [Ast.lower, bind_ok, Prod.exists] at h
    obtain ⟨t, flags, lowered, h⟩ := h
    cases h
    exact lower_normal sub sound.2 lowered
  | .alternation _ branches, sound, _, _, _, h => by
    simp only [Ast.lower, bind_ok, Prod.exists] at h
    obtain ⟨ts, flags, lowered, h⟩ := h
    cases h
    obtain ⟨normal, fewer⟩ := lowerAll_normal branches sound lowered
    exact ⟨Tree.anyOf_normal normal, (Tree.anyOf_captures ts).trans fewer⟩
  | .concat _ parts, sound, _, _, _, h => by
    simp only [Ast.lower, bind_ok, Prod.exists] at h
    obtain ⟨ts, flags, lowered, h⟩ := h
    cases h
    obtain ⟨normal, fewer⟩ := lowerAll_normal parts sound lowered
    refine ⟨Tree.concatenation_normal normal, ?_⟩
    rw [Tree.concatenation_captures]
    exact fewer

theorem lowerAll_normal : (as : List Ast) → Ast.AllSound as →
    ∀ {flags flags' : Flags} {ts : List Tree}, Ast.lowerAll flags as = .ok (ts, flags') →
      (∀ t ∈ ts, t.Normal) ∧ (Tree.capturesAll ts).Sublist (Ast.capturesAll as)
  | [], _, _, _, _, h => by
    cases h
    exact ⟨by simp, List.Sublist.refl _⟩
  | a :: rest, sound, _, _, _, h => by
    simp only [Ast.lowerAll, bind_ok, Prod.exists] at h
    obtain ⟨t, flags, here, ts, flags', there, h⟩ := h
    cases h
    obtain ⟨first, fewer⟩ := lower_normal a sound.1 here
    obtain ⟨others, fewerLater⟩ := lowerAll_normal rest sound.2 there
    exact ⟨List.forall_mem_cons.mpr ⟨first, others⟩, fewer.append fewerLater⟩

end

structure Tree.Written (t : Tree) : Prop where
  normal : t.Normal
  distinct : (t.captures.filterMap (·.2)).Nodup

theorem parse_lowered {modifiers : Modifiers} {text : Text} {t : Tree} :
    Tree.parse modifiers text = .ok t ↔ ∃ a flags,
      Ast.parse modifiers.ignoreWhitespace text = .ok a ∧
        a.lower (.ofModifiers modifiers) = .ok (t, flags) := by
  unfold Tree.parse
  cases Ast.parse modifiers.ignoreWhitespace text with
  | error f => simp
  | ok a =>
    cases lowered : a.lower (.ofModifiers modifiers) with
    | error f => simp [lowered]
    | ok made => simp [lowered, Prod.ext_iff]

theorem parse_written {modifiers : Modifiers} {text : Text} {t : Tree}
    (h : Tree.parse modifiers text = .ok t) : t.Written := by
  obtain ⟨a, flags, read, lowered⟩ := parse_lowered.mp h
  obtain ⟨sound, _, distinct⟩ := Ast.parse_read read
  obtain ⟨normal, fewer⟩ := lower_normal a sound lowered
  exact ⟨normal, distinct.sublist (fewer.filterMap _)⟩

end TextCursor.Pattern
