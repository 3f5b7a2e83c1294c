import TextCursor.Unicode.Property
import TextCursor.Proofs.Unicode.Canonical
/-!
The tables of the properties hold sets in canonical form. Each table is checked once, from its
first range to its last; the sets that are made from the tables follow.
-/
namespace TextCursor.Unicode
open Category Script

def checkRanges : Nat → List CodeRange → Bool
  | _, [] => true
  | least, r :: rest =>
    decide (least ≤ r.lo) && decide (r.lo ≤ r.hi) && decide r.lo.isValidChar &&
      decide r.hi.isValidChar && checkRanges (r.hi + 2) rest

theorem checkRanges_sound (least : Nat) (rs : List CodeRange) (h : checkRanges least rs = true) :
    (∀ r ∈ rs, r.Valid ∧ least ≤ r.lo) ∧ rs.Pairwise CodeRange.Before := by
  induction rs generalizing least with
  | nil => simp
  | cons r rest ih =>
    simp only [checkRanges, Bool.and_eq_true, decide_eq_true_eq] at h
    obtain ⟨⟨⟨⟨from_least, ordered⟩, first⟩, last⟩, tail⟩ := h
    obtain ⟨valid, sorted⟩ := ih (r.hi + 2) tail
    constructor
    · intro x mem
      rcases List.mem_cons.mp mem with same | later
      · exact same ▸ ⟨⟨ordered, first, last⟩, from_least⟩
      · obtain ⟨ok, after⟩ := valid x later
        exact ⟨ok, by omega⟩
    · refine List.pairwise_cons.mpr ⟨?_, sorted⟩
      intro x mem
      exact (valid x mem).2

theorem checked_canonical {s : CodeSet} (h : checkRanges 0 s.ranges = true) : s.Canonical :=
  ⟨fun r mem => ((checkRanges_sound 0 s.ranges h).1 r mem).1, (checkRanges_sound 0 s.ranges h).2⟩

def tables : List CodeSet :=
  [uppercaseLetter, lowercaseLetter, titlecaseLetter, modifierLetter, otherLetter, nonspacingMark,
    spacingMark, enclosingMark, decimalNumber, letterNumber, otherNumber, connectorPunctuation,
    dashPunctuation, openPunctuation, closePunctuation, initialPunctuation, finalPunctuation,
    otherPunctuation, spaceSeparator, lineSeparator, paragraphSeparator, control, format,
    privateUse, mathSymbol, currencySymbol, modifierSymbol, otherSymbol, greek, cyrillic, latin,
    arabic, hebrew, han, hiragana, katakana, hangul, common, inherited, otherAlphabetic,
    otherUppercase, otherLowercase, whiteSpace, joinControl, emoji, .all, .range 0 0x7F]

theorem table_canonical : ∀ s ∈ tables, s.Canonical := by
  have checked : (tables.all fun s => checkRanges 0 s.ranges) = true := by decide +kernel
  intro s mem
  exact checked_canonical (List.all_eq_true.mp checked s mem)

theorem unions_tables_canonical (sets : List CodeSet) (given : ∀ s ∈ sets, s ∈ tables) :
    (CodeSet.unions sets).Canonical :=
  CodeSet.unions_canonical sets fun s mem => table_canonical s (given s mem)

theorem casedLetter_canonical : casedLetter.Canonical :=
  unions_tables_canonical _ (by simp [tables])

theorem letter_canonical : letter.Canonical := by
  apply CodeSet.unions_canonical
  simp only [List.mem_cons, List.not_mem_nil, or_false, forall_eq_or_imp, forall_eq]
  exact ⟨casedLetter_canonical, table_canonical _ (by simp [tables]),
    table_canonical _ (by simp [tables])⟩

theorem mark_canonical : mark.Canonical := unions_tables_canonical _ (by simp [tables])

theorem number_canonical : number.Canonical := unions_tables_canonical _ (by simp [tables])

theorem punctuation_canonical : punctuation.Canonical :=
  unions_tables_canonical _ (by simp [tables])

theorem symbol_canonical : symbol.Canonical := unions_tables_canonical _ (by simp [tables])

theorem separator_canonical : separator.Canonical := unions_tables_canonical _ (by simp [tables])

theorem assigned_canonical : assigned.Canonical := by
  apply CodeSet.unions_canonical
  simp only [List.mem_cons, List.not_mem_nil, or_false, forall_eq_or_imp, forall_eq]
  exact ⟨letter_canonical, mark_canonical, number_canonical, punctuation_canonical,
    symbol_canonical, separator_canonical, table_canonical _ (by simp [tables]),
    table_canonical _ (by simp [tables]), table_canonical _ (by simp [tables])⟩

theorem unassigned_canonical : unassigned.Canonical :=
  CodeSet.complement_canonical assigned_canonical

theorem other_canonical : other.Canonical := by
  apply CodeSet.unions_canonical
  simp only [List.mem_cons, List.not_mem_nil, or_false, forall_eq_or_imp, forall_eq]
  exact ⟨table_canonical _ (by simp [tables]), table_canonical _ (by simp [tables]),
    unassigned_canonical, table_canonical _ (by simp [tables])⟩

theorem alphabetic_canonical : alphabetic.Canonical := by
  apply CodeSet.unions_canonical
  simp only [List.mem_cons, List.not_mem_nil, or_false, forall_eq_or_imp, forall_eq]
  exact ⟨letter_canonical, table_canonical _ (by simp [tables]),
    table_canonical _ (by simp [tables])⟩

theorem uppercase_canonical : uppercase.Canonical :=
  CodeSet.union_canonical (table_canonical _ (by simp [tables]))
    (table_canonical _ (by simp [tables]))

theorem lowercase_canonical : lowercase.Canonical :=
  CodeSet.union_canonical (table_canonical _ (by simp [tables]))
    (table_canonical _ (by simp [tables]))

theorem word_canonical : word.Canonical := by
  apply CodeSet.unions_canonical
  simp only [List.mem_cons, List.not_mem_nil, or_false, forall_eq_or_imp, forall_eq]
  exact ⟨alphabetic_canonical, mark_canonical, table_canonical _ (by simp [tables]),
    table_canonical _ (by simp [tables]), table_canonical _ (by simp [tables])⟩

def madeTables : List CodeSet :=
  [letter, casedLetter, mark, number, punctuation, symbol, separator, other, unassigned, assigned,
    alphabetic, uppercase, lowercase]

theorem made_canonical : ∀ s ∈ madeTables, s.Canonical := by
  simp only [madeTables, List.mem_cons, List.not_mem_nil, or_false, forall_eq_or_imp, forall_eq]
  exact ⟨letter_canonical, casedLetter_canonical, mark_canonical, number_canonical,
    punctuation_canonical, symbol_canonical, separator_canonical, other_canonical,
    unassigned_canonical, assigned_canonical, alphabetic_canonical, uppercase_canonical,
    lowercase_canonical⟩

theorem binary_named : ∀ s ∈ binaryByName.map (·.2), s ∈ tables ∨ s ∈ madeTables := by
  simp [binaryByName, tables, madeTables]

theorem category_named : ∀ s ∈ Category.byName.map (·.2), s ∈ tables ∨ s ∈ madeTables := by
  simp [Category.byName, tables, madeTables]

theorem script_named : ∀ s ∈ Script.byName.map (·.2), s ∈ tables ∨ s ∈ madeTables := by
  simp [Script.byName, tables]

theorem lookup_canonical {table : List (List String × CodeSet)} {name : String} {s : CodeSet}
    (named : ∀ s ∈ table.map (·.2), s ∈ tables ∨ s ∈ madeTables)
    (found : lookup table name = some s) : s.Canonical := by
  simp only [lookup, Option.map_eq_some_iff] at found
  obtain ⟨entry, search, rfl⟩ := found
  have mem := List.mem_map_of_mem (f := (·.2)) (List.mem_of_find?_eq_some search)
  rcases named entry.2 mem with given | made
  · exact table_canonical _ given
  · exact made_canonical _ made

theorem find_canonical {query : PropertyQuery} {s : CodeSet} (found : query.find = .ok s) :
    s.Canonical := by
  cases query with
  | named name =>
    simp only [PropertyQuery.find] at found
    split at found
    · rename_i t search
      cases found
      simp only [Option.orElse_eq_orElse, Option.orElse_eq_or, Option.or_eq_some_iff] at search
      rcases search with binary | ⟨_, category | ⟨_, script⟩⟩
      · exact lookup_canonical binary_named binary
      · exact lookup_canonical category_named category
      · exact lookup_canonical script_named script
    · cases found
  | valued property value =>
    simp only [PropertyQuery.find] at found
    split at found
    · split at found
      · rename_i t search
        cases found
        exact lookup_canonical category_named search
      · cases found
    · split at found
      · split at found
        · rename_i t search
          cases found
          exact lookup_canonical script_named search
        · cases found
      · split at found <;> cases found

end TextCursor.Unicode
