import TextCursor.Pattern.Print
import TextCursor.Proofs.Pattern.Levels
import TextCursor.Proofs.Pattern.Normal
import Mathlib.Data.List.Forall2
/-!
A set that was written out is read as a class of the same codepoints. Each range is written as one or
two items, whose text spells one codepoint or the two bounds of a range.
-/
namespace TextCursor.Pattern

open Unicode (CodeSet CodeRange)

structure Spells (flags : Flags) (text : Text) (c : Char) : Prop where
  head : ∃ x more, text = x :: more ∧ x ∉ ['[', ']', '&', '-', '~', '^']
  read : ∀ rest place, ∃ l place', l.char = c ∧ l.classScalar flags = .ok c ∧
    readClassElement false ⟨text ++ rest, place⟩ = .ok (.literal l, ⟨rest, place'⟩)

theorem readEscape_meta {c : Char} (h : isMeta c = true) (rest : Text) (place : Location) :
    ∃ span place', readEscape false ⟨'\\' :: c :: rest, place⟩ =
      .ok (.literal ⟨span, c, false⟩, ⟨rest, place'⟩) := by
  simp only [isMeta, List.contains_eq_mem, List.mem_cons, List.not_mem_nil, or_false,
    decide_eq_true_eq] at h
  rcases h with rfl | rfl | rfl | rfl | rfl | rfl | rfl | rfl | rfl | rfl | rfl | rfl | rfl |
    rfl | rfl | rfl | rfl | rfl <;> exact ⟨_, _, rfl⟩

theorem classScalar_ok {flags : Flags} {l : Literal}
    (small : flags.unicode = true ∨ l.char.toNat < 128) :
    l.classScalar flags = .ok l.char := by
  have notByte : (!flags.unicode && decide (0x7F < l.char.toNat)) = false := by
    rcases small with unicode | ascii
    · simp [unicode]
    · have : ¬ 0x7F < l.char.toNat := by omega
      simp [this]
  have scalar : l.scalar flags = .ok l.char := by
    unfold Literal.scalar
    rw [Bool.and_right_comm, notByte]
    rfl
  unfold Literal.classScalar
  rw [scalar]
  simp only [bind, Except.bind, notByte]
  rfl

theorem printChar_spells {flags : Flags} {c : Char}
    (small : flags.unicode = true ∨ c.toNat < 128) : Spells flags (printChar c) c := by
  unfold printChar
  split
  · rename_i special
    refine ⟨⟨'\\', [c], rfl, by decide⟩, ?_⟩
    intro rest place
    obtain ⟨span, place', read⟩ := readEscape_meta special rest place
    exact ⟨_, _, rfl, classScalar_ok small, read⟩
  · rename_i ordinary
    refine ⟨⟨c, [], rfl, ?_⟩, ?_⟩
    · intro special
      have : isMeta c = true := by
        simp only [List.mem_cons, List.not_mem_nil, or_false] at special
        rcases special with rfl | rfl | rfl | rfl | rfl | rfl <;> rfl
      exact ordinary this
    · intro rest place
      have : c ≠ '\\' := by
        rintro rfl
        exact ordinary rfl
      refine ⟨⟨⟨place, place.next c⟩, c, false⟩, place.next c, rfl, classScalar_ok small, ?_⟩
      simp [readClassElement, Reader.peek?, Reader.spanChar, Reader.bump]

theorem hexDigits_spell : ∀ n < 128, n ≤ 0x20 ∨ n = 0x7F →
    (Nat.digitChar (n / 16)).toUpper ≠ '\x7b' ∧
      isHexDigit (Nat.digitChar (n / 16)).toUpper = true ∧
      isHexDigit (Nat.digitChar (n % 16)).toUpper = true ∧
      hexChar? [(Nat.digitChar (n / 16)).toUpper, (Nat.digitChar (n % 16)).toUpper] =
        some (Char.ofNat n) := by
  decide +kernel

theorem readHex_two {h l c : Char} (open? : h ≠ '\x7b') (high : isHexDigit h = true)
    (low : isHexDigit l = true) (value : hexChar? [h, l] = some c) (rest : Text)
    (start place : Location) :
    ∃ span place', readHex false start ⟨'x' :: h :: l :: rest, place⟩ =
      .ok (⟨span, c, true⟩, ⟨rest, place'⟩) := by
  refine ⟨⟨start, ((place.next 'x').next h).next l⟩, ((place.next 'x').next h).next l, ?_⟩
  simp [readHex, Reader.bumpSkip, Reader.bump, Reader.skipBlanks, Reader.peek?,
    readHexDigits, high, low, value, bind, Except.bind]
  rfl

theorem printByte_spells {flags : Flags} {c : Char} (small : c.toNat < 128) :
    Spells flags (printByte c) c := by
  unfold printByte
  simp only
  split
  · rename_i control
    obtain ⟨open?, high, low, value⟩ := hexDigits_spell c.toNat small control
    rw [Char.ofNat_toNat] at value
    refine ⟨⟨'\\', _, rfl, by decide⟩, ?_⟩
    intro rest place
    obtain ⟨span, place', read⟩ := readHex_two open? high low value rest place (place.next '\\')
    refine ⟨⟨span, c, true⟩, place', rfl, classScalar_ok (Or.inr small), ?_⟩
    simp only [readClassElement, Reader.peek?, List.cons_append, List.nil_append, List.head?_cons,
      readEscape, Reader.bump]
    rw [if_neg (by decide), if_pos (by decide)]
    simp [read, bind, Except.bind]
  · exact printChar_spells (Or.inr small)

structure ItemFor (flags : Flags) (item : ClassSet) (r : CodeRange) : Prop where
  lowered : item.lower flags = .ok ⟨[r]⟩
  flat : item.levels = 0

def ItemsFor (flags : Flags) (items : List ClassSet) (ranges : List CodeRange) : Prop :=
  List.Forall₂ (ItemFor flags) items ranges

theorem ItemsFor.push {flags : Flags} {l : ItemList} {item : ClassSet} {ranges : List CodeRange}
    {r : CodeRange} (h : ItemsFor flags l.items ranges) (new : ItemFor flags item r) :
    ItemsFor flags (l.push item).items (ranges ++ [r]) :=
  List.rel_append h (.cons new .nil)

theorem lowerAll_items {flags : Flags} {items : List ClassSet} {ranges : List CodeRange}
    (h : ItemsFor flags items ranges) (before : CodeSet) :
    ClassSet.lowerAll flags before items = .ok (ranges.foldl CodeSet.insert before) := by
  induction h generalizing before with
  | nil => rfl
  | cons here _ ih =>
    simp only [ClassSet.lowerAll, here.lowered, bind, Except.bind, List.foldl_cons]
    exact ih _

theorem levelsAll_items {flags : Flags} {items : List ClassSet} {ranges : List CodeRange}
    (h : ItemsFor flags items ranges) : ClassSet.levelsAll items = 0 := by
  induction h with
  | nil => rfl
  | cons here _ ih => rw [ClassSet.levelsAll, here.flat, ih, Nat.max_self]

theorem toSet_lower {flags : Flags} {l : ItemList} {ranges : List CodeRange}
    (h : ItemsFor flags l.items ranges) :
    l.toSet.lower flags = .ok (ranges.foldl CodeSet.insert .empty) := by
  have all := lowerAll_items h .empty
  unfold ItemList.toSet
  split
  · rename_i none
    rw [none] at all
    exact all
  · rename_i item one
    rw [one] at h
    cases h with
    | cons here none =>
      cases none
      exact here.lowered
  · exact all

theorem toSet_levels {flags : Flags} {l : ItemList} {ranges : List CodeRange}
    (h : ItemsFor flags l.items ranges) :
    l.toSet.levels = if 2 ≤ ranges.length then 1 else 0 := by
  have all := levelsAll_items h
  have length := h.length_eq
  unfold ItemList.toSet
  split
  · rename_i none
    rw [none] at length
    simp [ClassSet.levels, ← length]
  · rename_i item one
    rw [one] at h length
    cases h with
    | cons here none =>
      cases none
      simpa using here.flat
  · rename_i none one
    rw [ClassSet.levels, all, if_pos]
    match same : l.items with
    | [] => exact absurd same none
    | [item] => exact absurd same (one item)
    | _ :: _ :: _ => simp [← length, same]

theorem readItem_single {flags : Flags} {frames : List ClassFrame} {text : Text} {c x : Char}
    (spelled : Spells flags text c) (more : Text) (place : Location) (other : x ≠ '-') :
    ∃ item place', ItemFor flags item ⟨c.toNat, c.toNat⟩ ∧
      readItem false frames ⟨text ++ x :: more, place⟩ = .ok (item, ⟨x :: more, place'⟩) := by
  obtain ⟨l, place', rfl, scalar, read⟩ := spelled.read (x :: more) place
  refine ⟨.literal l, place', ⟨?_, rfl⟩, ?_⟩
  · simp [ClassSet.lower, scalar, bind, Except.bind, CodeSet.singleton, CodeSet.range]
  · simp [readItem, read, bind, Except.bind, Reader.skipBlanks, Reader.atEnd, Reader.peek?, other,
      Element.toItem]

theorem readItem_range {flags : Flags} {frames : List ClassFrame} {text text' : Text}
    {lo hi : Char} (first : Spells flags text lo) (last : Spells flags text' hi)
    (ordered : lo ≤ hi) (rest : Text) (place : Location) :
    ∃ item place', ItemFor flags item ⟨lo.toNat, hi.toNat⟩ ∧
      readItem false frames ⟨text ++ '-' :: (text' ++ rest), place⟩ =
        .ok (item, ⟨rest, place'⟩) := by
  obtain ⟨l, middle, rfl, scalar, read⟩ := first.read ('-' :: (text' ++ rest)) place
  obtain ⟨h, place', rfl, scalar', read'⟩ := last.read rest (middle.next '-')
  obtain ⟨x, more, rfl, ordinary⟩ := last.head
  simp only [List.mem_cons, List.not_mem_nil, or_false, not_or] at ordinary
  obtain ⟨_, closing, _, minus, _, _⟩ := ordinary
  refine ⟨.range ⟨l.span.start, h.span.stop⟩ l h, place', ⟨?_, rfl⟩, ?_⟩
  · simp [ClassSet.lower, scalar, scalar', bind, Except.bind, CodeSet.range]
  · simp only [List.cons_append] at read read'
    simp [readItem, read, bind, Except.bind, Reader.skipBlanks, Reader.atEnd, Reader.peek?,
      Reader.peekPast?, Reader.bumpSkip, Reader.bump, closing, minus, read', Element.toBound,
      Element.span, ordered]

def ClassLeads (s s' : ClassState) : Prop :=
  ∃ steps, s'.reader.rest.length + steps ≤ s.reader.rest.length ∧
    ∀ fuel, readClassFuel false (fuel + steps) s = readClassFuel false fuel s'

theorem ClassLeads.refl (s : ClassState) : ClassLeads s s := ⟨0, Nat.le_refl _, fun _ => rfl⟩

theorem ClassLeads.trans {s s' s'' : ClassState} (h : ClassLeads s s') (h' : ClassLeads s' s'') :
    ClassLeads s s'' := by
  obtain ⟨n, shorter, run⟩ := h
  obtain ⟨m, shorter', run'⟩ := h'
  refine ⟨m + n, by omega, ?_⟩
  intro fuel
  rw [← Nat.add_assoc, run, run']

def openClass (outer l : ItemList) (opening : Span) (rest : Text) (place : Location) :
    ClassState :=
  ⟨[.opened outer opening false], l, ⟨rest, place⟩⟩

theorem item_leads {flags : Flags} {outer l : ItemList} {opening : Span} {text rest : Text}
    {c : Char} {place place' : Location} {item : ClassSet} (spelled : Spells flags text c)
    {more : Text} (suffix : ∃ taken, more = taken ++ rest)
    (read : readItem false [.opened outer opening false] ⟨text ++ more, place⟩ =
      .ok (item, ⟨rest, place'⟩)) :
    ClassLeads (openClass outer l opening (text ++ more) place)
      (openClass outer (l.push item) opening rest place') := by
  obtain ⟨x, tail, rfl, ordinary⟩ := spelled.head
  obtain ⟨taken, rfl⟩ := suffix
  simp only [List.mem_cons, List.not_mem_nil, or_false, not_or] at ordinary
  obtain ⟨bracket, closing, amp, minus, tilde, _⟩ := ordinary
  have noOp : classOp? ⟨x :: tail ++ (taken ++ rest), place⟩ = none := by
    simp [classOp?, amp, minus, tilde]
  have stepped : classStep false
      (openClass outer l opening (x :: tail ++ (taken ++ rest)) place) =
        .ok (.inl (openClass outer (l.push item) opening rest place')) := by
    simp only [classStep, openClass, Reader.skipBlanks, Reader.peek?]
    split
    · simp_all
    · simp_all
    · simp_all
    · simp only [Bool.false_eq_true, if_false, noOp, read, bind, Except.bind]
  refine ⟨1, ?_, ?_⟩
  · simp [openClass]
    omega
  · intro fuel
    simp only [readClassFuel, stepped, bind, Except.bind]

theorem single_leads {flags : Flags} (outer l : ItemList) (opening : Span) {text : Text} {c x : Char}
    (spelled : Spells flags text c) (more : Text) (place : Location) (other : x ≠ '-') :
    ∃ item place', ItemFor flags item ⟨c.toNat, c.toNat⟩ ∧
      ClassLeads (openClass outer l opening (text ++ x :: more) place)
        (openClass outer (l.push item) opening (x :: more) place') := by
  obtain ⟨item, place', lowered, read⟩ := readItem_single spelled more place other
  exact ⟨item, place', lowered, item_leads spelled ⟨[], rfl⟩ read⟩

theorem range_leads {flags : Flags} (outer l : ItemList) (opening : Span) {text text' : Text}
    {lo hi : Char} (first : Spells flags text lo) (last : Spells flags text' hi)
    (ordered : lo ≤ hi) (rest : Text) (place : Location) :
    ∃ item place', ItemFor flags item ⟨lo.toNat, hi.toNat⟩ ∧
      ClassLeads (openClass outer l opening (text ++ '-' :: (text' ++ rest)) place)
        (openClass outer (l.push item) opening rest place') := by
  obtain ⟨item, place', lowered, read⟩ := readItem_range first last ordered rest place
  exact ⟨item, place', lowered, item_leads first ⟨'-' :: text', by simp⟩ read⟩

def SpelledRange (flags : Flags) (print : Char → Text) (r : CodeRange) : Prop :=
  ∀ n, n = r.lo ∨ n = r.hi → Spells flags (print (Char.ofNat n)) (Char.ofNat n)

def NoMinus (rest : Text) : Prop := ∃ x more, rest = x :: more ∧ x ≠ '-'

theorem printRange_head {flags : Flags} {print : Char → Text} {r : CodeRange}
    (spelled : SpelledRange flags print r) :
    ∃ x more, printRange print r = x :: more ∧ x ∉ ['[', ']', '&', '-', '~', '^'] := by
  have start : ∃ more, printRange print r = print (Char.ofNat r.lo) ++ more := by
    unfold printRange
    simp only
    split
    · exact ⟨[], by simp⟩
    · split
      · exact ⟨_, rfl⟩
      · exact ⟨['-'] ++ print (Char.ofNat r.hi), by simp⟩
  obtain ⟨more, split⟩ := start
  obtain ⟨x, tail, head, ordinary⟩ := (spelled r.lo (Or.inl rfl)).head
  exact ⟨x, tail ++ more, by simp [split, head], ordinary⟩

theorem range_printed_leads {flags : Flags} {print : Char → Text} (outer l : ItemList)
    (opening : Span) {r : CodeRange} (valid : r.Valid) (spelled : SpelledRange flags print r)
    {rest : Text} (follows : NoMinus rest) (place : Location) {done : List CodeRange}
    (items : ItemsFor flags l.items done) :
    ∃ l' place', ItemsFor flags l'.items (done ++ r.atoms) ∧
      ClassLeads (openClass outer l opening (printRange print r ++ rest) place)
        (openClass outer l' opening rest place') := by
  obtain ⟨x, more, rfl, other⟩ := follows
  have low := spelled r.lo (Or.inl rfl)
  have high := spelled r.hi (Or.inr rfl)
  have lo := toNat_ofNat valid.first
  have hi := toNat_ofNat valid.last
  by_cases same : r.lo = r.hi
  · have apart : ¬ r.lo + 1 = r.hi := by omega
    obtain ⟨item, place', lowered, leads⟩ := single_leads outer l opening low more place other
    have whole : (⟨r.lo, r.lo⟩ : CodeRange) = r := by
      obtain ⟨a, b⟩ := r
      simp_all
    rw [lo, whole] at lowered
    simp only [printRange, CodeRange.atoms, if_pos same, if_neg apart]
    exact ⟨_, place', items.push lowered, leads⟩
  · by_cases next : r.lo + 1 = r.hi
    · obtain ⟨y, tail, head, ordinary⟩ := high.head
      have notMinus : y ≠ '-' := by
        rintro rfl
        exact ordinary (by decide)
      obtain ⟨item, middle, lowered, leads⟩ :=
        single_leads outer l opening low (tail ++ x :: more) place notMinus
      obtain ⟨item', place', lowered', leads'⟩ :=
        single_leads outer (l.push item) opening high more middle other
      rw [lo] at lowered
      rw [hi] at lowered'
      simp only [printRange, CodeRange.atoms, if_neg same, if_pos next]
      refine ⟨(l.push item).push item', place', ?_, ?_⟩
      · simpa using (items.push lowered).push lowered'
      · rw [head] at leads' ⊢
        simp only [List.append_assoc, List.cons_append] at leads leads' ⊢
        exact leads.trans leads'
    · have ordered : Char.ofNat r.lo ≤ Char.ofNat r.hi := by
        have := valid.ordered
        rw [← lo, ← hi] at this
        exact UInt32.le_iff_toNat_le.mpr this
      obtain ⟨item, place', lowered, leads⟩ :=
        range_leads outer l opening low high ordered (x :: more) place
      rw [lo, hi] at lowered
      simp only [printRange, CodeRange.atoms, if_neg same, if_neg next]
      refine ⟨_, place', items.push lowered, ?_⟩
      simpa using leads

theorem ranges_printed_lead {flags : Flags} {print : Char → Text} (outer : ItemList)
    (opening : Span) (rest : Text) (rs : List CodeRange)
    (each : ∀ r ∈ rs, r.Valid ∧ SpelledRange flags print r) (place : Location) (l : ItemList)
    (done : List CodeRange) (items : ItemsFor flags l.items done) :
    ∃ l' place', ItemsFor flags l'.items (done ++ rs.flatMap CodeRange.atoms) ∧
      ClassLeads (openClass outer l opening (rs.flatMap (printRange print) ++ ']' :: rest) place)
        (openClass outer l' opening (']' :: rest) place') := by
  induction rs generalizing l done place with
  | nil => exact ⟨l, place, by simpa using items, ClassLeads.refl _⟩
  | cons r more ih =>
    obtain ⟨⟨valid, spelled⟩, later⟩ := List.forall_mem_cons.mp each
    have follows : NoMinus (more.flatMap (printRange print) ++ ']' :: rest) := by
      cases more with
      | nil => exact ⟨']', rest, rfl, by decide⟩
      | cons s others =>
        obtain ⟨x, tail, head, ordinary⟩ := printRange_head (later s List.mem_cons_self).2
        refine ⟨x, tail ++ (others.flatMap (printRange print) ++ ']' :: rest), ?_, ?_⟩
        · simp [head]
        · rintro rfl
          exact ordinary (by decide)
    obtain ⟨l₁, middle, items₁, leads₁⟩ :=
      range_printed_leads outer l opening valid spelled follows place items
    obtain ⟨l₂, place', items₂, leads₂⟩ := ih later middle l₁ _ items₁
    refine ⟨l₂, place', ?_, ?_⟩
    · simpa using items₂
    · simpa using leads₁.trans leads₂

theorem openBracket_plain {x : Char} (other : x ∉ ['[', ']', '&', '-', '~', '^']) (l : ItemList)
    (tail : Text) (place : Location) :
    openBracket false ⟨[], l, ⟨'[' :: x :: tail, place⟩⟩ =
      .ok (openClass l (.startAt ⟨x :: tail, place.next '['⟩) ⟨place, place.next '['⟩ (x :: tail)
        (place.next '[')) := by
  simp only [List.mem_cons, List.not_mem_nil, or_false, not_or] at other
  obtain ⟨_, closing, _, minus, _, caret⟩ := other
  simp [openBracket, Reader.bumpSkip, Reader.bump, Reader.skipBlanks, Reader.atEnd, bind,
    Except.bind, Reader.peek?, caret, readOpeningMinus, minus, closing, openClass,
    Reader.spanFrom]

/-- A class is read back as the ranges that it was written from. -/
theorem readClass_printed {flags : Flags} {print : Char → Text} {set : CodeSet}
    (canonical : set.Canonical) (nonempty : set.ranges ≠ [])
    (spelled : ∀ r ∈ set.ranges, SpelledRange flags print r) (rest : Text) (place : Location) :
    ∃ span inner place', inner.lower flags = .ok set ∧ inner.levels = insideLevels set ∧
      readClass false ⟨'[' :: (set.ranges.flatMap (printRange print) ++ ']' :: rest), place⟩ =
        .ok (.bracketed span false inner, ⟨rest, place'⟩) := by
  obtain ⟨text, whole⟩ : ∃ text, text = set.ranges.flatMap (printRange print) ++ ']' :: rest :=
    ⟨_, rfl⟩
  obtain ⟨x, tail, start, ordinary⟩ :
      ∃ x tail, text = x :: tail ∧ x ∉ ['[', ']', '&', '-', '~', '^'] := by
    obtain ⟨r, more, ranges⟩ := List.exists_cons_of_ne_nil nonempty
    obtain ⟨x, tail, head, ordinary⟩ := printRange_head (spelled r (by simp [ranges]))
    exact ⟨x, tail ++ (more.flatMap (printRange print) ++ ']' :: rest), by
      simp [whole, ranges, head], ordinary⟩
  have opened : classStep false ⟨[], .startAt ⟨'[' :: text, place⟩, ⟨'[' :: text, place⟩⟩ =
      .ok (.inl (openClass (.startAt ⟨'[' :: text, place⟩) (.startAt ⟨text, place.next '['⟩)
        ⟨place, place.next '['⟩ text (place.next '['))) := by
    rw [start]
    simp [classStep, Reader.skipBlanks, Reader.peek?, openBracket_plain ordinary, Except.map]
  obtain ⟨l, place', items, steps, shorter, run⟩ :=
    ranges_printed_lead (.startAt ⟨'[' :: text, place⟩) ⟨place, place.next '['⟩ rest set.ranges
      (fun r mem => ⟨canonical.valid r mem, spelled r mem⟩) (place.next '[')
      (.startAt ⟨text, place.next '['⟩) [] .nil
  rw [← whole] at shorter run
  rw [List.nil_append] at items
  have lowered := toSet_lower items
  rw [CodeSet.foldl_insert_all_atoms canonical] at lowered
  simp only [openClass, List.length_cons] at shorter
  obtain ⟨fuel, enough⟩ : ∃ fuel, text.length + 1 = fuel + 1 + steps :=
    ⟨text.length - steps, by omega⟩
  refine ⟨⟨place, place'.next ']'⟩, l.toSet, place'.next ']', lowered, toSet_levels items, ?_⟩
  rw [← whole, readClass, List.length_cons, readClassFuel, opened]
  simp only [bind, Except.bind]
  rw [enough, run, readClassFuel]
  simp [classStep, openClass, Reader.skipBlanks, Reader.peek?, closeBracket, applyOp, bind,
    Except.bind, Reader.bump, Reader.spanFrom]

end TextCursor.Pattern
