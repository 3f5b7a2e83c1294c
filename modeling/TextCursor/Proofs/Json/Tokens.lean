import TextCursor.Proofs.Json.Written
/-!
White space, strings and numbers are read as they are written. Each reader takes the whole of a
written form from the front of a text and leaves what stands behind it, if that cannot go on with a
number.
-/
namespace TextCursor.Json

/-- A text that does not go on with a number that ends in front of it. -/
def Ends (rest : Text) : Prop := ∀ c ∈ rest.head?, c.isDigit = false ∧ c ∉ ['.', 'e', 'E']

def NoDigit (rest : Text) : Prop := ∀ c ∈ rest.head?, c.isDigit = false

section Spaces
variable {front rest t : Text} {c : Char}

theorem isSpace_iff : isSpace c = true ↔ c ∈ [' ', '\n', '\t', '\r'] := by
  simp [isSpace, or_assoc]

theorem skipSpace_blank (blank : Blank front) (rest : Text) :
    skipSpace (front ++ rest) = skipSpace rest := by
  apply List.dropWhile_append_of_pos
  intro c mem
  exact isSpace_iff.mpr (blank c mem)

theorem skipSpace_cons (visible : isSpace c = false) (rest : Text) :
    skipSpace (c :: rest) = c :: rest := by
  simp [skipSpace, visible]

theorem skipSpace_front (blank : Blank front) (visible : isSpace c = false) (rest : Text) :
    skipSpace (front ++ c :: rest) = c :: rest := by
  rw [skipSpace_blank blank, skipSpace_cons visible]

theorem skipSpace_all (blank : Blank front) : skipSpace front = [] := by
  have none := skipSpace_blank blank []
  rwa [List.append_nil] at none

theorem skipSpace_skipSpace (t : Text) : skipSpace (skipSpace t) = skipSpace t := by
  induction t with
  | nil => rfl
  | cons c rest ih =>
    cases space : isSpace c with
    | true =>
      have skipped : skipSpace (c :: rest) = skipSpace rest := by simp [skipSpace, space]
      rw [skipped, ih]
    | false => rw [skipSpace_cons space, skipSpace_cons space]

end Spaces

section Strings
variable {item : StringItem} {items : List StringItem} {first body s s' : Text}

theorem hexValue?_of_digit {n : Nat} {c : Char} (digit : HexDigit n c) : hexValue? c = some n := by
  have all : ∀ n < 16, hexValue? (Nat.digitChar n) = some n ∧
      hexValue? (Nat.digitChar n).toUpper = some n := by decide
  obtain ⟨short, rfl | rfl⟩ := digit
  · exact (all n short).1
  · exact (all n short).2

theorem hex4?_of_four {n : Nat} {hex : Text} (four : FourHex n hex) :
    ∃ w x y z, hex = [w, x, y, z] ∧ hex4? w x y z = some n := by
  obtain ⟨ha, hb, hc, hd⟩ := four
  refine ⟨_, _, _, _, rfl, ?_⟩
  simp [hex4?, hexValue?_of_digit ha, hexValue?_of_digit hb, hexValue?_of_digit hc,
    hexValue?_of_digit hd]

theorem readItems_item (form : ItemForm item first) (rest : Text) :
    readItems (first ++ rest) = consItem item (readItems rest) := by
  cases form with
  | @plain c visible quote slash =>
    have small : ¬ (c.toNat < 0x20 ∨ c = '\\') := by
      rintro (control | escape)
      · omega
      · exact slash escape
    simp only [List.cons_append, List.nil_append]
    rw [readItems]
    · rw [if_neg small]
    · exact quote
    · rintro _ _ _ _ _ rfl _
      exact slash rfl
    · rintro _ _ rfl _
      exact slash rfl
  | @short sign c escape =>
    simp only [shortEscapes, List.mem_cons, Prod.mk.injEq, List.not_mem_nil, or_false] at escape
    rcases escape with ⟨rfl, rfl⟩ | ⟨rfl, rfl⟩ | ⟨rfl, rfl⟩ | ⟨rfl, rfl⟩ | ⟨rfl, rfl⟩ |
      ⟨rfl, rfl⟩ | ⟨rfl, rfl⟩ | ⟨rfl, rfl⟩ <;> simp [readItems, escaped?]
  | @unit n hex four =>
    obtain ⟨w, x, y, z, rfl, read⟩ := hex4?_of_four four
    simp [readItems, read]

theorem readItems_items (forms : ItemsForm items body) (rest : Text) :
    readItems (body ++ '"' :: rest) = some (items, rest) := by
  induction forms with
  | nil => simp [readItems]
  | cons one others ih =>
    rw [List.append_assoc, readItems_item one, ih]
    rfl

theorem FourHex.lt {n : Nat} {hex : Text} (four : FourHex n hex) : n < 0x10000 := by
  obtain ⟨⟨ha, -⟩, ⟨hb, -⟩, ⟨hc, -⟩, ⟨hd, -⟩⟩ := four
  omega

theorem ItemsForm.unit_lt (forms : ItemsForm items body) {n : Nat} (mem : .unit n ∈ items) :
    n < 0x10000 := by
  induction forms with
  | nil => cases mem
  | cons one others ih =>
    rcases List.mem_cons.mp mem with rfl | later
    · cases one with
      | unit four => exact four.lt
    · exact ih later

theorem joinItems_unit {n : Nat} (high : isHighSurrogate n = false)
    (low : isLowSurrogate n = false) (items : List StringItem) :
    joinItems (.unit n :: items) = (joinItems items).map (Char.ofNat n :: ·) := by
  -- the equations of `joinItems` split on the item behind a unit, which does not matter here
  rw [joinItems.eq_def]
  simp only [high, low, Bool.false_eq_true, if_false]

theorem joinItems_of_standsFor (h : StandsFor s items) : joinItems items = some s := by
  induction h with
  | nil => rfl
  | char _ ih => simp [joinItems, ih]
  | @unit c _ _ small _ ih =>
    have valid : c.toNat.isValidChar := c.valid
    have high : isHighSurrogate c.toNat = false := by
      simp only [isHighSurrogate, Nat.isValidChar, Bool.and_eq_false_iff,
        decide_eq_false_iff_not] at valid ⊢
      omega
    have low : isLowSurrogate c.toNat = false := by
      simp only [isLowSurrogate, Nat.isValidChar, Bool.and_eq_false_iff,
        decide_eq_false_iff_not] at valid ⊢
      omega
    rw [joinItems_unit high low, ih, Option.map_some, Char.ofNat_toNat]
  | @pair c high low _ _ hh hl large _ ih =>
    have first : isHighSurrogate (0xD800 + high) = true := by
      simp only [isHighSurrogate, Bool.and_eq_true, decide_eq_true_eq]
      omega
    have second : isLowSurrogate (0xDC00 + low) = true := by
      simp only [isLowSurrogate, Bool.and_eq_true, decide_eq_true_eq]
      omega
    simp [joinItems, first, second, ih, ← large]

theorem StandsFor.unique (h : StandsFor s items) (h' : StandsFor s' items) : s = s' :=
  Option.some.inj ((joinItems_of_standsFor h).symm.trans (joinItems_of_standsFor h'))

theorem standsFor_of_joinItems (small : ∀ n, .unit n ∈ items → n < 0x10000)
    (h : joinItems items = some s) : StandsFor s items := by
  fun_induction joinItems items generalizing s with
  | case1 =>
    cases h
    exact .nil
  | case2 c items ih =>
    obtain ⟨rest, joined, rfl⟩ := Option.map_eq_some_iff.mp h
    exact .char (ih (fun n mem => small n (by simp [mem])) joined)
  | case3 n first m items second ih =>
    obtain ⟨rest, joined, rfl⟩ := Option.map_eq_some_iff.mp h
    simp only [isHighSurrogate, isLowSurrogate, Bool.and_eq_true, decide_eq_true_eq]
      at first second
    have large : (Char.ofNat (0x10000 + (n - 0xD800) * 0x400 + (m - 0xDC00))).toNat =
        0x10000 + (n - 0xD800) * 0x400 + (m - 0xDC00) := by
      apply toNat_ofNat
      simp only [Nat.isValidChar]
      omega
    have pair := StandsFor.pair (by omega) (by omega) large
      (ih (fun n mem => small n (by simp [mem])) joined)
    rwa [Nat.add_sub_cancel' first.1, Nat.add_sub_cancel' second.1] at pair
  | case4 => cases h
  | case5 => cases h
  | case6 => cases h
  | case7 n items high low ih =>
    obtain ⟨rest, joined, rfl⟩ := Option.map_eq_some_iff.mp h
    have bound := small n (by simp)
    have same : (Char.ofNat n).toNat = n := by
      apply toNat_ofNat
      simp only [isHighSurrogate, isLowSurrogate, Bool.and_eq_true, decide_eq_true_eq] at high low
      simp only [Nat.isValidChar]
      omega
    have unit := StandsFor.unit (c := Char.ofNat n) (by omega)
      (ih (fun n mem => small n (by simp [mem])) joined)
    rwa [same] at unit

theorem quoted_of_standsFor (forms : ItemsForm items body) (stands : StandsFor s items) :
    Quoted (some s) ('"' :: (body ++ ['"'])) := by
  refine ⟨items, body, forms, ?_, rfl⟩
  intro s'
  constructor
  · intro same
    cases same
    exact stands
  · intro stands'
    rw [stands.unique stands']

theorem readString_quoted {content : Option Text} {t : Text} (h : Quoted content t) (rest : Text) :
    ∃ inner, t ++ rest = '"' :: inner ∧ readString inner = some (content, rest) := by
  obtain ⟨items, body, forms, stands, rfl⟩ := h
  have joined : joinItems items = content := by
    apply Option.ext
    intro s
    rw [stands s]
    exact ⟨standsFor_of_joinItems fun n mem => forms.unit_lt mem, joinItems_of_standsFor⟩
  refine ⟨body ++ '"' :: rest, by simp, ?_⟩
  rw [readString, readItems_items forms, Option.map_some, joined]

end Strings

section Numbers
variable {t whole fraction exponent rest : Text}

theorem Ends.noDigit (ends : Ends rest) : NoDigit rest := fun c here => (ends c here).1

theorem NoDigit.cons {c : Char} (h : c.isDigit = false) (rest : Text) : NoDigit (c :: rest) := by
  intro d here
  cases here
  exact h

theorem readDigits_digits (digits : Digits t) (stop : NoDigit rest) :
    readDigits (t ++ rest) = some (t, rest) := by
  obtain ⟨nonempty, all⟩ := digits
  -- no digit behind `t` is taken as well
  have taken : rest.takeWhile Char.isDigit = [] ∧ rest.dropWhile Char.isDigit = rest := by
    cases rest with
    | nil => exact ⟨rfl, rfl⟩
    | cons c more =>
      have here : c.isDigit = false := stop c rfl
      simp [here]
  have span : spanDigits (t ++ rest) = (t, rest) := by
    rw [spanDigits, List.takeWhile_append_of_pos all, List.dropWhile_append_of_pos all, taken.1,
      taken.2, List.append_nil]
  rw [readDigits, span]
  cases t with
  | nil => exact absurd rfl nonempty
  | cons c more => rfl

theorem Digits.head (digits : Digits t) : ∃ c more, t = c :: more ∧ c.isDigit = true := by
  obtain ⟨c, more, rfl⟩ := List.exists_cons_of_ne_nil digits.1
  exact ⟨c, more, rfl, digits.2 c (by simp)⟩

theorem readWhole_whole (form : Whole whole) (stop : NoDigit rest) :
    readWhole (whole ++ rest) = some (whole, rest) := by
  rcases form with rfl | ⟨digits, leading⟩
  · rfl
  · have read := readDigits_digits digits stop
    cases whole with
    | nil => exact absurd rfl digits.1
    | cons c more =>
      have other : c ≠ '0' := by simpa using leading
      rw [List.cons_append, readWhole]
      · exact read
      · intro _ same
        cases same
        exact other rfl

theorem readFraction_fraction (form : Fraction fraction) (stop : NoDigit rest)
    (point : ∀ c ∈ rest.head?, c ≠ '.') :
    readFraction (fraction ++ rest) = some (fraction, rest) := by
  rcases form with rfl | ⟨places, digits, rfl⟩
  · cases rest with
    | nil => rfl
    | cons c more =>
      have other : c ≠ '.' := point c rfl
      rw [List.nil_append, readFraction]
      intro _ same
      cases same
      exact other rfl
  · rw [List.cons_append, readFraction, readDigits_digits digits stop]
    rfl

theorem readExponent_exponent (form : Exponent exponent) (ends : Ends rest) :
    readExponent (exponent ++ rest) = some (exponent, rest) := by
  rcases form with rfl | ⟨e, sign, power, letter, signed, digits, rfl⟩
  · cases rest with
    | nil => rfl
    | cons c more =>
      have other := (ends c rfl).2
      have letter : ¬ (c = 'e' ∨ c = 'E') := by
        simp only [List.mem_cons, List.not_mem_nil, or_false, not_or] at other
        rintro (small | large)
        · exact other.2.1 small
        · exact other.2.2 large
      simp only [List.nil_append, readExponent.eq_def, if_neg letter]
  · have stop : NoDigit rest := fun c here => (ends c here).1
    have read := readDigits_digits digits stop
    have marked : e = 'e' ∨ e = 'E' := by simpa using letter
    simp only [List.cons_append, List.append_assoc, readExponent.eq_def, if_pos marked]
    simp only [List.mem_cons, List.not_mem_nil, or_false] at signed
    rcases signed with rfl | rfl | rfl
    · obtain ⟨c, more, rfl, digit⟩ := digits.head
      have plus : c ≠ '+' := by
        rintro rfl
        cases digit
      have minus : c ≠ '-' := by
        rintro rfl
        cases digit
      simp only [List.cons_append] at read
      simp [read, plus, minus]
    · simp [read]
    · simp [read]

theorem Exponent.noDigit (form : Exponent exponent) (ends : Ends rest) :
    NoDigit (exponent ++ rest) := by
  rcases form with rfl | ⟨e, sign, power, letter, -, -, rfl⟩
  · exact ends.noDigit
  · apply NoDigit.cons
    simp only [List.mem_cons, List.not_mem_nil, or_false] at letter
    rcases letter with rfl | rfl <;> rfl

theorem Exponent.noPoint (form : Exponent exponent) (ends : Ends rest) :
    ∀ c ∈ (exponent ++ rest).head?, c ≠ '.' := by
  intro c here same
  subst same
  rcases form with rfl | ⟨e, sign, power, letter, -, -, rfl⟩
  · exact (ends '.' here).2 (by simp)
  · cases here
    simp at letter

theorem Fraction.noDigit (form : Fraction fraction) (stop : NoDigit rest) :
    NoDigit (fraction ++ rest) := by
  rcases form with rfl | ⟨places, -, rfl⟩
  · exact stop
  · exact NoDigit.cons rfl _

theorem Whole.head (form : Whole whole) : ∃ c more, whole = c :: more ∧ c.isDigit = true := by
  rcases form with rfl | ⟨digits, -⟩
  · exact ⟨'0', [], rfl, rfl⟩
  · exact digits.head

theorem readNumber_number (form : Number t) (ends : Ends rest) :
    readNumber (t ++ rest) = some (t, rest) := by
  obtain ⟨sign, whole, fraction, exponent, signed, hw, hf, he, rfl⟩ := form
  have behindWhole := hf.noDigit (he.noDigit ends)
  have first := readWhole_whole hw behindWhole
  have second := readFraction_fraction hf (he.noDigit ends) (he.noPoint ends)
  have third := readExponent_exponent he ends
  simp only [List.mem_cons, List.not_mem_nil, or_false] at signed
  rcases signed with rfl | rfl
  · obtain ⟨c, more, rfl, digit⟩ := hw.head
    have minus : c ≠ '-' := by
      rintro rfl
      cases digit
    simp only [List.cons_append] at first
    simp [readNumber, minus, first, second, third]
  · simp [readNumber, first, second, third]

theorem Number.head (form : Number t) :
    ∃ c more, t = c :: more ∧ (c = '-' ∨ c.isDigit = true) := by
  obtain ⟨sign, whole, fraction, exponent, signed, hw, -, -, rfl⟩ := form
  simp only [List.mem_cons, List.not_mem_nil, or_false] at signed
  rcases signed with rfl | rfl
  · obtain ⟨c, more, rfl, digit⟩ := hw.head
    exact ⟨c, _, rfl, Or.inr digit⟩
  · exact ⟨'-', _, rfl, Or.inl rfl⟩

end Numbers

end TextCursor.Json
