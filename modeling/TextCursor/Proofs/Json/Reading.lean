import TextCursor.Proofs.Digits
import TextCursor.Proofs.Json.Tokens
/-!
Reading takes what is written: every text that is JSON for a value is read as that value, however
deep the value is. Each reader needs fuel for twice the text that it takes.
-/
namespace TextCursor.Json

section
variable {v : Value} {front back rest t inner : Text} {fuel : Nat}

theorem readValue_skipSpace (fuel : Nat) (t : Text) :
    readValue fuel (skipSpace t) = readValue fuel t := by
  cases fuel with
  | zero => rfl
  | succ fuel => rw [readValue, readValue, skipSpace_skipSpace]

theorem readArray_skipSpace (fuel : Nat) (t : Text) :
    readArray fuel (skipSpace t) = readArray fuel t := by
  cases fuel with
  | zero => rfl
  | succ fuel => rw [readArray, readArray, readValue_skipSpace]

theorem readObject_skipSpace (fuel : Nat) (t : Text) :
    readObject fuel (skipSpace t) = readObject fuel t := by
  cases fuel with
  | zero => rfl
  | succ fuel => rw [readObject, readObject, skipSpace_skipSpace]

theorem readValue_blank (blank : Blank front) (fuel : Nat) (t : Text) :
    readValue fuel (front ++ t) = readValue fuel t := by
  rw [← readValue_skipSpace, skipSpace_blank blank, readValue_skipSpace]

theorem Ends.cons {c : Char} (h : c ∈ [',', ']', '\x7d']) (rest : Text) : Ends (c :: rest) := by
  intro d here
  cases here
  simp only [List.mem_cons, List.not_mem_nil, or_false] at h
  rcases h with rfl | rfl | rfl <;> simp

theorem Ends.behind (blank : Blank back) (ends : Ends rest) : Ends (back ++ rest) := by
  cases back with
  | nil => exact ends
  | cons c more =>
    intro d here
    cases here
    have space := blank c (by simp)
    simp only [List.mem_cons, List.not_mem_nil, or_false] at space
    rcases space with rfl | rfl | rfl | rfl <;> simp

theorem Value.Writes.head (w : v.Writes t) :
    ∃ c more, t = c :: more ∧ isSpace c = false ∧ c ≠ ']' := by
  cases v with
  | null => exact ⟨'n', "ull".toList, w, rfl, by simp⟩
  | bool b =>
    cases b with
    | false => exact ⟨'f', "alse".toList, w, rfl, by simp⟩
    | true => exact ⟨'t', "rue".toList, w, rfl, by simp⟩
  | number lexeme =>
    obtain ⟨form, rfl⟩ := w
    obtain ⟨c, more, rfl, first⟩ := form.head
    refine ⟨c, more, rfl, ?_, ?_⟩
    · rcases first with rfl | digit
      · rfl
      · simpa using digit_all (fun c => !isSpace c) (by decide) digit
    · rintro rfl
      rcases first with same | digit
      · cases same
      · cases digit
  | string content =>
    obtain ⟨items, body, -, -, rfl⟩ := w
    exact ⟨'"', _, rfl, rfl, by simp⟩
  | array items =>
    obtain ⟨inner, -, rfl⟩ := w
    exact ⟨'[', _, rfl, rfl, by simp⟩
  | object members =>
    obtain ⟨inner, -, rfl⟩ := w
    exact ⟨'\x7b', _, rfl, rfl, by simp⟩

/-- The value is read from each text that is JSON for it, and nothing behind it is taken. -/
def Value.Reads (v : Value) : Prop :=
  ∀ ⦃t rest : Text⦄ ⦃fuel : Nat⦄, v.Writes t → Ends rest → 2 * t.length ≤ fuel + 1 →
    readValue (fuel + 1) (t ++ rest) = some (v, rest)

theorem Value.Reads.padded (reads : v.Reads) (w : Padded v.Writes t) (ends : Ends rest)
    (enough : 2 * t.length ≤ fuel) :
    ∃ back, Blank back ∧ readValue fuel (t ++ rest) = some (v, back ++ rest) := by
  obtain ⟨front, inner, back, before, written, after, rfl⟩ := w
  -- what is written is not empty, so the fuel is enough to enter a reader
  obtain ⟨c, more, first, -, -⟩ := written.head
  simp only [List.length_append] at enough
  have length : inner.length = more.length + 1 := by rw [first, List.length_cons]
  obtain ⟨k, rfl⟩ : ∃ k, fuel = k + 1 := ⟨fuel - 1, by omega⟩
  refine ⟨back, after, ?_⟩
  rw [List.append_assoc, List.append_assoc, readValue_blank before]
  exact reads written (ends.behind after) (by omega)

theorem readWord_word (word : Text) (v : Value) (rest : Text) :
    readWord word v (word ++ rest) = some (v, rest) := by
  simp [readWord]

theorem null_reads : Value.null.Reads := by
  intro t rest fuel w _ _
  cases w
  exact readWord_word "ull".toList .null rest

theorem bool_reads (b : Bool) : (Value.bool b).Reads := by
  intro t rest fuel w _ _
  cases b with
  | false =>
    cases w
    exact readWord_word "alse".toList (.bool false) rest
  | true =>
    cases w
    exact readWord_word "rue".toList (.bool true) rest

theorem readValue_other {c : Char} (other : c ∉ ['"', '[', '\x7b', 'n', 't', 'f'])
    (visible : isSpace c = false) (fuel : Nat) (rest : Text) :
    readValue (fuel + 1) (c :: rest) =
      (readNumber (c :: rest)).map fun p => (.number p.1, p.2) := by
  rw [readValue, skipSpace_cons visible]
  split
  case h_7 => rfl
  all_goals
    rename_i same
    cases same
    simp at other

theorem number_reads (lexeme : Text) : (Value.number lexeme).Reads := by
  intro t rest fuel w ends _
  obtain ⟨form, rfl⟩ := w
  have read := readNumber_number form ends
  obtain ⟨c, more, rfl, first⟩ := form.head
  have other : c ∉ ['"', '[', '\x7b', 'n', 't', 'f'] ∧ isSpace c = false := by
    rcases first with rfl | digit
    · simp [isSpace]
    · simpa using digit_all
        (fun c => !(List.contains ['"', '[', '\x7b', 'n', 't', 'f'] c || isSpace c)) (by decide)
        digit
  rw [List.cons_append, readValue_other other.1 other.2, ← List.cons_append, read]
  rfl

theorem string_reads (content : Option Text) : (Value.string content).Reads := by
  intro t rest fuel w _ _
  obtain ⟨inner, split, read⟩ := readString_quoted w rest
  rw [split, readValue, skipSpace_cons rfl]
  simp only [read, Option.map_some]

theorem readArray_one (reads : v.Reads) (w : Padded v.Writes t) (rest : Text)
    (enough : 2 * t.length ≤ fuel) :
    readArray (fuel + 1) (t ++ ']' :: rest) = some ([v], rest) := by
  obtain ⟨back, blank, read⟩ := reads.padded w (Ends.cons (c := ']') (by simp) rest) enough
  have close : skipSpace (back ++ ']' :: rest) = ']' :: rest := skipSpace_front blank rfl rest
  simp only [readArray, read, Option.bind_eq_bind, Option.bind_some, close]

theorem readArray_cons {items : List Value} (reads : v.Reads) (w : Padded v.Writes t)
    (enough : 2 * t.length ≤ fuel) (others : readArray fuel inner = some (items, rest)) :
    readArray (fuel + 1) (t ++ ',' :: inner) = some (v :: items, rest) := by
  obtain ⟨back, blank, read⟩ := reads.padded w (Ends.cons (c := ',') (by simp) inner) enough
  have comma : skipSpace (back ++ ',' :: inner) = ',' :: inner := skipSpace_front blank rfl inner
  simp only [readArray, read, Option.bind_eq_bind, Option.bind_some, comma, others,
    Option.map_some]

theorem padded_key {key : Option Text} (k : Padded (Quoted key) t) (rest : Text) :
    ∃ inner back, skipSpace (t ++ rest) = '"' :: inner ∧
      readString inner = some (key, back ++ rest) ∧ Blank back := by
  obtain ⟨front, quoted, back, before, form, after, rfl⟩ := k
  obtain ⟨inner, split, read⟩ := readString_quoted form (back ++ rest)
  refine ⟨inner, back, ?_, read, after⟩
  rw [List.append_assoc, List.append_assoc, split]
  exact skipSpace_front before rfl inner

theorem readObject_one {key : Option Text} {name : Text} (k : Padded (Quoted key) name)
    (reads : v.Reads) (w : Padded v.Writes t) (rest : Text) (enough : 2 * t.length ≤ fuel) :
    readObject (fuel + 1) (name ++ ':' :: (t ++ '\x7d' :: rest)) = some ([(key, v)], rest) := by
  obtain ⟨inner, after, start, named, blank⟩ := padded_key k (':' :: (t ++ '\x7d' :: rest))
  have colon : skipSpace (after ++ ':' :: (t ++ '\x7d' :: rest)) = ':' :: (t ++ '\x7d' :: rest) :=
    skipSpace_front blank rfl _
  obtain ⟨back, blank', read⟩ := reads.padded w (Ends.cons (c := '\x7d') (by simp) rest) enough
  have close : skipSpace (back ++ '\x7d' :: rest) = '\x7d' :: rest :=
    skipSpace_front blank' rfl rest
  simp only [readObject, start, named, colon, read, close, Option.bind_eq_bind, Option.bind_some]

theorem readObject_cons {key : Option Text} {name : Text} {members : List (Option Text × Value)}
    (k : Padded (Quoted key) name) (reads : v.Reads) (w : Padded v.Writes t)
    (enough : 2 * t.length ≤ fuel) (others : readObject fuel inner = some (members, rest)) :
    readObject (fuel + 1) (name ++ ':' :: (t ++ ',' :: inner)) =
      some ((key, v) :: members, rest) := by
  obtain ⟨quoted, after, start, named, blank⟩ := padded_key k (':' :: (t ++ ',' :: inner))
  have colon : skipSpace (after ++ ':' :: (t ++ ',' :: inner)) = ':' :: (t ++ ',' :: inner) :=
    skipSpace_front blank rfl _
  obtain ⟨back, blank', read⟩ := reads.padded w (Ends.cons (c := ',') (by simp) inner) enough
  have comma : skipSpace (back ++ ',' :: inner) = ',' :: inner := skipSpace_front blank' rfl inner
  simp only [readObject, start, named, colon, read, comma, others, Option.bind_eq_bind,
    Option.bind_some, Option.map_some]

theorem readValue_array {c : Char} {more : Text} (start : skipSpace t = c :: more) (item : c ≠ ']')
    (fuel : Nat) :
    readValue (fuel + 1) ('[' :: t) = (readArray fuel t).map fun p => (.array p.1, p.2) := by
  rw [readValue, skipSpace_cons rfl]
  simp only
  split
  · rename_i same
    rw [start] at same
    cases same
    exact absurd rfl item
  · rw [readArray_skipSpace]

theorem readValue_object {c : Char} {more : Text} (start : skipSpace t = c :: more)
    (member : c ≠ '\x7d') (fuel : Nat) :
    readValue (fuel + 1) ('\x7b' :: t) =
      (readObject fuel t).map fun p => (.object p.1, p.2) := by
  rw [readValue, skipSpace_cons rfl]
  simp only
  split
  · rename_i same
    rw [start] at same
    cases same
    exact absurd rfl member
  · rw [readObject_skipSpace]

theorem array_nil_reads : (Value.array []).Reads := by
  intro t rest fuel w _ _
  obtain ⟨inner, blank, rfl⟩ := w
  have close : skipSpace (inner ++ ']' :: rest) = ']' :: rest := skipSpace_front blank rfl rest
  simp only [List.cons_append, List.append_assoc, List.nil_append, readValue,
    skipSpace_cons (c := '[') rfl, close]

theorem object_nil_reads : (Value.object []).Reads := by
  intro t rest fuel w _ _
  obtain ⟨inner, blank, rfl⟩ := w
  have close : skipSpace (inner ++ '\x7d' :: rest) = '\x7d' :: rest :=
    skipSpace_front blank rfl rest
  simp only [List.cons_append, List.append_assoc, List.nil_append, readValue,
    skipSpace_cons (c := '\x7b') rfl, close]

def ReadsItems (items : List Value) : Prop :=
  ∀ ⦃t rest : Text⦄ ⦃fuel : Nat⦄, Value.WritesItems items t → 2 * t.length + 1 ≤ fuel →
    readArray fuel (t ++ ']' :: rest) = some (items, rest)

def ReadsMembers (members : List (Option Text × Value)) : Prop :=
  ∀ ⦃t rest : Text⦄ ⦃fuel : Nat⦄, Value.WritesMembers members t → 2 * t.length + 1 ≤ fuel →
    readObject fuel (t ++ '\x7d' :: rest) = some (members, rest)

theorem readsItems_one (reads : v.Reads) : ReadsItems [v] := by
  intro t rest fuel w enough
  obtain ⟨k, rfl⟩ : ∃ k, fuel = k + 1 := ⟨fuel - 1, by omega⟩
  exact readArray_one reads w rest (by omega)

theorem readsItems_cons {u : Value} {items : List Value} (reads : v.Reads)
    (others : ReadsItems (u :: items)) : ReadsItems (v :: u :: items) := by
  intro t rest fuel w enough
  obtain ⟨first, behind, padded, written, rfl⟩ := w
  simp only [List.length_append, List.length_cons] at enough
  obtain ⟨k, rfl⟩ : ∃ k, fuel = k + 1 := ⟨fuel - 1, by omega⟩
  rw [List.append_assoc, List.cons_append]
  exact readArray_cons reads padded (by omega) (others written (by omega))

theorem readsMembers_one {key : Option Text} (reads : v.Reads) : ReadsMembers [(key, v)] := by
  intro t rest fuel w enough
  obtain ⟨name, value, k, padded, rfl⟩ := w
  simp only [List.length_append, List.length_cons] at enough
  obtain ⟨n, rfl⟩ : ∃ n, fuel = n + 1 := ⟨fuel - 1, by omega⟩
  rw [List.append_assoc, List.cons_append]
  exact readObject_one k reads padded rest (by omega)

theorem readsMembers_cons {key : Option Text} {m : Option Text × Value}
    {members : List (Option Text × Value)} (reads : v.Reads)
    (others : ReadsMembers (m :: members)) : ReadsMembers ((key, v) :: m :: members) := by
  intro t rest fuel w enough
  obtain ⟨name, value, behind, k, padded, written, rfl⟩ := w
  simp only [List.length_append, List.length_cons] at enough
  obtain ⟨n, rfl⟩ : ∃ n, fuel = n + 1 := ⟨fuel - 1, by omega⟩
  rw [List.append_assoc, List.cons_append, List.append_assoc, List.cons_append]
  exact readObject_cons k reads padded (by omega) (others written (by omega))

theorem padded_start (w : Padded v.Writes t) (rest : Text) :
    ∃ c more, skipSpace (t ++ rest) = c :: more ∧ c ≠ ']' := by
  obtain ⟨front, inner, back, before, written, -, rfl⟩ := w
  obtain ⟨c, more, rfl, visible, item⟩ := written.head
  refine ⟨c, more ++ (back ++ rest), ?_, item⟩
  rw [List.append_assoc, List.append_assoc, List.cons_append]
  exact skipSpace_front before visible (more ++ (back ++ rest))

theorem array_reads {items : List Value} (reads : ReadsItems (v :: items)) :
    (Value.array (v :: items)).Reads := by
  intro t rest fuel w _ enough
  obtain ⟨inner, written, rfl⟩ := w
  have start : ∃ c more, skipSpace (inner ++ ']' :: rest) = c :: more ∧ c ≠ ']' := by
    cases items with
    | nil => exact padded_start written _
    | cons u items =>
      obtain ⟨first, others, padded, -, rfl⟩ := written
      rw [List.append_assoc]
      exact padded_start padded _
  obtain ⟨c, more, start, item⟩ := start
  simp only [List.length_cons, List.length_append, List.length_nil] at enough
  simp only [List.cons_append, List.append_assoc, List.nil_append]
  rw [readValue_array start item, reads written (by omega)]
  rfl

theorem object_reads {m : Option Text × Value} {members : List (Option Text × Value)}
    (reads : ReadsMembers (m :: members)) : (Value.object (m :: members)).Reads := by
  intro t rest fuel w _ enough
  obtain ⟨inner, written, rfl⟩ := w
  have start : ∃ more, skipSpace (inner ++ '\x7d' :: rest) = '"' :: more := by
    cases members with
    | nil =>
      obtain ⟨name, value, k, -, rfl⟩ := written
      obtain ⟨more, -, start, -⟩ := padded_key k (':' :: value ++ '\x7d' :: rest)
      rw [List.append_assoc]
      exact ⟨more, start⟩
    | cons n members =>
      obtain ⟨name, value, others, k, -, -, rfl⟩ := written
      obtain ⟨more, -, start, -⟩ :=
        padded_key k (':' :: (value ++ ',' :: others) ++ '\x7d' :: rest)
      rw [List.append_assoc]
      exact ⟨more, start⟩
  obtain ⟨more, start⟩ := start
  simp only [List.length_cons, List.length_append, List.length_nil] at enough
  simp only [List.cons_append, List.append_assoc, List.nil_append]
  rw [readValue_object start (by simp), reads written (by omega)]
  rfl

end

mutual

theorem Value.reads : ∀ v : Value, v.Reads
  | .null => null_reads
  | .bool b => bool_reads b
  | .number lexeme => number_reads lexeme
  | .string content => string_reads content
  | .array [] => array_nil_reads
  | .array (v :: items) => array_reads (readsItems (v :: items) (List.cons_ne_nil v items))
  | .object [] => object_nil_reads
  | .object (m :: members) =>
    object_reads (readsMembers (m :: members) (List.cons_ne_nil m members))

theorem readsItems : ∀ items : List Value, items ≠ [] → ReadsItems items
  | [], nonempty => absurd rfl nonempty
  | [v], _ => readsItems_one v.reads
  | v :: u :: items, _ =>
    readsItems_cons v.reads (readsItems (u :: items) (List.cons_ne_nil u items))

theorem readsMembers : ∀ members : List (Option Text × Value), members ≠ [] → ReadsMembers members
  | [], nonempty => absurd rfl nonempty
  | [(_, v)], _ => readsMembers_one v.reads
  | (_, v) :: m :: members, _ =>
    readsMembers_cons v.reads (readsMembers (m :: members) (List.cons_ne_nil m members))

end

theorem Value.read?_written {v : Value} {t : Text} (w : Padded v.Writes t) :
    Value.read? t = some v := by
  have nothing : Ends [] := by
    intro c here
    cases here
  have enough : 2 * t.length ≤ 2 * t.length + 2 := by omega
  obtain ⟨back, blank, read⟩ := v.reads.padded w nothing enough
  rw [List.append_nil, List.append_nil] at read
  simp [Value.read?, read, skipSpace_all blank]

end TextCursor.Json
