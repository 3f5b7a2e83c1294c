import TextCursor.Proofs.Json.Records
/-!
Positions, modifiers and options keep all they hold in their JSON form. What was written is read
back from the text that was written, and as well from each text that differs from it in the order
of the fields, in further members, in white space and in how strings are spelled. An object that
lacks a field or has one twice is refused.
-/
namespace TextCursor

structure Position.Countable (p : Position) : Prop where
  line : p.line ≤ maxCount
  column : p.column ≤ maxCount
  offset : p.offset ≤ maxCount
  byteOffset : p.byteOffset ≤ maxCount

namespace Json

section
variable {v : Value}

theorem ofFields_proper {fields : List (String × Value)} (all : ∀ f ∈ fields, f.2.Proper) :
    (Value.ofFields fields).Proper := by
  change Value.ProperMembers (fields.map fun f => (some f.1.toList, f.2))
  induction fields with
  | nil => trivial
  | cons f fields ih =>
    obtain ⟨here, later⟩ := List.forall_mem_cons.mp all
    exact ⟨rfl, here, ih later⟩

theorem ofCount_proper (n : Nat) : (Value.ofCount n).Proper := digits_number n

theorem count?_ofCount {n : Nat} (small : n ≤ maxCount) : (Value.ofCount n).count? = some n := by
  have all : (digits n).all Char.isDigit = true := List.all_eq_true.mpr (digits_isDigit n)
  have value : Value.digitsValue (digits n) = n := digits_value n
  change (if (digits n).all Char.isDigit = true ∧ Value.digitsValue (digits n) ≤ maxCount
    then some (Value.digitsValue (digits n)) else none) = some n
  rw [value, if_pos ⟨all, small⟩]

theorem writePosition_proper (p : Position) : (writePosition p).Proper := by
  apply ofFields_proper
  intro f mem
  simp only [List.mem_cons, List.not_mem_nil, or_false] at mem
  rcases mem with rfl | rfl | rfl | rfl <;> exact ofCount_proper _

theorem readPosition_rearranged {p : Position} (h : p.Countable)
    (changed : (writePosition p).Rearranged v) : readPosition v = some p := by
  have distinct : positionFields.Nodup := by decide
  obtain ⟨values, found, each⟩ := fields?_rearranged distinct changed rfl
  obtain _ | ⟨h1, _ | ⟨h2, _ | ⟨h3, _ | ⟨h4, _ | _⟩⟩⟩⟩ := each
  cases h1
  cases h2
  cases h3
  cases h4
  simp [readPosition, found, count?_ofCount h.line, count?_ofCount h.column,
    count?_ofCount h.offset, count?_ofCount h.byteOffset]

theorem readPosition_incomplete (h : v.Incomplete positionFields) : readPosition v = none := by
  rw [readPosition, fields?_incomplete h]
  rfl

theorem writeModifiers_proper (m : Modifiers) : (writeModifiers m).Proper := by
  apply ofFields_proper
  intro f mem
  simp only [List.mem_cons, List.not_mem_nil, or_false] at mem
  rcases mem with rfl | rfl | rfl | rfl | rfl <;> trivial

theorem readModifiers_rearranged {m : Modifiers} (changed : (writeModifiers m).Rearranged v) :
    readModifiers v = some m := by
  have distinct : modifiersFields.Nodup := by decide
  obtain ⟨values, found, each⟩ := fields?_rearranged distinct changed rfl
  obtain _ | ⟨h1, _ | ⟨h2, _ | ⟨h3, _ | ⟨h4, _ | ⟨h5, _ | _⟩⟩⟩⟩⟩ := each
  cases h1
  cases h2
  cases h3
  cases h4
  cases h5
  simp [readModifiers, found, Value.bool?]

theorem readModifiers_incomplete (h : v.Incomplete modifiersFields) :
    readModifiers v = none := by
  rw [readModifiers, fields?_incomplete h]
  rfl

theorem readEncoding_rearranged {e : Encoding} (changed : (writeEncoding e).Rearranged v) :
    readEncoding v = some e := by
  cases e <;> cases changed <;> rfl

theorem readCapture_rearranged {c : CaptureMode} (changed : (writeCapture c).Rearranged v) :
    readCapture v = some c := by
  cases c <;> cases changed <;> rfl

theorem writeOptions_proper (o : CursorOptions) : (writeOptions o).Proper := by
  apply ofFields_proper
  intro f mem
  simp only [List.mem_cons, List.not_mem_nil, or_false] at mem
  rcases mem with rfl | rfl | rfl | rfl
  · cases o.encoding <;> rfl
  · exact writeModifiers_proper o.defaultModifiers
  · cases o.capture <;> rfl
  · trivial

theorem readOptions_rearranged {o : CursorOptions} (changed : (writeOptions o).Rearranged v) :
    readOptions v = some o := by
  have distinct : optionsFields.Nodup := by decide
  obtain ⟨values, found, each⟩ := fields?_rearranged distinct changed rfl
  obtain _ | ⟨h1, _ | ⟨h2, _ | ⟨h3, _ | ⟨h4, _ | _⟩⟩⟩⟩ := each
  cases h4
  simp [readOptions, found, readEncoding_rearranged h1, readModifiers_rearranged h2,
    readCapture_rearranged h3, Value.bool?]

def Value.IncompleteOptions (v : Value) : Prop :=
  v.Incomplete optionsFields ∨ ∃ members modifiers, v = .object members ∧
    (some "default_modifiers".toList, modifiers) ∈ members ∧
    modifiers.Incomplete modifiersFields

theorem readOptions_incomplete (h : v.IncompleteOptions) : readOptions v = none := by
  rcases h with missing | ⟨members, modifiers, rfl, mem, missing⟩
  · rw [readOptions, fields?_incomplete missing]
    rfl
  · cases found : (Value.object members).fields? optionsFields with
    | none =>
      rw [readOptions, found]
      rfl
    | some values =>
      obtain _ | ⟨-, _ | ⟨second, _ | ⟨-, _ | ⟨-, _ | _⟩⟩⟩⟩ := fields?_members found
      have only := mem_of_member? second mem
      subst only
      simp [readOptions, found, readModifiers_incomplete missing]

/-- The JSON form of a type loses nothing of the values that are `Valid`, and no JSON that is
`Flawed` is read. -/
structure LosesNothing {α : Type} (write : α → Value) (read : Value → Option α) (Valid : α → Prop)
    (Flawed : Value → Prop) : Prop where
  back : ∀ x, Valid x → (Value.read? (write x).render).bind read = some x
  rearranged : ∀ x, Valid x → ∀ v, (write x).Rearranged v → ∀ t, Padded v.Writes t →
    (Value.read? t).bind read = some x
  refused : ∀ v, Flawed v → ∀ t, Padded v.Writes t → (Value.read? t).bind read = none

theorem losesNothing {α : Type} {write : α → Value} {read : Value → Option α} {Valid : α → Prop}
    {Flawed : Value → Prop} (proper : ∀ x, (write x).Proper)
    (reads : ∀ x, Valid x → ∀ v, (write x).Rearranged v → read v = some x)
    (refuses : ∀ v, Flawed v → read v = none) : LosesNothing write read Valid Flawed := by
  constructor
  · intro x valid
    rw [Value.read?_render (proper x)]
    exact reads x valid (write x) (write x).rearranged_refl
  · intro x valid v changed t written
    rw [Value.read?_written written]
    exact reads x valid v changed
  · intro v flawed t written
    rw [Value.read?_written written]
    exact refuses v flawed

/-- The JSON form of positions, modifiers and options loses nothing: what was written is read back,
and so is each text that is JSON for it with the fields in any order, among further members, with
any white space and any spelling of the strings. An object that lacks a field, or has one twice, is
refused. -/
theorem json_form_loses_nothing :
    LosesNothing writePosition readPosition Position.Countable (Value.Incomplete positionFields) ∧
    LosesNothing writeModifiers readModifiers (fun _ => True)
      (Value.Incomplete modifiersFields) ∧
    LosesNothing writeOptions readOptions (fun _ => True) Value.IncompleteOptions := by
  refine ⟨?_, ?_, ?_⟩
  · apply losesNothing writePosition_proper
    · intro p countable v changed
      exact readPosition_rearranged countable changed
    · intro v missing
      exact readPosition_incomplete missing
  · apply losesNothing writeModifiers_proper
    · intro m _ v changed
      exact readModifiers_rearranged changed
    · intro v missing
      exact readModifiers_incomplete missing
  · apply losesNothing writeOptions_proper
    · intro o _ v changed
      exact readOptions_rearranged changed
    · intro v missing
      exact readOptions_incomplete missing

/-- A position at the end of what can be counted is read from a text with its fields in another
order, one of them spelled with an escape, and with a member that holds half of a surrogate pair; a
line given twice is refused. -/
theorem rearranged_position_read :
    let p : Position := ⟨18446744073709551615, 2, 1, 0⟩
    let t : Text := "\x7b \"\\u006cine\" : 18446744073709551615,\"unit\":[\"\\ud800\"],".toList ++
      "\"byte_offset\":0,\"offset\":1,\"column\":2\x7d\n".toList
    let twice : Value := .ofFields [("line", .ofCount 1), ("line", .ofCount 1)]
    p.Countable ∧ twice.Incomplete positionFields ∧
      (∃ v, (writePosition p).Rearranged v ∧ Padded v.Writes t) ∧
      (Value.read? t).bind readPosition = some p ∧
      (Value.read? twice.render).bind readPosition = none := by
  intro p t twice
  have countable : p.Countable := by
    constructor <;> simp [p, maxCount]
  have incomplete : twice.Incomplete positionFields := ⟨"line", by simp [positionFields], by decide⟩
  let added : List (Option Text × Value) := [(some "unit".toList, .array [.string none])]
  let behind : List (Option Text × Value) :=
    [(some "byte_offset".toList, .ofCount 0), (some "offset".toList, .ofCount 1),
      (some "column".toList, .ofCount 2)]
  let v : Value := .object ((some "line".toList, .ofCount p.line) :: (added ++ behind))
  have changed : (writePosition p).Rearranged v := by
    have order : (added ++ behind).Perm (behind.reverse ++ added) :=
      List.perm_append_comm.trans ((List.reverse_perm behind).symm.append_right added)
    exact ⟨_, added, _, rearrangedMembers_refl _, by simp [added], order.cons _, rfl⟩
  have escaped : Quoted (some "line".toList) "\"\\u006cine\"".toList := by
    have letter : FourHex 0x6c ['0', '0', '6', 'c'] := hex4_four (by decide)
    have others : ItemsForm ("ine".toList.map itemOf) "ine".toList := renderChars_form "ine".toList
    exact quoted_of_standsFor (.cons (.unit letter) others)
      (.unit (c := 'l') (by decide) (items_stand "ine".toList))
  have half : Quoted none "\"\\ud800\"".toList := by
    have surrogate : FourHex 0xD800 ['d', '8', '0', '0'] := hex4_four (by decide)
    refine ⟨[.unit 0xD800], _, .cons (.unit surrogate) .nil, ?_, rfl⟩
    intro s
    constructor
    · intro same
      cases same
    · intro stands
      cases joinItems_of_standsFor stands
  have written : Padded v.Writes t := by
    have count : (Value.ofCount p.line).Writes "18446744073709551615".toList := by
      have rendered : (Value.ofCount p.line).render = "18446744073709551615".toList := by
        decide +kernel
      rw [← rendered]
      exact Value.render_writes (ofCount_proper p.line)
    have key : Padded (Quoted (some "line".toList)) " \"\\u006cine\" ".toList :=
      ⟨[' '], _, [' '], by simp [Blank], escaped, by simp [Blank], rfl⟩
    have line : Padded (Value.ofCount p.line).Writes " 18446744073709551615".toList :=
      ⟨[' '], _, [], by simp [Blank], count, Blank.nil, rfl⟩
    have unit : Padded (Quoted (some "unit".toList)) "\"unit\"".toList :=
      Padded.plain (renderString_quoted "unit".toList)
    have item : Padded (Value.array [.string none]).Writes "[\"\\ud800\"]".toList :=
      Padded.plain ⟨_, Padded.plain half, rfl⟩
    have others : Value.WritesMembers behind (Value.renderMembers behind) :=
      renderMembers_writes ⟨rfl, ofCount_proper 0, rfl, ofCount_proper 1, rfl, ofCount_proper 2,
        trivial⟩
    have behindLine : Value.WritesMembers (added ++ behind) _ :=
      ⟨_, _, _, unit, item, others, rfl⟩
    have members : v.Writes _ := ⟨_, ⟨_, _, _, key, line, behindLine, rfl⟩, rfl⟩
    exact ⟨[], _, ['\n'], Blank.nil, members, by simp [Blank], rfl⟩
  have kept := json_form_loses_nothing.1
  have proper : twice.Proper := ofFields_proper (by simp [ofCount_proper])
  have read := kept.rearranged p countable v changed t written
  have refused := kept.refused twice incomplete twice.render
    (Padded.plain (Value.render_writes proper))
  exact ⟨countable, incomplete, ⟨v, changed, written⟩, read, refused⟩

end

end Json

end TextCursor
