import TextCursor.Proofs.Digits
import TextCursor.Proofs.Json.Reading
/-!
The rendered form of a value is JSON for it, and so is read back as the value. The numbers of the
value have to be numbers, and its strings to have a text.
-/
namespace TextCursor.Json

def itemOf (c : Char) : StringItem := if c.toNat < 0x20 then .unit c.toNat else .char c

theorem hex4_four {n : Nat} (small : n < 0x10000) : FourHex n (hex4 n) := by
  have four : FourHex (n / 4096 % 16 * 4096 + n / 256 % 16 * 256 + n / 16 % 16 * 16 + n % 16)
      (hex4 n) := by
    constructor <;> exact ⟨by omega, Or.inl rfl⟩
  have same : n / 4096 % 16 * 4096 + n / 256 % 16 * 256 + n / 16 % 16 * 16 + n % 16 = n := by
    omega
  rwa [same] at four

theorem renderChar_form (c : Char) : ItemForm (itemOf c) (renderChar c) := by
  unfold renderChar
  split
  · rename_i quote
    subst quote
    exact .short (by simp [shortEscapes])
  · rename_i quote
    split
    · rename_i slash
      subst slash
      exact .short (by simp [shortEscapes])
    · rename_i slash
      unfold itemOf
      split
      · rename_i control
        exact .unit (hex4_four (by omega))
      · exact .plain (by omega) quote slash

theorem renderChars_form (s : Text) : ItemsForm (s.map itemOf) (s.flatMap renderChar) := by
  induction s with
  | nil => exact .nil
  | cons c s ih => exact .cons (renderChar_form c) ih

theorem items_stand (s : Text) : StandsFor s (s.map itemOf) := by
  induction s with
  | nil => exact .nil
  | cons c s ih =>
    rw [List.map_cons, itemOf]
    split
    · exact .unit (by omega) ih
    · exact .char ih

theorem renderString_quoted (s : Text) : Quoted (some s) (renderString (some s)) :=
  quoted_of_standsFor (renderChars_form s) (items_stand s)

mutual

/-- A value that has a written form: its numbers are numbers, and its strings have a text. -/
def Value.Proper : Value → Prop
  | .number lexeme => Number lexeme
  | .string content => content.isSome = true
  | .array items => Value.ProperItems items
  | .object members => Value.ProperMembers members
  | _ => True

def Value.ProperItems : List Value → Prop
  | [] => True
  | v :: items => v.Proper ∧ Value.ProperItems items

def Value.ProperMembers : List (Option Text × Value) → Prop
  | [] => True
  | (key, v) :: members => key.isSome = true ∧ v.Proper ∧ Value.ProperMembers members

end

theorem renderString_proper {content : Option Text} (h : content.isSome = true) :
    Quoted content (renderString content) := by
  obtain ⟨s, rfl⟩ := Option.isSome_iff_exists.mp h
  exact renderString_quoted s

mutual

theorem Value.render_writes : ∀ {v : Value}, v.Proper → v.Writes v.render
  | .null, _ => rfl
  | .bool true, _ => rfl
  | .bool false, _ => rfl
  | .number _, h => ⟨h, rfl⟩
  | .string _, h => renderString_proper h
  | .array _, h => ⟨_, renderItems_writes h, rfl⟩
  | .object _, h => ⟨_, renderMembers_writes h, rfl⟩

theorem renderItems_writes : ∀ {items : List Value}, Value.ProperItems items →
    Value.WritesItems items (Value.renderItems items)
  | [], _ => Blank.nil
  | [_], h => Padded.plain (Value.render_writes h.1)
  | v :: u :: items, h => by
    have first := Value.render_writes h.1
    have others := renderItems_writes h.2
    refine ⟨v.render, Value.renderItems (u :: items), Padded.plain first, others, ?_⟩
    simp [Value.renderItems]

theorem renderMembers_writes : ∀ {members : List (Option Text × Value)},
    Value.ProperMembers members → Value.WritesMembers members (Value.renderMembers members)
  | [], _ => Blank.nil
  | [(key, v)], h => by
    have name := renderString_proper h.1
    have value := Value.render_writes h.2.1
    refine ⟨renderString key, v.render, Padded.plain name, Padded.plain value, ?_⟩
    simp [Value.renderMembers]
  | (key, v) :: m :: members, h => by
    have name := renderString_proper h.1
    have value := Value.render_writes h.2.1
    have others := renderMembers_writes h.2.2
    refine ⟨renderString key, v.render, Value.renderMembers (m :: members), Padded.plain name,
      Padded.plain value, others, ?_⟩
    simp [Value.renderMembers]

end

theorem Value.read?_render {v : Value} (h : v.Proper) : Value.read? v.render = some v :=
  Value.read?_written (Padded.plain (Value.render_writes h))

theorem digits_number (n : Nat) : Number (digits n) := by
  have whole : Whole (digits n) := by
    by_cases zero : n = 0
    · subst zero
      exact Or.inl rfl
    · exact Or.inr ⟨⟨digits_ne_nil n, digits_isDigit n⟩, digits_head (by omega)⟩
  exact ⟨[], digits n, [], [], by simp, whole, Or.inl rfl, Or.inl rfl, by simp⟩

end TextCursor.Json
