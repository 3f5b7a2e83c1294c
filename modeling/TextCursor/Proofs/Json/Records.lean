import Mathlib.Data.List.Forall2
import Mathlib.Data.List.Nodup
import TextCursor.Json.Config
import TextCursor.Proofs.Json.Rendering
/-!
Records as objects. The fields of a record are found in any order and among any other members, each
with a value that may itself be rearranged. If one of them is missing or there twice, none are
found.
-/
namespace TextCursor.Json

mutual

/-- Whether one object is another with its members in any order, and with further members under keys
that the first does not have. The values of the members may be rearranged in turn; any other value
stays as it is. -/
def Value.Rearranged : Value → Value → Prop
  | .object members, v => ∃ kept added all, RearrangedMembers members kept ∧
      (∀ m ∈ added, ∃ key, m.1 = some key ∧ some key ∉ members.map (·.1)) ∧
      all.Perm (kept ++ added) ∧ v = .object all
  | u, v => v = u

def RearrangedMembers :
    List (Option Text × Value) → List (Option Text × Value) → Prop
  | [], kept => kept = []
  | (key, u) :: members, kept => ∃ v others, u.Rearranged v ∧ RearrangedMembers members others ∧
      kept = (key, v) :: others

end

mutual

theorem Value.rearranged_refl : ∀ v : Value, v.Rearranged v
  | .null => rfl
  | .bool _ => rfl
  | .number _ => rfl
  | .string _ => rfl
  | .array _ => rfl
  | .object members =>
    ⟨members, [], members, rearrangedMembers_refl members, by simp, by simp, rfl⟩

theorem rearrangedMembers_refl :
    ∀ members : List (Option Text × Value), RearrangedMembers members members
  | [] => rfl
  | (_, v) :: members => ⟨v, members, v.rearranged_refl, rearrangedMembers_refl members, rfl⟩

end

section Members
variable {members kept added all : List (Option Text × Value)} {key : String} {v : Value}

theorem RearrangedMembers.keys (h : RearrangedMembers members kept) :
    kept.map (·.1) = members.map (·.1) := by
  induction members generalizing kept with
  | nil =>
    cases h
    rfl
  | cons m members ih =>
    obtain ⟨v, others, -, rest, rfl⟩ := h
    simp [ih rest]

theorem valuesAt_eq_nil (absent : some key.toList ∉ members.map (·.1)) :
    valuesAt members key = [] := by
  rw [valuesAt, List.map_eq_nil_iff, List.filter_eq_nil_iff]
  intro m mem same
  apply absent
  rw [← eq_of_beq same]
  exact List.mem_map_of_mem mem

theorem valuesAt_append (first second : List (Option Text × Value)) (key : String) :
    valuesAt (first ++ second) key = valuesAt first key ++ valuesAt second key := by
  simp [valuesAt]

theorem valuesAt_perm (same : members.Perm all) (key : String) :
    (valuesAt members key).Perm (valuesAt all key) := (same.filter _).map _

theorem valuesAt_cons_self (key : String) (v : Value) (members : List (Option Text × Value)) :
    valuesAt ((some key.toList, v) :: members) key = v :: valuesAt members key := by
  simp [valuesAt]

theorem valuesAt_cons_other {k : Option Text} (other : k ≠ some key.toList) (v : Value)
    (members : List (Option Text × Value)) :
    valuesAt ((k, v) :: members) key = valuesAt members key := by
  simp [valuesAt, other]

theorem RearrangedMembers.valuesAt_kept (h : RearrangedMembers members kept)
    (distinct : (members.map (·.1)).Nodup) (mem : (some key.toList, v) ∈ members) :
    ∃ v', v.Rearranged v' ∧ valuesAt kept key = [v'] := by
  induction members generalizing kept with
  | nil => cases mem
  | cons m members ih =>
    obtain ⟨v', others, here, rest, rfl⟩ := h
    rw [List.map_cons, List.nodup_cons] at distinct
    rcases List.mem_cons.mp mem with rfl | later
    · have absent : some key.toList ∉ others.map (·.1) := by
        rw [rest.keys]
        exact distinct.1
      refine ⟨v', here, ?_⟩
      rw [valuesAt_cons_self, valuesAt_eq_nil absent]
    · obtain ⟨w, changed, found⟩ := ih rest distinct.2 later
      have other : m.1 ≠ some key.toList := by
        intro same
        apply distinct.1
        rw [same]
        exact List.mem_map_of_mem later
      refine ⟨w, changed, ?_⟩
      rw [valuesAt_cons_other other, found]

theorem member?_rearranged (h : (Value.object members).Rearranged (.object all))
    (distinct : (members.map (·.1)).Nodup) (mem : (some key.toList, v) ∈ members) :
    ∃ v', member? all key = some v' ∧ v.Rearranged v' := by
  obtain ⟨kept, added, all', changed, further, order, same⟩ := h
  cases same
  obtain ⟨v', here, found⟩ := changed.valuesAt_kept distinct mem
  have absent : some key.toList ∉ added.map (·.1) := by
    intro there
    obtain ⟨m, mem', same⟩ := List.mem_map.mp there
    obtain ⟨k, named, fresh⟩ := further m mem'
    apply fresh
    rw [← named, same]
    exact List.mem_map_of_mem mem
  have only : (valuesAt all key).Perm [v'] := by
    have split := valuesAt_perm order key
    rwa [valuesAt_append, found, valuesAt_eq_nil absent, List.append_nil] at split
  refine ⟨v', ?_, here⟩
  rw [member?, List.perm_singleton.mp only]

end Members

section Fields
variable {names : List String} {name : String} {fields : List (String × Value)}
  {find : String → Option Value} {members : List (Option Text × Value)} {v : Value}

theorem mapM_found {R : Value → Value → Prop}
    (each : ∀ f ∈ fields, ∃ v, find f.1 = some v ∧ R f.2 v) :
    ∃ values, (fields.map (·.1)).mapM find = some values ∧
      List.Forall₂ R (fields.map (·.2)) values := by
  induction fields with
  | nil => exact ⟨[], rfl, .nil⟩
  | cons f fields ih =>
    obtain ⟨here, later⟩ := List.forall_mem_cons.mp each
    obtain ⟨v, found, related⟩ := here
    obtain ⟨values, others, all⟩ := ih later
    refine ⟨v :: values, ?_, .cons related all⟩
    simp [List.mapM_cons, found, others]

theorem mapM_missing (mem : name ∈ names) (missing : find name = none) :
    names.mapM find = none := by
  induction names with
  | nil => cases mem
  | cons n names ih =>
    rw [List.mapM_cons]
    rcases List.mem_cons.mp mem with rfl | later
    · rw [missing]
      rfl
    · rw [ih later]
      cases find n <;> rfl

theorem fields?_rearranged (distinct : names.Nodup) (h : (Value.ofFields fields).Rearranged v)
    (same : fields.map (·.1) = names) :
    ∃ values, v.fields? names = some values ∧
      List.Forall₂ Value.Rearranged (fields.map (·.2)) values := by
  subst same
  have keys : (fields.map fun f => (some f.1.toList, f.2)).map (·.1) =
      (fields.map (·.1)).map fun name => some name.toList := by simp
  have apart : ((fields.map fun f => (some f.1.toList, f.2)).map (·.1)).Nodup := by
    have injective : Function.Injective fun name : String => some name.toList := by
      intro a b same
      exact String.toList_inj.mp (Option.some.inj same)
    rw [keys]
    exact List.Nodup.map injective distinct
  have rearranged := h
  obtain ⟨kept, added, all, changed, further, order, rfl⟩ := h
  have named : (all.all fun m => m.1.isSome) = true := by
    rw [List.all_eq_true]
    intro m mem
    rcases List.mem_append.mp (order.mem_iff.mp mem) with old | new
    · have key : m.1 ∈ (fields.map (·.1)).map fun name => some name.toList := by
        rw [← keys, ← changed.keys]
        exact List.mem_map_of_mem old
      obtain ⟨name, -, same⟩ := List.mem_map.mp key
      rw [← same]
      rfl
    · obtain ⟨key, same, -⟩ := further m new
      rw [same]
      rfl
  rw [Value.fields?, if_pos named]
  apply mapM_found
  intro f mem
  exact member?_rearranged rearranged apart (List.mem_map_of_mem mem)

def Value.Incomplete (names : List String) : Value → Prop
  | .object members => ∃ name ∈ names, members.countP (·.1 == some name.toList) ≠ 1
  | _ => False

theorem member?_eq_none (h : members.countP (·.1 == some name.toList) ≠ 1) :
    member? members name = none := by
  have length : (valuesAt members name).length ≠ 1 := by
    rwa [valuesAt, List.length_map, ← List.countP_eq_length_filter]
  unfold member?
  split
  · rename_i v only
    rw [only] at length
    exact absurd rfl length
  · rfl

theorem fields?_incomplete (h : v.Incomplete names) : v.fields? names = none := by
  cases v with
  | object members =>
    obtain ⟨name, mem, other⟩ := h
    rw [Value.fields?, mapM_missing mem (member?_eq_none other)]
    split <;> rfl
  | _ => cases h

theorem mem_of_member? {u : Value} (found : member? members name = some u)
    (mem : (some name.toList, v) ∈ members) : u = v := by
  have there : v ∈ valuesAt members name := by
    simp only [valuesAt, List.mem_map, List.mem_filter]
    exact ⟨(some name.toList, v), ⟨mem, by simp⟩, rfl⟩
  unfold member? at found
  split at found
  · rename_i w only
    cases found
    rw [only, List.mem_singleton] at there
    exact there.symm
  · cases found

theorem fields?_members {values : List Value}
    (found : (Value.object members).fields? names = some values) :
    List.Forall₂ (fun name v => member? members name = some v) names values := by
  rw [Value.fields?] at found
  split at found
  · induction names generalizing values with
    | nil =>
      cases found
      exact .nil
    | cons name names ih =>
      rw [List.mapM_cons] at found
      obtain ⟨v, first, found⟩ := Option.bind_eq_some_iff.mp found
      obtain ⟨others, later, found⟩ := Option.bind_eq_some_iff.mp found
      cases found
      exact .cons first (ih later)
  · cases found

end Fields

end TextCursor.Json
