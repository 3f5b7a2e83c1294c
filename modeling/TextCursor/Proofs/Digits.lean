import TextCursor.Text
/-!
The decimal digits that a number is written with. They stand for the number, and no zero stands in
front of them.
-/
namespace TextCursor

def digits (n : Nat) : Text := (Nat.repr n).toList

theorem digits_isDigit (n : Nat) : ∀ c ∈ digits n, c.isDigit = true := by
  intro c mem
  rw [digits, Nat.toList_repr] at mem
  exact Nat.isDigit_of_mem_toDigits (by decide) (by decide) mem

theorem digits_value (n : Nat) :
    (digits n).foldl (fun n c => n * 10 + (c.toNat - 48)) 0 = n := by
  have value : Nat.ofDigitChars 10 (digits n) 0 = n := by
    rw [digits, Nat.toList_repr]
    exact Nat.ofDigitChars_ten_toDigits
  rw [Nat.ofDigitChars_eq_foldl] at value
  simpa [Nat.mul_comm] using value

theorem digits_ne_nil (n : Nat) : digits n ≠ [] := by
  rw [digits, Nat.toList_repr]
  exact Nat.toDigits_ne_nil

theorem digit_cases {c : Char} (h : c.isDigit = true) :
    c ∈ ['0', '1', '2', '3', '4', '5', '6', '7', '8', '9'] := by
  have bounds : 48 ≤ c.toNat ∧ c.toNat ≤ 57 := by
    simp only [Char.isDigit, Bool.and_eq_true, decide_eq_true_eq, ge_iff_le,
      UInt32.le_iff_toNat_le] at h
    exact h
  have digit : ∀ n < 58, 48 ≤ n →
      Char.ofNat n ∈ ['0', '1', '2', '3', '4', '5', '6', '7', '8', '9'] := by decide +kernel
  have := digit c.toNat (by omega) bounds.1
  rwa [Char.ofNat_toNat] at this

theorem digit_all (test : Char → Bool)
    (all : ['0', '1', '2', '3', '4', '5', '6', '7', '8', '9'].all test = true) {c : Char}
    (h : c.isDigit = true) : test c = true :=
  List.all_eq_true.mp all c (digit_cases h)

theorem digits_head {n : Nat} (positive : 0 < n) : (digits n).head? ≠ some '0' := by
  rw [digits, Nat.toList_repr]
  induction n using Nat.strongRecOn with
  | ind n ih =>
    by_cases small : n < 10
    · have first : ∀ k < 10, 0 < k → Nat.digitChar k ≠ '0' := by decide
      rw [Nat.toDigits_of_lt_base small]
      simpa using first n small positive
    · have front := ih (n / 10) (by omega) (by omega)
      obtain ⟨c, more, first⟩ :=
        List.exists_cons_of_ne_nil (Nat.toDigits_ne_nil (b := 10) (n := n / 10))
      rw [first] at front
      rw [Nat.toDigits_of_base_le (by decide) (by omega), first]
      exact front

end TextCursor
