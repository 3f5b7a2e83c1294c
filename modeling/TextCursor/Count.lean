/-!
Counts that callers hand in go up to a fixed limit, and a sum of counts stops there instead of
wrapping. Every length that an operation really uses is clamped to the remaining input afterwards.
-/
namespace TextCursor

def maxCount : Nat := 0xFFFFFFFFFFFFFFFF

def saturatingAdd (a b : Nat) : Nat := min (a + b) maxCount

/-- A clamp below the limit does not see that the sum was held there. -/
theorem min_saturatingAdd {limit : Nat} (a b : Nat) (h : limit ≤ maxCount) :
    min (saturatingAdd a b) limit = min (a + b) limit := by
  unfold saturatingAdd
  omega

theorem min_saturatingAdd_add {limit : Nat} (a b c : Nat) (h : limit ≤ maxCount) :
    min (saturatingAdd (saturatingAdd a b) c) limit = min (a + b + c) limit := by
  rw [min_saturatingAdd _ _ h]
  unfold saturatingAdd
  omega

theorem min_saturatingAdd_min {limit : Nat} (a b : Nat) (h : limit ≤ maxCount) :
    min (saturatingAdd (min a limit) b) limit = min (a + b) limit := by
  rw [min_saturatingAdd _ _ h]
  omega

end TextCursor
