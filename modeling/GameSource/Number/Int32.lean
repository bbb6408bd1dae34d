/-!
# 32-bit integers

Values are integers in the range of a signed 32-bit word.  `wrap32` brings any integer there, to the only one that is
congruent to it (`wrap32_bounds`, `wrap32_emod`).
-/
namespace GameSource

/-- The integer of the signed 32-bit range that is congruent to `n` modulo 2³². -/
def wrap32 (n : Int) : Int := n.bmod 4294967296

theorem wrap32_bounds (n : Int) : -2147483648 ≤ wrap32 n ∧ wrap32 n ≤ 2147483647 := by
  unfold wrap32
  have h := Int.le_bmod (x := n) (m := 4294967296) (by decide)
  have h' := Int.bmod_lt (x := n) (m := 4294967296) (by decide)
  omega

theorem wrap32_emod (n : Int) : wrap32 n % 4294967296 = n % 4294967296 := by
  unfold wrap32
  exact Int.bmod_emod

end GameSource
