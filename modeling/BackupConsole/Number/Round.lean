set_option autoImplicit false

namespace BackupConsole.Number

/-- The whole number nearest to `n / d`, a tie going to the even neighbour. -/
def roundHalfEven (n d : Nat) : Nat :=
  let q := n / d
  let r := n % d
  if 2 * r < d then q
  else if d < 2 * r then q + 1
  else if q % 2 = 0 then q else q + 1

theorem le_two_mul_roundHalfEven (n d : Nat) (h : 0 < d) :
    2 * n ≤ 2 * (roundHalfEven n d * d) + d := by
  have split := Nat.div_add_mod n d
  rw [Nat.mul_comm] at split
  have small := Nat.mod_lt n h
  unfold roundHalfEven
  dsimp only
  split
  · omega
  · split
    · rw [Nat.add_mul]
      omega
    · split
      · omega
      · rw [Nat.add_mul]
        omega

theorem two_mul_roundHalfEven_le (n d : Nat) : 2 * (roundHalfEven n d * d) ≤ 2 * n + d := by
  have split := Nat.div_add_mod n d
  rw [Nat.mul_comm] at split
  unfold roundHalfEven
  dsimp only
  split
  · omega
  · split
    · rw [Nat.add_mul]
      omega
    · split
      · omega
      · rw [Nat.add_mul]
        omega

end BackupConsole.Number
