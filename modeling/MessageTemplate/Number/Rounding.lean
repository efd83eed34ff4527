/-!
# Rounding a quotient

* `roundQuotient`: the whole number nearest a quotient; a quotient half way between two whole
  numbers goes to the even one.
* `two_mul_roundQuotient_le`, `le_two_mul_roundQuotient`: it is at most a half away.
* `roundQuotient_even`: if it is a half away, it is even.
* `roundQuotient_mul`: a whole number stays as it is.
-/

namespace MessageTemplate

/-- The whole number nearest `n / d`, the even one of two. -/
def roundQuotient (n d : Nat) : Nat :=
  let below := n / d
  let rest := n % d
  if 2 * rest < d then below
  else if d < 2 * rest then below + 1
  else if below % 2 = 0 then below
  else below + 1

theorem two_mul_roundQuotient_le (n d : Nat) : 2 * (d * roundQuotient n d) ≤ 2 * n + d := by
  have h := Nat.div_add_mod n d
  unfold roundQuotient
  dsimp only
  split
  · omega
  · split
    · rw [Nat.mul_add]; omega
    · split
      · omega
      · rw [Nat.mul_add]; omega

theorem le_two_mul_roundQuotient (n : Nat) {d : Nat} (hd : 0 < d) :
    2 * n ≤ 2 * (d * roundQuotient n d) + d := by
  have h := Nat.div_add_mod n d
  have hr := Nat.mod_lt n hd
  unfold roundQuotient
  dsimp only
  split
  · omega
  · split
    · rw [Nat.mul_add]; omega
    · split
      · omega
      · rw [Nat.mul_add]; omega

theorem roundQuotient_even {n d : Nat} (hd : 0 < d)
    (h : 2 * (d * roundQuotient n d) = 2 * n + d ∨ 2 * n = 2 * (d * roundQuotient n d) + d) :
    roundQuotient n d % 2 = 0 := by
  have hn := Nat.div_add_mod n d
  have hr := Nat.mod_lt n hd
  unfold roundQuotient at h ⊢
  dsimp only at h ⊢
  split at h
  · omega
  · rename_i hbelow
    rw [if_neg hbelow]
    split at h
    · rw [Nat.mul_add] at h; omega
    · rename_i habove
      rw [if_neg habove]
      split <;> omega

theorem roundQuotient_mul {d : Nat} (h : 0 < d) (n : Nat) : roundQuotient (n * d) d = n := by
  simp [roundQuotient, Nat.mul_div_cancel n h, h]

end MessageTemplate
