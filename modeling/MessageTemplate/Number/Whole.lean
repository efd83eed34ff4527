import MessageTemplate.Number.Nearest
import MessageTemplate.Number.Shortest

/-!
# Whole numbers as binary numbers

Up to `2 ^ 53` every whole number is a binary number. All of them count units of at most one, so
that no other whole number rounds to them, except for `2 ^ 53`, which counts units of two. Another
one may round to it, but no other multiple of ten does, and so none on a coarser grid than the whole
numbers.

* `Binary64.Holds`: the significand and the exponent of such a number. `Binary64.holds_ofInt`: the
  number nearest a whole number has them.
* `Binary64.Holds.numerator`: its magnitude is the whole number.
* `Binary64.Holds.eq_of_roundsTo`: no other multiple of ten rounds to it.
* **`Binary64.Holds.shortest`**: the shortest decimal that rounds to it is the whole number.
-/

namespace MessageTemplate

namespace Nearest

theorem binaryExponent_one {n : Nat} (h : 0 < n) : binaryExponent n 1 = n.log2 := by
  have hlog : (1 : Nat).log2 = 0 := by decide
  have hle : ¬ n < 1 <<< n.log2 := by
    rw [Nat.shiftLeft_eq, Nat.one_mul]
    exact Nat.not_lt.2 (Nat.log2_self_le (by omega))
  unfold binaryExponent
  simp only [hlog]
  rw [if_neg]
  · omega
  · simpa using hle

/-- The bits of a whole number that counts units of at most one: the leading digit of the significand
is the hidden bit, and adds one to the exponent. -/
theorem word_of_lt {n : Nat} (h : 0 < n) (hlt : n < Binary64.wholeLimit) :
    ∃ k ≤ 52, word n 1 = (1074 - k) * Binary64.hidden + n <<< k ∧
      Binary64.hidden ≤ n <<< k ∧ n <<< k < 2 * Binary64.hidden := by
  have hlog : n.log2 < 53 := (Nat.log2_lt (by omega)).2 hlt
  obtain ⟨k, hk⟩ : ∃ k, n.log2 + k = 52 := ⟨52 - n.log2, by omega⟩
  have hlower : Binary64.hidden ≤ n <<< k := by
    calc Binary64.hidden = 2 ^ n.log2 * 2 ^ k := by rw [← Nat.pow_add, hk]; rfl
      _ ≤ n * 2 ^ k := Nat.mul_le_mul_right _ (Nat.log2_self_le (by omega))
      _ = n <<< k := (Nat.shiftLeft_eq n k).symm
  have hupper : n <<< k < 2 * Binary64.hidden := by
    calc n <<< k = n * 2 ^ k := Nat.shiftLeft_eq n k
      _ < 2 ^ (n.log2 + 1) * 2 ^ k :=
          Nat.mul_lt_mul_of_pos_right Nat.lt_log2_self (Nat.two_pow_pos k)
      _ = 2 * Binary64.hidden := by rw [← Nat.pow_add, Nat.add_right_comm, hk]; rfl
  refine ⟨k, by omega, ?_, hlower, hupper⟩
  have hunit : max (binaryExponent n 1 - 52) (-1074) = -(k : Int) := by
    rw [binaryExponent_one h]
    omega
  have hround : roundQuotient (n <<< k) 1 = n <<< k := by
    simpa using roundQuotient_mul Nat.one_pos (n <<< k)
  have hexponent : (-(k : Int) + 1074).toNat = 1074 - k := by omega
  unfold word
  rw [if_neg (by omega)]
  simp only [hunit, Int.neg_neg, Int.toNat_natCast, Int.toNat_neg_natCast, Nat.shiftLeft_zero, hround,
    hexponent]
  apply Nat.min_eq_left
  unfold Binary64.hidden Binary64.infinityWord at *
  omega

end Nearest

namespace Binary64

/-- A number whose magnitude is the whole number `n` and which counts units of at most one, or the
first one that does not. -/
inductive Holds (x : Binary64) (n : Nat) : Prop where
  | fine (k : Nat) (exponent : x.exponent = -k) (significand : x.significand = n <<< k)
  | coarse (eq : n = wholeLimit) (exponent : x.exponent = 1) (significand : x.significand = hidden)

theorem ofInt_eq {v : Int} (h : v.natAbs ≤ wholeLimit) :
    ofInt v = ofWord (v < 0) (Nearest.word v.natAbs 1) := by
  have hnumerator : (⟨v.natAbs, 0⟩ : Decimal).numerator = v.natAbs := Nat.mul_one _
  have hdenominator : (⟨v.natAbs, 0⟩ : Decimal).denominator = 1 := rfl
  unfold ofInt Decimal.nearest
  rw [hnumerator, hdenominator]
  split
  · rename_i hsmall
    have hzero : v.natAbs = 0 := by
      rcases hsmall with hzero | hfar
      · exact hzero
      · dsimp only at hfar
        omega
    rw [hzero]
    rfl
  · rename_i hsmall
    have hlog : v.natAbs.log2 < 54 :=
      (Nat.log2_lt fun h0 => hsmall (.inl h0)).2 (Nat.lt_of_le_of_lt h (by decide))
    rw [if_neg]
    dsimp only
    unfold Decimal.lowerPower
    omega

theorem holds_ofWord {negative : Bool} {n k : Nat} (hk : k ≤ 1073)
    (hlower : hidden ≤ n <<< k) (hupper : n <<< k < 2 * hidden) :
    (ofWord negative ((1074 - k) * hidden + n <<< k)).Holds n := by
  have hword : (1074 - k) * hidden + n <<< k < signBit := by
    unfold hidden signBit at *
    omega
  have hbiased : (ofWord negative ((1074 - k) * hidden + n <<< k)).biased = 1075 - k := by
    rw [biased_ofWord hword]
    unfold hidden at *
    omega
  have hfraction : (ofWord negative ((1074 - k) * hidden + n <<< k)).fraction =
      n <<< k - hidden := by
    rw [fraction_ofWord hword]
    unfold hidden at *
    omega
  refine .fine k ?_ ?_
  · rw [exponent, hbiased, if_neg (by omega)]
    omega
  · rw [significand, hbiased, if_neg (by omega), hfraction]
    omega

theorem holds_ofInt {v : Int} (h : v.natAbs ≤ wholeLimit) : (ofInt v).Holds v.natAbs := by
  rw [ofInt_eq h]
  generalize v.natAbs = n at h ⊢
  rcases Nat.eq_zero_or_pos n with rfl | hpos
  · -- zero has the smallest exponent; the bits are computed for either sign
    obtain ⟨k, hk⟩ : ∃ k, k = 1074 := ⟨_, rfl⟩
    refine .fine k ?_ ?_
    · rw [hk]
      cases decide (v < 0) <;> rfl
    · rw [Nat.zero_shiftLeft]
      cases decide (v < 0) <;> rfl
  rcases Nat.lt_or_eq_of_le h with hlt | rfl
  · obtain ⟨k, hk, hword, hlower, hupper⟩ := Nearest.word_of_lt hpos hlt
    rw [hword]
    exact holds_ofWord (by omega) hlower hupper
  · exact .coarse rfl (by cases decide (v < 0) <;> rfl) (by cases decide (v < 0) <;> rfl)

namespace Holds

variable {x : Binary64} {n : Nat}

theorem isFinite (h : x.Holds n) : x.isFinite = true := by
  have hexponent : x.exponent ≤ 1 := by
    cases h with
    | fine k exponent => omega
    | coarse _ exponent => omega
  unfold exponent at hexponent
  unfold Binary64.isFinite
  rw [decide_eq_true_iff]
  split at hexponent <;> omega

theorem numerator (h : x.Holds n) : x.numerator = n * x.denominator := by
  unfold Binary64.numerator denominator
  cases h with
  | fine k exponent significand =>
    simp [exponent, significand, Nat.shiftLeft_eq]
  | coarse eq exponent significand =>
    rw [exponent, significand, eq]
    decide

theorem roundsTo (h : x.Holds n) : x.RoundsTo n 1 := by
  have hself := x.roundsTo_self
  rw [h.numerator, ← Nat.one_mul x.denominator, ← Nat.mul_assoc, Nat.mul_one] at hself
  exact (x.roundsTo_mul_iff x.denominator_pos).1 hself

/-- No multiple of ten but the number itself rounds to it. -/
theorem eq_of_roundsTo (h : x.Holds n) {m : Nat} (hm : x.RoundsTo m 1) (hten : 10 ∣ m) : m = n := by
  obtain ⟨hlower, hupper⟩ := hm.bounds
  cases h with
  | fine k exponent significand =>
    have hpoint : (2 - x.exponent).toNat = 2 + k := by omega
    have hquarter : (x.exponent - 2).toNat = 0 := by omega
    rw [hpoint, hquarter, significand, Nat.shiftLeft_eq, Nat.shiftLeft_eq, Nat.shiftLeft_eq,
      Nat.pow_add, Nat.mul_left_comm m] at hlower hupper
    have heq : m * 2 ^ k = n * 2 ^ k := by omega
    exact Nat.eq_of_mul_eq_mul_right (Nat.two_pow_pos k) heq
  | coarse eq exponent significand =>
    -- `2 ^ 53` ends in 2, so its neighbours are no multiples of ten either
    have hpoint : (2 - x.exponent).toNat = 1 := by omega
    have hquarter : (x.exponent - 2).toNat = 0 := by omega
    rw [hpoint, hquarter, significand, Nat.shiftLeft_eq, Nat.shiftLeft_eq] at hlower hupper
    unfold hidden wholeLimit at *
    omega

theorem onGrid?_zero (h : x.Holds n) : Shortest.onGrid? x 0 = some ⟨n, 0⟩ := by
  have hd := x.denominator_pos
  have hbelow : x.numerator * Nat.pow 10 0 / (x.denominator * Nat.pow 10 0) = n := by
    rw [h.numerator]
    simp [Nat.mul_div_cancel n hd]
  have hfarther : ¬ (2 * n + 1) * (x.denominator * Nat.pow 10 0) ≤
      2 * (x.numerator * Nat.pow 10 0) := by
    rw [h.numerator]
    simp only [Nat.pow_eq, Nat.pow_zero, Nat.mul_one, Nat.add_mul, Nat.mul_assoc]
    omega
  have hlower : x.RoundsTo (n * Nat.pow 10 0) (Nat.pow 10 0) := by
    simpa using h.roundsTo
  unfold Shortest.onGrid?
  simp only [Int.toNat_zero, Int.neg_zero, hbelow]
  rw [if_neg fun hupper => hfarther (hupper.2 hlower), if_pos hlower]

theorem lt_start (h : x.Holds n) (hs : x.significand ≠ 0) : 1073 < Shortest.start x := by
  have hbits : 0 ≤ (x.significand.log2 : Int) + x.exponent := by
    cases h with
    | fine k exponent significand =>
      have hn : 0 < n := Nat.pos_of_ne_zero fun h0 => hs (by rw [significand, h0, Nat.zero_shiftLeft])
      have hlog : k ≤ x.significand.log2 := by
        rw [Nat.le_log2 hs, significand, Nat.shiftLeft_eq]
        exact Nat.le_mul_of_pos_left _ hn
      omega
    | coarse eq exponent significand => omega
  unfold Shortest.start
  dsimp only
  omega

/-- **The shortest decimal is the whole number itself**, in units of a power of ten. -/
theorem shortest (h : x.Holds n) : 0 ≤ x.shortest.exponent ∧ x.shortest.numerator = n := by
  unfold Binary64.shortest
  split
  · rename_i hs
    have hn := h.numerator
    rw [Binary64.numerator, hs, Nat.zero_shiftLeft] at hn
    refine ⟨Int.le_refl 0, ?_⟩
    have hzero := (Nat.mul_eq_zero.1 hn.symm).resolve_right (Nat.ne_of_gt x.denominator_pos)
    rw [hzero]
    rfl
  · rename_i hs
    have hzero : ((1073 + 1 : Nat) : Int) - 1074 = 0 := rfl
    have hfound : (Shortest.onGrid? x ((1073 + 1 : Nat) - 1074)).isSome = true := by
      rw [hzero, h.onGrid?_zero]
      rfl
    obtain ⟨g, hg, hsearch⟩ := Shortest.exists_onGrid?_search hfound (h.lt_start hs)
    rw [hzero] at hg
    generalize Shortest.search x (Shortest.start x) = d at hsearch
    have hexponent := Shortest.exponent_of_onGrid? hsearch
    refine ⟨hexponent ▸ hg, ?_⟩
    rcases Int.lt_or_eq_of_le hg with hpos | rfl
    · have hrounds := Shortest.roundsTo_of_onGrid? hsearch
      have hdenominator : d.denominator = 1 := by
        rw [Decimal.denominator, hexponent, Int.toNat_of_nonpos (by omega)]
      rw [hdenominator] at hrounds
      obtain ⟨k, hk⟩ : ∃ k, d.exponent.toNat = k + 1 := ⟨d.exponent.toNat - 1, by omega⟩
      refine h.eq_of_roundsTo hrounds (Nat.dvd_mul_left_of_dvd ?_ d.digits)
      rw [hk]
      exact Nat.dvd_mul_left 10 _
    · rw [h.onGrid?_zero] at hsearch
      cases hsearch
      exact Nat.mul_one n

end Holds

end Binary64

end MessageTemplate
