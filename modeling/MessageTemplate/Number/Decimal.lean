import MessageTemplate.Text.LongNumeral

/-!
# Decimals

A decimal is a whole number of units, each a power of ten. It is written positionally, never with
an exponent.

* `Decimal.value`: the rational that a decimal denotes. `Decimal.value_eq`: it is
  `numerator / denominator`, with which programs compute.
* `Decimal.fixed`: writing a whole number of units `10 ^ -places` with exactly that many places.
  `Decimal.wholeDigits`, `Decimal.placeDigits`: its digits before and after the separator,
  `Decimal.length_padLeft_wholeDigits`: how many there are, and `Decimal.fixed_eq`: where they stand.
  `Decimal.fixed_mul_pow`: whole numbers.
* `Decimal.positional`: writing a decimal with as many places as its unit asks for.
  `Decimal.IsWritten`, `Decimal.exists_isWritten`: the digits before and after the separator.
-/

namespace MessageTemplate

/-- The number `digits * 10 ^ exponent`. -/
structure Decimal where
  digits : Nat
  exponent : Int
  deriving Repr, DecidableEq

namespace Decimal

/-- The rational that a decimal denotes. -/
def value (d : Decimal) : Rat := d.digits * (10 : Rat) ^ d.exponent

/-- The decimal as a fraction: what stands above. -/
def numerator (d : Decimal) : Nat := d.digits * Nat.pow 10 d.exponent.toNat

/-- The decimal as a fraction: what stands below. -/
def denominator (d : Decimal) : Nat := Nat.pow 10 (-d.exponent).toNat

theorem value_eq (d : Decimal) : d.value = (d.numerator : Rat) / (d.denominator : Rat) := by
  unfold value numerator denominator
  generalize d.exponent = e
  obtain ⟨n, rfl | rfl⟩ := Int.eq_nat_or_neg e
  · have h : (1 : Rat)⁻¹ = 1 := by rw [← Rat.one_mul 1⁻¹, Rat.mul_inv_cancel 1 (by decide)]
    simp only [Rat.zpow_natCast, Int.toNat_natCast, Nat.pow_eq, Rat.natCast_mul, Rat.natCast_pow,
      Rat.natCast_ofNat, Int.toNat_neg_natCast, Nat.pow_zero, Rat.div_def, h, Rat.mul_one]
  · simp only [Rat.zpow_neg, Rat.zpow_natCast, Int.toNat_neg_natCast, Nat.pow_eq, Nat.pow_zero,
      Nat.mul_one, Int.neg_neg, Int.toNat_natCast, Rat.natCast_pow, Rat.natCast_ofNat, Rat.div_def]

theorem numerator_places (n places : Nat) : (⟨n, -places⟩ : Decimal).numerator = n := by
  have hexponent : (-(places : Int)).toNat = 0 := by omega
  rw [numerator, hexponent]
  exact Nat.mul_one n

theorem denominator_places (n places : Nat) :
    (⟨n, -places⟩ : Decimal).denominator = Nat.pow 10 places := by
  rw [denominator, Int.neg_neg, Int.toNat_natCast]

theorem numerator_whole (n : Nat) : (⟨n, 0⟩ : Decimal).numerator = n := numerator_places n 0

theorem denominator_whole (n : Nat) : (⟨n, 0⟩ : Decimal).denominator = 1 := denominator_places n 0

/-- Write `n` units of `10 ^ -places`: at least `minWhole` digits and at least one, and if there are
places, the separator and the places. -/
def fixed (separator : Char) (minWhole places n : Nat) : Text :=
  let ds := Numeral.padLeft (places + max 1 minWhole) (LongNumeral.decimal n)
  let whole := ds.take (ds.length - places)
  if places = 0 then whole else whole ++ separator :: ds.drop (ds.length - places)

/-- The digits of a number of units that stand before the separator. -/
def wholeDigits (places n : Nat) : Text :=
  (LongNumeral.decimal n).take ((LongNumeral.decimal n).length - places)

/-- The digits of a number of units that stand after the separator. -/
def placeDigits (places n : Nat) : Text :=
  (LongNumeral.decimal n).drop ((LongNumeral.decimal n).length - places)

theorem wholeDigits_append_placeDigits (places n : Nat) :
    wholeDigits places n ++ placeDigits places n = Numeral.decimal n := by
  rw [wholeDigits, placeDigits, List.take_append_drop, LongNumeral.decimal_eq]

theorem placeDigits_zero (n : Nat) : placeDigits 0 n = [] := List.drop_length

theorem length_placeDigits_le (places n : Nat) : (placeDigits places n).length ≤ places := by
  rw [placeDigits, List.length_drop]
  omega

theorem length_padLeft_placeDigits (places n : Nat) :
    (Numeral.padLeft places (placeDigits places n)).length = places := by
  rw [Numeral.length_padLeft]
  exact Nat.max_eq_left (length_placeDigits_le places n)

theorem isDigit_of_mem_wholeDigits {c : Char} {places n : Nat} (h : c ∈ wholeDigits places n) :
    c.isDigit = true := by
  apply Numeral.isDigit_of_mem_decimal (n := n)
  rw [← wholeDigits_append_placeDigits places]
  exact List.mem_append_left _ h

theorem padLeft_wholeDigits_append (minWhole places n : Nat) :
    Numeral.padLeft minWhole (wholeDigits places n) ++ Numeral.padLeft places (placeDigits places n) =
      Numeral.padLeft (places + minWhole) (LongNumeral.decimal n) :=
  (Numeral.padLeft_add places minWhole (LongNumeral.decimal n)).symm

theorem wholeDigits_cases (places n : Nat) :
    wholeDigits places n = ['0'] ∨ (wholeDigits places n).head? ≠ some '0' := by
  rw [wholeDigits, LongNumeral.decimal_eq]
  cases (Numeral.decimal n).length - places with
  | zero => exact .inr nofun
  | succ k =>
    rcases Nat.eq_zero_or_pos n with rfl | hn
    · exact .inl (by simp [Numeral.decimal])
    · rw [List.head?_take, if_neg (by omega)]
      exact .inr (Numeral.head?_decimal_ne_zero hn)

/-- There are as many digits before the separator as are asked for, needed to denote the number, or
one. -/
theorem length_padLeft_wholeDigits (minWhole places n : Nat) :
    (Numeral.padLeft (max 1 minWhole) (wholeDigits places n)).length = max minWhole
      (max 1 ((Numeral.padLeft (max 1 minWhole) (wholeDigits places n)).dropWhile (· == '0')).length) := by
  rw [Numeral.length_padLeft]
  rcases wholeDigits_cases places n with h | h
  · have hzeros : (Numeral.padLeft (max 1 minWhole) ['0']).dropWhile (· == '0') = [] := by
      simp [Numeral.padLeft]
    rw [h, hzeros, List.length_singleton, List.length_nil]
    omega
  · rw [Numeral.dropWhile_padLeft _ h]
    omega

theorem fixed_eq (separator : Char) (minWhole places n : Nat) :
    fixed separator minWhole places n =
      Numeral.padLeft (max 1 minWhole) (wholeDigits places n) ++
        if places = 0 then [] else separator :: Numeral.padLeft places (placeDigits places n) := by
  have hds := (padLeft_wholeDigits_append (max 1 minWhole) places n).symm
  have hsub : (Numeral.padLeft (places + max 1 minWhole) (LongNumeral.decimal n)).length - places =
      (Numeral.padLeft (max 1 minWhole) (wholeDigits places n)).length := by
    rw [hds, List.length_append, length_padLeft_placeDigits, Nat.add_sub_cancel]
  unfold fixed
  simp only [hsub]
  rw [hds, List.take_left, List.drop_left]
  split <;> simp

theorem fixed_mul_pow (separator : Char) (minWhole places n : Nat) :
    fixed separator minWhole places (n * Nat.pow 10 places) =
      Numeral.padLeft minWhole (Numeral.decimal n) ++
        if places = 0 then [] else separator :: List.replicate places '0' := by
  have hdigits := padLeft_wholeDigits_append (max 1 minWhole) places (n * Nat.pow 10 places)
  rw [LongNumeral.decimal_eq, Numeral.padLeft_decimal_mul (by omega)] at hdigits
  obtain ⟨hwhole, hplaces⟩ := List.append_inj' hdigits
    ((length_padLeft_placeDigits places _).trans List.length_replicate.symm)
  rw [fixed_eq, hwhole, hplaces, Numeral.padLeft_max_one (Numeral.decimal_ne_nil n)]

/-- Write a decimal without an exponent. -/
def positional (separator : Char) (d : Decimal) : Text :=
  if 0 ≤ d.exponent then LongNumeral.decimal (d.digits * Nat.pow 10 d.exponent.toNat)
  else fixed separator 1 (-d.exponent).toNat d.digits

/-- The digits before the separator of a decimal that is written, and those after it if there is a
separator. -/
structure IsWritten (d : Decimal) (whole : Text) (places : Option Text) : Prop where
  positional_eq : ∀ separator, d.positional separator = whole ++ places.elim [] (separator :: ·)
  whole_ne_nil : whole ≠ []
  isDigit : ∀ c ∈ whole ++ places.getD [], c.isDigit = true
  value_eq_numerator : Numeral.value (whole ++ places.getD []) = d.numerator
  length_places : (places.getD []).length = (-d.exponent).toNat
  places_eq_none_iff : places = none ↔ 0 ≤ d.exponent

theorem isWritten_whole {d : Decimal} (h : 0 ≤ d.exponent) :
    d.IsWritten (Numeral.decimal d.numerator) none where
  positional_eq separator := by
    rw [positional, if_pos h, LongNumeral.decimal_eq, Option.elim_none, List.append_nil, numerator]
  whole_ne_nil := Numeral.decimal_ne_nil _
  isDigit c hc := by
    rw [Option.getD_none, List.append_nil] at hc
    exact Numeral.isDigit_of_mem_decimal hc
  value_eq_numerator := by rw [Option.getD_none, List.append_nil, Numeral.value_decimal]
  length_places := by
    rw [Option.getD_none, List.length_nil]
    omega
  places_eq_none_iff := iff_of_true rfl h

theorem isWritten_places {d : Decimal} {k : Nat} (h : d.exponent < 0) (hk : (-d.exponent).toNat = k) :
    d.IsWritten (Numeral.padLeft 1 (wholeDigits k d.digits))
      (some (Numeral.padLeft k (placeDigits k d.digits))) where
  positional_eq separator := by
    rw [positional, if_neg (by omega), fixed_eq, hk, if_neg (by omega)]
    rfl
  whole_ne_nil := by
    rw [← List.length_pos_iff, Numeral.length_padLeft]
    omega
  isDigit c hc := by
    rw [Option.getD_some, padLeft_wholeDigits_append, LongNumeral.decimal_eq] at hc
    exact Numeral.isDigit_of_mem_padLeft (fun _ => Numeral.isDigit_of_mem_decimal) hc
  value_eq_numerator := by
    have hexponent : d.exponent.toNat = 0 := by omega
    rw [Option.getD_some, padLeft_wholeDigits_append, LongNumeral.decimal_eq, Numeral.value_padLeft,
      Numeral.value_decimal, numerator, hexponent]
    exact (Nat.mul_one _).symm
  length_places := by rw [Option.getD_some, length_padLeft_placeDigits, hk]
  places_eq_none_iff := iff_of_false nofun (by omega)

theorem exists_isWritten (d : Decimal) : ∃ whole places, d.IsWritten whole places := by
  by_cases h : 0 ≤ d.exponent
  · exact ⟨_, _, isWritten_whole h⟩
  · exact ⟨_, _, isWritten_places (by omega) rfl⟩

end Decimal

end MessageTemplate
