import MessageTemplate.Text.Numeral

/-!
# Long numerals

Reading and writing a great many digits in little time. To read them, neighbouring digits are joined
to digits in the square of the base, again and again until there is one. To write them, they are
taken from the number in groups.

* `LongNumeral.joinPairs`: joining neighbours. `LongNumeral.ofLow_joinPairs`: the number stays the
  same.
* **`LongNumeral.value_eq`**: the number is the one that the digits denote.
* `LongNumeral.lowDigits`: a group. `LongNumeral.lowDigits_mod`: it does not depend on the digits
  above it.
* **`LongNumeral.decimal_eq`**: the digits are those of the number.
-/

namespace MessageTemplate.LongNumeral

/-- The number that digits in base `b` denote, the lowest first. -/
def ofLow (b : Nat) (ds : List Nat) : Nat := ds.foldr (fun d n => d + b * n) 0

/-- Join neighbours: digits in base `b`, the lowest first, become digits in base `b * b`. -/
def joinPairs (b : Nat) : List Nat → List Nat
  | low :: high :: ds => (low + b * high) :: joinPairs b ds
  | ds => ds

/-- Join neighbours up to `k` times, and then read the digits that there are. -/
def joinAll : Nat → Nat → List Nat → Nat
  | k + 1, b, low :: high :: ds => joinAll k (b * b) (joinPairs b (low :: high :: ds))
  | _, b, ds => ofLow b ds

/-- The number that a sequence of decimal digits denotes. -/
def value (ds : Text) : Nat :=
  joinAll (ds.length.log2 + 1) 10 (ds.reverse.map fun c => c.toNat - '0'.toNat)

/-- The lowest `k` digits of a number, in front of other digits. -/
def lowDigits : Nat → Nat → Text → Text
  | 0, _, ds => ds
  | k + 1, n, ds => lowDigits k (n / 10) ((n % 10).digitChar :: ds)

/-- The number of digits that are written at once. -/
def groupLength : Nat := 18

/-- The size of a group, `10 ^ groupLength`. -/
def groupSize : Nat := 1000000000000000000

/-- The digits of a number, in front of other digits. -/
def decimalOnto (n : Nat) (ds : Text) : Text :=
  if n < groupSize then Numeral.decimal n ++ ds
  else decimalOnto (n / groupSize) (lowDigits groupLength (n % groupSize) ds)
termination_by n
decreasing_by unfold groupSize at *; omega

/-- The digits of a number, without leading zeros. -/
def decimal (n : Nat) : Text := decimalOnto n []

theorem ofLow_joinPairs (b : Nat) (ds : List Nat) : ofLow (b * b) (joinPairs b ds) = ofLow b ds := by
  fun_induction joinPairs b ds with
  | case1 low high ds ih =>
    change low + b * high + b * b * ofLow (b * b) (joinPairs b ds) = low + b * (high + b * ofLow b ds)
    rw [ih, Nat.mul_add, Nat.mul_assoc, Nat.add_assoc]
  | case2 ds h =>
    match ds, h with
    | [], _ => rfl
    | [_], _ => rfl
    | low :: high :: ds, h => exact absurd rfl (h low high ds)

theorem joinAll_eq (k b : Nat) (ds : List Nat) : joinAll k b ds = ofLow b ds := by
  fun_induction joinAll k b ds with
  | case1 k b low high ds ih => rw [ih, ofLow_joinPairs]
  | case2 => rfl

/-- **Joining neighbours does not change the number.** -/
theorem value_eq (ds : Text) : value ds = Numeral.value ds := by
  rw [value, joinAll_eq, ofLow, List.map_reverse, List.foldr_reverse, List.foldl_map]
  simp only [Nat.add_comm _ (10 * _)]
  rfl

theorem lowDigits_mod (k n : Nat) (ds : Text) :
    lowDigits k (n % Nat.pow 10 k) ds = lowDigits k n ds := by
  induction k generalizing n ds with
  | zero => rfl
  | succ k ih =>
    have hp : Nat.pow 10 (k + 1) = 10 * Nat.pow 10 k := Nat.mul_comm ..
    rw [lowDigits, lowDigits, hp, Nat.mod_mul_right_div_self, Nat.mod_mul_right_mod, ih]

theorem decimal_append_lowDigits {k n : Nat} (h : Nat.pow 10 k ≤ n) (ds : Text) :
    Numeral.decimal (n / Nat.pow 10 k) ++ lowDigits k n ds = Numeral.decimal n ++ ds := by
  induction k generalizing n ds with
  | zero => rw [show n / Nat.pow 10 0 = n from Nat.div_one n, lowDigits]
  | succ k ih =>
    have hp : Nat.pow 10 (k + 1) = 10 * Nat.pow 10 k := Nat.mul_comm ..
    have hpos : 0 < Nat.pow 10 k := Nat.pow_pos (by decide)
    rw [hp] at h
    have h' : Nat.pow 10 k ≤ n / 10 := by omega
    rw [hp, ← Nat.div_div_eq_div_mul, lowDigits, ih h', Numeral.decimal, Numeral.decimal,
      Nat.toDigits_of_base_le (by decide) (show 10 ≤ n by omega), List.append_assoc]
    rfl

theorem decimalOnto_eq (n : Nat) (ds : Text) : decimalOnto n ds = Numeral.decimal n ++ ds := by
  fun_induction decimalOnto n ds with
  | case1 => rfl
  | case2 n ds h ih =>
    rw [ih, show groupSize = Nat.pow 10 groupLength by decide, lowDigits_mod]
    exact decimal_append_lowDigits (by rw [← show groupSize = Nat.pow 10 groupLength by decide]; omega) ds

/-- **Writing in groups does not change the digits.** -/
theorem decimal_eq (n : Nat) : decimal n = Numeral.decimal n := by
  rw [decimal, decimalOnto_eq, List.append_nil]

end MessageTemplate.LongNumeral
