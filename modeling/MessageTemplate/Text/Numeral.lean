import MessageTemplate.Text.Basic

/-!
# Numerals

Whole numbers in ASCII digits.

* `Numeral.decimal`, `Numeral.hexadecimal`: writing a number.
* `Numeral.value`: the number that digits denote. `Numeral.valueUntil`: the same up to a limit,
  beyond which digits count for nothing, so that it takes little time even on a great many digits.
* `Numeral.read?`, `Numeral.readUntil?`: reading a text that consists of one or more decimal digits;
  any number of leading zeros is allowed. `Numeral.readUpTo?` refuses a number beyond a limit.
* `Numeral.padLeft`: filling up with zeros from the left. `Numeral.padLeft_add`: the last digits and
  those in front of them can be filled up apart.
* `Numeral.head?_decimal_ne_zero`: there are no leading zeros in what is written.
  `Numeral.dropWhile_padLeft`: those that fill up can be told from it.
* `Numeral.value_padLeft`, `Numeral.value_append_zeros`: what zeros in front and at the end do.
  `Numeral.padLeft_decimal_mul`: the digits of a multiple of a power of ten.
* `Numeral.valueUntil_eq_value`, `Numeral.le_valueUntil`: how far the two values agree.
* `Numeral.readUpTo?_eq`: a number is refused exactly if it is beyond the limit.
-/

namespace MessageTemplate.Numeral

/-- The decimal digits of a number, without leading zeros. -/
def decimal (n : Nat) : Text := Nat.toDigits 10 n

/-- The hexadecimal digits of a number, without leading zeros. -/
def hexadecimal (upper : Bool) (n : Nat) : Text :=
  if upper then (Nat.toDigits 16 n).map Char.toUpper else Nat.toDigits 16 n

/-- The number that a sequence of decimal digits denotes; the empty one denotes zero. -/
def value (ds : Text) : Nat := Nat.ofDigitChars 10 ds 0

/-- The number that a sequence of decimal digits denotes, as far as they count: once there is a
number of at least `limit`, the digits after it are left out. -/
def valueUntil (limit : Nat) (ds : Text) : Nat :=
  ds.foldl (fun n c => if n < limit then 10 * n + (c.toNat - '0'.toNat) else n) 0

/-- A text of decimal digits, of which there is at least one. -/
def isNumeral (ds : Text) : Bool := !ds.isEmpty && ds.all Char.isDigit

/-- Read one or more decimal digits. -/
def read? (ds : Text) : Option Nat := if isNumeral ds then some (value ds) else none

/-- Read one or more decimal digits, as far as they count. -/
def readUntil? (limit : Nat) (ds : Text) : Option Nat :=
  if isNumeral ds then some (valueUntil limit ds) else none

/-- Read one or more decimal digits that denote at most `limit`. -/
def readUpTo? (limit : Nat) (ds : Text) : Option Nat :=
  (readUntil? (limit + 1) ds).filter (· ≤ limit)

/-- Fill up with zeros from the left to at least `n` characters. -/
def padLeft (n : Nat) (ds : Text) : Text := List.replicate (n - ds.length) '0' ++ ds

theorem isDigit_of_mem_decimal {c : Char} {n : Nat} (h : c ∈ decimal n) : c.isDigit = true :=
  Nat.isDigit_of_mem_toDigits (by decide) (by decide) h

theorem decimal_ne_nil (n : Nat) : decimal n ≠ [] := Nat.toDigits_ne_nil

theorem value_decimal (n : Nat) : value (decimal n) = n := Nat.ofDigitChars_ten_toDigits

theorem read?_eq_some_iff {ds : Text} {n : Nat} :
    read? ds = some n ↔ ds ≠ [] ∧ (∀ c ∈ ds, c.isDigit = true) ∧ value ds = n := by
  simp [read?, isNumeral, and_assoc]

theorem le_ofDigitChars (ds : Text) (n : Nat) : n ≤ Nat.ofDigitChars 10 ds n := by
  induction ds generalizing n with
  | nil => simp
  | cons c ds ih =>
    rw [Nat.ofDigitChars_cons]
    exact Nat.le_trans (by omega) (ih _)

theorem foldl_until_of_le {limit n : Nat} (ds : Text) (h : limit ≤ n) :
    ds.foldl (fun n c => if n < limit then 10 * n + (c.toNat - '0'.toNat) else n) n = n := by
  induction ds with
  | nil => rfl
  | cons c ds ih => rw [List.foldl_cons, if_neg (by omega), ih]

/-- **Digits count as long as the number is less than ten times the limit.** -/
theorem valueUntil_eq_value {limit : Nat} {ds : Text} (h : value ds < 10 * limit) :
    valueUntil limit ds = value ds := by
  suffices ∀ n, Nat.ofDigitChars 10 ds n < 10 * limit →
      ds.foldl (fun n c => if n < limit then 10 * n + (c.toNat - '0'.toNat) else n) n =
        Nat.ofDigitChars 10 ds n from this 0 h
  clear h
  induction ds with
  | nil => simp
  | cons c ds ih =>
    intro n h
    rw [Nat.ofDigitChars_cons] at h ⊢
    have hn := le_ofDigitChars ds (10 * n + (c.toNat - '0'.toNat))
    rw [List.foldl_cons, if_pos (by omega), ih _ h]

theorem le_valueUntil {limit : Nat} {ds : Text} (h : limit ≤ value ds) :
    limit ≤ valueUntil limit ds := by
  suffices ∀ n, limit ≤ Nat.ofDigitChars 10 ds n →
      limit ≤ ds.foldl (fun n c => if n < limit then 10 * n + (c.toNat - '0'.toNat) else n) n from
    this 0 h
  clear h
  induction ds with
  | nil => simp
  | cons c ds ih =>
    intro n h
    rw [Nat.ofDigitChars_cons] at h
    rw [List.foldl_cons]
    split
    · exact ih _ h
    · rw [foldl_until_of_le ds (by omega)]
      omega

/-- **A number is refused exactly if it is beyond the limit.** -/
theorem readUpTo?_eq (limit : Nat) (ds : Text) :
    readUpTo? limit ds = (read? ds).filter (· ≤ limit) := by
  unfold readUpTo? readUntil? read?
  split
  · by_cases h : value ds ≤ limit
    · rw [valueUntil_eq_value (by omega)]
    · have : limit + 1 ≤ valueUntil (limit + 1) ds := le_valueUntil (by omega)
      rw [Option.filter_some, Option.filter_some, if_neg (by simp; omega),
        if_neg (by simpa using h)]
  · rfl

theorem length_padLeft (n : Nat) (ds : Text) : (padLeft n ds).length = max n ds.length := by
  simp [padLeft]; omega

theorem isDigit_of_mem_padLeft {c : Char} {n : Nat} {ds : Text}
    (h : ∀ c ∈ ds, c.isDigit = true) (hc : c ∈ padLeft n ds) : c.isDigit = true := by
  rcases List.mem_append.1 hc with hc | hc
  · rw [List.eq_of_mem_replicate hc]
    rfl
  · exact h c hc

theorem padLeft_zero (ds : Text) : padLeft 0 ds = ds := by
  simp [padLeft]

theorem padLeft_padLeft (m n : Nat) (ds : Text) :
    padLeft m (padLeft n ds) = padLeft (max m n) ds := by
  unfold padLeft
  rw [← List.append_assoc, List.replicate_append_replicate, List.length_append,
    List.length_replicate]
  congr 2
  omega

theorem padLeft_add (m n : Nat) (ds : Text) :
    padLeft (m + n) ds =
      padLeft n (ds.take (ds.length - m)) ++ padLeft m (ds.drop (ds.length - m)) := by
  unfold padLeft
  rw [List.length_take, List.length_drop]
  by_cases h : m ≤ ds.length
  · have h₁ : m - (ds.length - (ds.length - m)) = 0 := by omega
    have h₂ : n - min (ds.length - m) ds.length = m + n - ds.length := by omega
    rw [h₁, h₂, List.replicate_zero, List.nil_append, List.append_assoc, List.take_append_drop]
  · have h₁ : ds.length - m = 0 := by omega
    have h₂ : m + n - ds.length = n + (m - ds.length) := by omega
    simp only [h₁, h₂, List.take_zero, List.drop_zero, List.append_nil, Nat.zero_min, Nat.sub_zero]
    rw [← List.append_assoc, List.replicate_append_replicate]

theorem value_eq_zero {ds : Text} (h : ∀ c ∈ ds, c = '0') : value ds = 0 := by
  unfold value
  induction ds with
  | nil => rfl
  | cons c ds ih =>
    obtain ⟨rfl, hds⟩ := List.forall_mem_cons.1 h
    rw [Nat.ofDigitChars_cons]
    exact ih hds

theorem value_padLeft (n : Nat) (ds : Text) : value (padLeft n ds) = value ds := by
  unfold value padLeft
  rw [Nat.ofDigitChars_append, Nat.ofDigitChars_replicate_zero, Nat.mul_zero]

theorem value_append_zeros (ds : Text) (n : Nat) :
    value (ds ++ List.replicate n '0') = value ds * Nat.pow 10 n := by
  unfold value
  rw [Nat.ofDigitChars_append, Nat.ofDigitChars_replicate_zero, Nat.mul_comm, Nat.pow_eq]

theorem value_eq_zero_iff {ds : Text} (h : ∀ c ∈ ds, c.isDigit = true) :
    value ds = 0 ↔ ∀ c ∈ ds, c = '0' := by
  refine ⟨?_, value_eq_zero⟩
  unfold value
  induction ds with
  | nil => simp
  | cons c ds ih =>
    obtain ⟨hc, hds⟩ := List.forall_mem_cons.1 h
    rw [Nat.ofDigitChars_cons]
    intro h0
    have hle := le_ofDigitChars ds (10 * 0 + (c.toNat - '0'.toNat))
    have hzero : c.toNat = '0'.toNat := by
      have := Char.isDigit_iff_toNat.1 hc
      simp only [Char.reduceToNat] at *
      omega
    obtain rfl : c = '0' := Char.toNat_inj.1 hzero
    exact List.forall_mem_cons.2 ⟨rfl, ih hds h0⟩

theorem eq_zero_iff_decimal {n : Nat} : n = 0 ↔ ∀ c ∈ decimal n, c = '0' := by
  rw [← value_eq_zero_iff fun _ => isDigit_of_mem_decimal, value_decimal]

theorem head?_decimal_ne_zero {n : Nat} (h : 0 < n) : (decimal n).head? ≠ some '0' := by
  induction n using Nat.strongRecOn with
  | ind n ih =>
    by_cases hn : n < 10
    · have hsmall : ∀ n < 10, 0 < n → (Nat.toDigits 10 n).head? ≠ some '0' := by decide
      exact hsmall n hn h
    · obtain ⟨c, ds, hcons⟩ := List.exists_cons_of_ne_nil (decimal_ne_nil (n / 10))
      have hdigits : decimal n = decimal (n / 10) ++ [(n % 10).digitChar] :=
        Nat.toDigits_of_base_le (by decide) (by omega)
      have hhead := ih (n / 10) (by omega) (by omega)
      rw [hdigits, hcons]
      rwa [hcons] at hhead

theorem dropWhile_padLeft (n : Nat) {ds : Text} (h : ds.head? ≠ some '0') :
    (padLeft n ds).dropWhile (· == '0') = ds := by
  rw [padLeft, List.dropWhile_append_of_pos (by simp), List.dropWhile_beq_eq_self_of_head?_ne h]

theorem padLeft_max_one {ds : Text} (h : ds ≠ []) (n : Nat) : padLeft (max 1 n) ds = padLeft n ds := by
  have hlength := List.length_pos_iff.2 h
  unfold padLeft
  congr 2
  omega

theorem decimal_mul_pow {n : Nat} (h : 0 < n) (k : Nat) :
    decimal (n * Nat.pow 10 k) = decimal n ++ List.replicate k '0' := by
  induction k with
  | zero => simp
  | succ k ih =>
    have hpos : 0 < n * Nat.pow 10 k := Nat.mul_pos h (Nat.pow_pos (by decide))
    have hten : n * Nat.pow 10 (k + 1) = n * Nat.pow 10 k * 10 := (Nat.mul_assoc ..).symm
    rw [hten, List.replicate_succ', ← List.append_assoc, ← ih, decimal,
      Nat.toDigits_of_base_le (by decide) (by omega), Nat.mul_div_cancel _ (by decide),
      Nat.mul_mod_left]
    rfl

/-- Filled up, a power of ten appends zeros even to zero. -/
theorem padLeft_decimal_mul {m : Nat} (h : 0 < m) (n k : Nat) :
    padLeft (k + m) (decimal (n * Nat.pow 10 k)) = padLeft m (decimal n) ++ List.replicate k '0' := by
  rcases Nat.eq_zero_or_pos n with rfl | hn
  · have hzeros {m : Nat} (h : 0 < m) : padLeft m (decimal 0) = List.replicate m '0' := by
      rw [padLeft, show decimal 0 = List.replicate 1 '0' from rfl, List.replicate_append_replicate,
        List.length_replicate, Nat.sub_add_cancel h]
    rw [Nat.zero_mul, hzeros (by omega), hzeros h, List.replicate_append_replicate, Nat.add_comm]
  · rw [decimal_mul_pow hn, padLeft, padLeft, List.append_assoc, List.length_append,
      List.length_replicate, Nat.add_comm k m, Nat.add_sub_add_right]

end MessageTemplate.Numeral
