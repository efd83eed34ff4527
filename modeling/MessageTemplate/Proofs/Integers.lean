import Mathlib.Algebra.Order.Ring.Int
import Mathlib.Data.Nat.Log
import MessageTemplate.Number.Notation
import MessageTemplate.Proofs.Formats
import MessageTemplate.Scalar.Rendering
import MessageTemplate.Settings

/-!
# Whole numbers in every format

A whole number is written in digits of its own that zeros fill up. In a hexadecimal format these are
the digits of the 64 bits of its two's complement, in any other one the decimal digits of its
magnitude, after a sign and before a separator and zeros.

* `IsNumeral`: digits that denote a number, as many as are asked for or needed.
  `isNumeral_padLeft`: digits that are filled up are such.
* `Scalar.Counts`: the whole numbers of either kind.
* **`Scalar.render_hexadecimal`**: the hexadecimal digits, and that they tell numbers apart.
* `NumberFormat.Asks`: how many digits and places a format asks for.
* **`Scalar.render_decimal`**: the decimal digits, and that they read back.
-/

namespace MessageTemplate

open NumberFormat (minus)

/-! ## Digits that are filled up -/

/-- The digits denote `n` in a base. There are `count` of them, or as many as `n` needs, which are one
more than its logarithm. -/
structure IsNumeral (base : ℕ) (isDigit : Char → Prop) (count n : ℕ) (ds : Text) : Prop where
  isDigit : ∀ c ∈ ds, isDigit c
  value : Settings.valueIn base ds = n
  length : ds.length = max count (Nat.log base n + 1)

section Digits

variable {base : ℕ} (hbase : 1 < base)
include hbase

theorem length_toDigits (n : ℕ) : (Nat.toDigits base n).length = Nat.log base n + 1 := by
  rcases Nat.eq_zero_or_pos n with rfl | hn
  · rw [Nat.toDigits_of_lt_base (by omega), Nat.log_zero_right, List.length_singleton]
  · have hle (k : ℕ) (hk : 0 < k) : (Nat.toDigits base n).length ≤ k ↔ Nat.log base n < k := by
      rw [Nat.length_toDigits_le_iff hbase hk, Nat.log_lt_iff_lt_pow hbase hn.ne']
    have hupper := (hle (Nat.log base n + 1) (by omega)).2 (by omega)
    have hlower := (hle _ Nat.length_toDigits_pos).1 le_rfl
    omega

theorem valueIn_map_toDigits {shape : Char → Char}
    (hshape : ∀ d < base, Settings.digitValue (shape d.digitChar) = d) (n : ℕ) :
    Settings.valueIn base ((Nat.toDigits base n).map shape) = n := by
  induction n using Nat.strongRecOn with
  | ind n ih =>
    by_cases hn : n < base
    · rw [Nat.toDigits_of_lt_base hn]
      simp [Settings.valueIn, hshape n hn]
    · have hlt : n / base < n := Nat.div_lt_self (by omega) hbase
      have hdigits := ih (n / base) hlt
      unfold Settings.valueIn at hdigits ⊢
      rw [Nat.toDigits_of_base_le hbase (by omega), List.map_append, List.foldl_append, hdigits,
        List.map_singleton, List.foldl_cons, List.foldl_nil, hshape _ (Nat.mod_lt _ (by omega))]
      exact Nat.div_add_mod n base

theorem mem_toDigits {n : ℕ} {c : Char} (hc : c ∈ Nat.toDigits base n) : ∃ d < base, c = d.digitChar := by
  induction n using Nat.strongRecOn with
  | ind n ih =>
    by_cases hn : n < base
    · rw [Nat.toDigits_of_lt_base hn, List.mem_singleton] at hc
      exact ⟨n, hn, hc⟩
    · rw [Nat.toDigits_of_base_le hbase (by omega), List.mem_append, List.mem_singleton] at hc
      rcases hc with hc | hc
      · exact ih (n / base) (Nat.div_lt_self (by omega) hbase) hc
      · exact ⟨n % base, Nat.mod_lt _ (by omega), hc⟩

end Digits

theorem valueIn_padLeft (base count : ℕ) (ds : Text) :
    Settings.valueIn base (Numeral.padLeft count ds) = Settings.valueIn base ds := by
  have hzeros (k : ℕ) : (List.replicate k '0').foldl
      (fun n c => base * n + Settings.digitValue c) 0 = 0 := by
    induction k with
    | zero => rfl
    | succ k ih => rwa [List.replicate_succ, List.foldl_cons, Nat.mul_zero]
  rw [Settings.valueIn, Numeral.padLeft, List.foldl_append, hzeros, Settings.valueIn]

/-- **Digits that are filled up with zeros denote the number.** -/
theorem isNumeral_padLeft {base : ℕ} (hbase : 1 < base) {isDigit : Char → Prop}
    {shape : Char → Char} (hvalue : ∀ d < base, Settings.digitValue (shape d.digitChar) = d)
    (hdigit : ∀ d < base, isDigit (shape d.digitChar)) (hzero : isDigit '0') (count n : ℕ) :
    IsNumeral base isDigit count n (Numeral.padLeft count ((Nat.toDigits base n).map shape)) where
  isDigit c hc := by
    rcases List.mem_append.1 hc with hc | hc
    · rw [List.eq_of_mem_replicate hc]
      exact hzero
    · obtain ⟨a, ha, rfl⟩ := List.mem_map.1 hc
      obtain ⟨d, hd, rfl⟩ := mem_toDigits hbase ha
      exact hdigit d hd
  value := by rw [valueIn_padLeft, valueIn_map_toDigits hbase hvalue]
  length := by rw [Numeral.length_padLeft, List.length_map, length_toDigits hbase]

/-- The hexadecimal digits, the letters in one case. -/
def IsHexDigit (upper : Bool) (c : Char) : Prop :=
  c.isDigit = true ∨ if upper then 'A' ≤ c ∧ c ≤ 'F' else 'a' ≤ c ∧ c ≤ 'f'

instance (upper : Bool) (c : Char) : Decidable (IsHexDigit upper c) := by
  unfold IsHexDigit
  infer_instance

theorem isNumeral_hexadecimal (upper : Bool) (count n : ℕ) :
    IsNumeral 16 (IsHexDigit upper) count n
      (Numeral.padLeft count (Numeral.hexadecimal upper n)) := by
  cases upper with
  | false =>
    have h := @isNumeral_padLeft 16 (by decide) (IsHexDigit false) id (by decide) (by decide)
      (by decide) count n
    rwa [List.map_id] at h
  | true =>
    exact @isNumeral_padLeft 16 (by decide) (IsHexDigit true) Char.toUpper (by decide) (by decide)
      (by decide) count n

theorem isNumeral_decimal (count n : ℕ) :
    IsNumeral 10 (fun c => c.isDigit = true) count n (Numeral.padLeft count (Numeral.decimal n)) := by
  have h := @isNumeral_padLeft 10 (by decide) (fun c => c.isDigit = true) id (by decide) (by decide)
    (by decide) count n
  rwa [List.map_id] at h

/-! ## Reading a sign and digits -/

namespace Written

theorem sign_minus_append (negative : Bool) {t : Text} (h : ∀ c ∈ t.head?, c.isDigit = true) :
    sign (minus negative ++ t) = (negative, t) := by
  cases negative with
  | false => exact sign_of_isDigit h
  | true => rfl

theorem isDigit_of_mem_head? {ds : Text} (h : ∀ c ∈ ds, c.isDigit = true) :
    ∀ c ∈ ds.head?, c.isDigit = true := fun c hc => h c (List.mem_of_mem_head? hc)

theorem whole?_minus_append {limit : ℕ} (negative : Bool) {ds : Text} (hne : ds ≠ [])
    (hdigits : ∀ c ∈ ds, c.isDigit = true) (hcount : Numeral.value ds < 10 * limit) :
    whole? limit (minus negative ++ ds) = some (signed negative (Numeral.value ds)) := by
  have hnumeral : Numeral.isNumeral ds = true := by simpa [Numeral.isNumeral, hne] using hdigits
  rw [whole?, sign_minus_append negative (isDigit_of_mem_head? hdigits)]
  dsimp only
  rw [Numeral.readUntil?, if_pos hnumeral, Numeral.valueUntil_eq_value hcount, Option.map_some]

end Written

/-! ## Formats -/

namespace NumberFormat

/-- How many digits a format asks for before the separator, and how many places after it. Without a
format, or with one that is not recognised, there are none. -/
inductive Asks : Option Text → ℕ → ℕ → Prop where
  | nothing {fmt : Option Text} (unknown : ∀ f ∈ fmt, ∀ n, ¬Spelled f n) : Asks fmt 0 0
  | shape {f : Text} {n : NumberFormat} {whole places : ℕ} (spelled : Spelled f n)
      (shape : n.shape? = some (whole, places)) : Asks (some f) whole places

theorem ofText_eq_general {fmt : Option Text} (unknown : ∀ f ∈ fmt, ∀ n, ¬Spelled f n) :
    ofText (fmt.getD []) = general := by
  cases fmt with
  | none => rfl
  | some f => exact ofText_eq_general_iff.2 (unknown f rfl)

/-- **Any format but a hexadecimal one** asks for digits and places, and is written so. -/
theorem exists_asks {fmt : Option Text}
    (decimal : ∀ f ∈ fmt, ∀ upper count, ¬Spelled f (.hexadecimal upper count)) :
    ∃ whole places, Asks fmt whole places ∧ ∀ separator v,
      integer separator v (ofText (fmt.getD [])) =
        minus (v < 0) ++ Numeral.padLeft whole (Numeral.decimal v.natAbs) ++
          zeroPlaces separator places := by
  by_cases unknown : ∀ f ∈ fmt, ∀ n, ¬Spelled f n
  · refine ⟨0, 0, .nothing unknown, fun separator v => ?_⟩
    rw [ofText_eq_general unknown, integer, Numeral.padLeft_zero, zeroPlaces, if_pos rfl,
      List.append_nil]
  · simp only [not_forall, not_not] at unknown
    obtain ⟨f, rfl, n, hspelled⟩ := unknown
    rw [Option.getD_some, ofText_of_spelled hspelled]
    cases n with
    | general => cases hspelled
    | hexadecimal upper count => exact absurd hspelled (decimal f rfl upper count)
    | digits whole =>
      refine ⟨whole, 0, .shape hspelled rfl, fun separator v => ?_⟩
      rw [integer, zeroPlaces, if_pos rfl, List.append_nil]
    | fixed whole places => exact ⟨whole, places, .shape hspelled rfl, fun _ _ => rfl⟩

end NumberFormat

/-- A sign, digits that denote the magnitude, as many as are asked for or needed, and zeros after the
separator. The sign and the digits read back. -/
def IsDecimal (separator : Char) (whole places : ℕ) (v : ℤ) (t : Text) : Prop :=
  ∃ ds, IsNumeral 10 (fun c => c.isDigit = true) whole v.natAbs ds ∧
    t = minus (v < 0) ++ ds ++
      (if places = 0 then [] else separator :: List.replicate places '0') ∧
    Written.whole? (2 ^ 64) (minus (v < 0) ++ ds) = some v

theorem isDecimal_integer {v : ℤ} (h : NumberFormat.InRange v) (separator : Char) (whole places : ℕ) :
    IsDecimal separator whole places v
      (minus (v < 0) ++ Numeral.padLeft whole (Numeral.decimal v.natAbs) ++
        NumberFormat.zeroPlaces separator places) := by
  have hnumeral := isNumeral_decimal whole v.natAbs
  have hvalue : Numeral.value (Numeral.padLeft whole (Numeral.decimal v.natAbs)) = v.natAbs := by
    rw [Numeral.value_padLeft, Numeral.value_decimal]
  have hne : Numeral.padLeft whole (Numeral.decimal v.natAbs) ≠ [] := by
    rw [← List.length_pos_iff, hnumeral.length]
    omega
  have hcount : v.natAbs < 10 * 2 ^ 64 := by
    obtain ⟨hlower, hupper⟩ := h
    omega
  refine ⟨_, hnumeral, rfl, ?_⟩
  rw [Written.whole?_minus_append _ hne hnumeral.isDigit (by rwa [hvalue]), hvalue,
    Written.signed_natAbs]

/-! ## Scalars -/

namespace Scalar

/-- The whole number that a scalar counts, with a sign or without. -/
inductive Counts : Bool → Scalar → ℤ → Prop where
  | int (v : Int64) : Counts true (int v) v.toInt
  | uint (v : UInt64) : Counts false (uint v) v.toNat

namespace Counts

variable {signed : Bool} {s s' : Scalar} {v v' : ℤ}

theorem inRange (h : s.Counts signed v) : NumberFormat.InRange v := by
  cases h with
  | int v => exact NumberFormat.inRange_toInt v
  | uint v => exact NumberFormat.inRange_toNat v

theorem scalar_eq (h : s.Counts signed v) (h' : s'.Counts signed v')
    (hbits : v' % 2 ^ 64 = v % 2 ^ 64) : s' = s := by
  cases h with
  | int w =>
    cases h' with
    | int w' =>
      have := w.le_toInt
      have := w.toInt_lt
      have := w'.le_toInt
      have := w'.toInt_lt
      rw [Int64.toInt_inj.1 (by omega : w'.toInt = w.toInt)]
  | uint w =>
    cases h' with
    | uint w' =>
      have := w.toNat_lt
      have := w'.toNat_lt
      rw [UInt64.toNat_inj.1 (by omega : w'.toNat = w.toNat)]

theorem display_eq (h : s.Counts signed v) :
    s.display = NumberFormat.integer '.' v .general := by
  cases h <;> rfl

theorem text?_render (h : s.Counts signed v) {fmt : Option Text} {culture : Option Culture}
    (plain : ∀ c ∈ culture, c.override s fmt = none) :
    (s.render fmt culture).text? = some
      (NumberFormat.integer (culture.elim '.' Culture.separator) v (.ofText (fmt.getD []))) := by
  rw [Scalar.text?_render, write_eq_format plain]
  cases h <;> rfl

theorem exists_hexadecimal (h : s.Counts signed v) {c : Char} (letter : c = 'x' ∨ c = 'X') {ds : Text}
    (isDigit : ∀ d ∈ ds, d.isDigit = true) {culture : Option Culture}
    (plain : ∀ k ∈ culture, k.override s (some (c :: ds)) = none) :
    ∃ t, (s.render (some (c :: ds)) culture).text? = some t ∧
      IsNumeral 16 (IsHexDigit (c = 'X')) (min 99 (Numeral.value ds)) (v % 2 ^ 64).toNat t := by
  have hformat : NumberFormat.ofText (c :: ds) =
      .hexadecimal (c = 'X') (min (Numeral.value ds) NumberFormat.maxCount) :=
    NumberFormat.ofText_of_spelled (.hexadecimal letter isDigit)
  refine ⟨_, h.text?_render plain, ?_⟩
  rw [Option.getD_some, hformat, Nat.min_comm]
  exact isNumeral_hexadecimal _ _ _

end Counts

/-- **A hexadecimal format writes the two's complement of a whole number** in digits of the case of
its letter, and tells apart all numbers of a kind. -/
theorem render_hexadecimal {c : Char} (letter : c = 'x' ∨ c = 'X') {ds : Text}
    (isDigit : ∀ d ∈ ds, d.isDigit = true) {signed : Bool} {s : Scalar} {v : ℤ}
    (counts : s.Counts signed v) {culture : Option Culture}
    (plain : ∀ k ∈ culture, k.override s (some (c :: ds)) = none) :
    ∃ t, (s.render (some (c :: ds)) culture).text? = some t ∧
      IsNumeral 16 (IsHexDigit (c = 'X')) (min 99 (Numeral.value ds)) (v % 2 ^ 64).toNat t ∧
      ∀ s' v' culture', s'.Counts signed v' →
        (∀ k ∈ culture', k.override s' (some (c :: ds)) = none) →
          (s'.render (some (c :: ds)) culture').text? = some t → s' = s := by
  obtain ⟨t, ht, hnumeral⟩ := counts.exists_hexadecimal letter isDigit plain
  refine ⟨t, ht, hnumeral, fun s' v' culture' counts' plain' ht' => counts.scalar_eq counts' ?_⟩
  obtain ⟨t', htext, hnumeral'⟩ := counts'.exists_hexadecimal letter isDigit plain'
  obtain rfl : t = t' := Option.some.inj (ht'.symm.trans htext)
  have hbits := hnumeral'.value.symm.trans hnumeral.value
  have := Int.emod_nonneg v (show (2 : ℤ) ^ 64 ≠ 0 by decide)
  have := Int.emod_nonneg v' (show (2 : ℤ) ^ 64 ≠ 0 by decide)
  omega

/-- The smallest number, whose magnitude is not a number with a sign. -/
theorem hexadecimal_smallest :
    ∃ t, ((int Int64.minValue).render (some "X020".toList) none).text? = some t ∧
      IsNumeral 16 (IsHexDigit ('X' = 'X')) (min 99 (Numeral.value "020".toList))
        (Int64.minValue.toInt % 2 ^ 64).toNat t ∧
      ∀ s' v' culture', s'.Counts true v' →
        (∀ k ∈ culture', k.override s' (some "X020".toList) = none) →
          (s'.render (some "X020".toList) culture').text? = some t → s' = int Int64.minValue :=
  render_hexadecimal (.inr rfl) (List.all_eq_true.1 rfl) (.int Int64.minValue) nofun

/-- **Any other format writes the decimal digits of a whole number**, and without a format, or in one
that is not recognised, the number is displayed. -/
theorem render_decimal {signed : Bool} {s : Scalar} {v : ℤ} (counts : s.Counts signed v)
    {fmt : Option Text}
    (decimal : ∀ f ∈ fmt, ∀ upper count, ¬NumberFormat.Spelled f (.hexadecimal upper count))
    {culture : Option Culture} (plain : ∀ c ∈ culture, c.override s fmt = none) :
    ∃ whole places t, NumberFormat.Asks fmt whole places ∧
      (s.render fmt culture).text? = some t ∧
      IsDecimal (culture.elim '.' Culture.separator) whole places v t ∧
      ((∀ f ∈ fmt, ∀ n, ¬NumberFormat.Spelled f n) → t = s.display) := by
  obtain ⟨whole, places, hasks, hinteger⟩ := NumberFormat.exists_asks decimal
  refine ⟨whole, places, _, hasks, counts.text?_render plain, ?_, fun unknown => ?_⟩
  · rw [hinteger]
    exact isDecimal_integer counts.inRange _ whole places
  · rw [counts.display_eq, NumberFormat.ofText_eq_general unknown]
    rfl

/-- The smallest number in forty digits, whose sign stands before the zeros. -/
theorem decimal_smallest :
    (∀ f ∈ some "D040".toList, ∀ upper count, ¬NumberFormat.Spelled f (.hexadecimal upper count)) ∧
      ∃ whole places t, NumberFormat.Asks (some "D040".toList) whole places ∧
        ((int Int64.minValue).render (some "D040".toList) none).text? = some t ∧
        IsDecimal '.' whole places Int64.minValue.toInt t ∧
        ((∀ f ∈ some "D040".toList, ∀ n, ¬NumberFormat.Spelled f n) →
          t = (int Int64.minValue).display) := by
  have decimal : ∀ f ∈ some "D040".toList, ∀ upper count,
      ¬NumberFormat.Spelled f (.hexadecimal upper count) := by
    rintro f ⟨⟩ upper count h
    exact absurd (NumberFormat.ofText_of_spelled h) nofun
  exact ⟨decimal, render_decimal (.int Int64.minValue) decimal nofun⟩

end Scalar

end MessageTemplate
