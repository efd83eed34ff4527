import MessageTemplate.Command.Assignment
import MessageTemplate.Proofs.NumberForm
import MessageTemplate.Proofs.WholeNumbers

/-!
# Reading back what is displayed

A value on the command line is read as a whole number, a binary number, a word or a text, whichever
fits first. A scalar that is displayed and read so is recovered, except that it may become a scalar
of another kind with the same value: numbers without a sign become numbers with one, and binary
numbers that show no point become whole numbers.

* `Written.integer?_eq_some_iff_spells`: what reads as a whole number.
* `Decimal.IsWritten.form`: what is written for a decimal, as a form.
  `Decimal.binary64?_positional`, `Decimal.integer?_positional`: what it reads as.
* **`Binary64.roundsTo_shortest`**: the shortest decimal rounds to the number.
  `Binary64.nearest_shortest`: it reads back.
* `Scalar.Recovered`: a scalar, and what it becomes.
* **`Assignment.read_display`**: every scalar is recovered, and the name is kept.
-/

namespace MessageTemplate

open NumberFormat (minus)

/-! ## Reading a sign and digits -/

namespace Written

/-- The text consists of a minus sign, if there is one, and of decimal digits, and denotes `v`. -/
def Spells (t : Text) (v : Int64) : Prop :=
  ∃ negative ds, t = minus negative ++ ds ∧ ds ≠ [] ∧ (∀ c ∈ ds, c.isDigit = true) ∧
    v.toInt = signed negative (Numeral.value ds)

theorem integer?_of_spells {t : Text} {v : Int64} (h : Spells t v) : integer? t = some v := by
  obtain ⟨negative, ds, rfl, hne, hdigits, hv⟩ := h
  rw [integer?_eq_some_iff, sign_minus_append negative (isDigit_of_mem_head? hdigits)]
  exact ⟨hne, hdigits, hv⟩

/-- **What has no plus sign and reads as a whole number is its sign and digits.** -/
theorem integer?_eq_some_iff_spells {t : Text} (h : t.head? ≠ some '+') {v : Int64} :
    integer? t = some v ↔ Spells t v := by
  refine ⟨fun hv => ?_, integer?_of_spells⟩
  obtain ⟨hne, hdigits, hvalue⟩ := integer?_eq_some_iff.1 hv
  refine ⟨(sign t).1, (sign t).2, ?_, hne, hdigits, hvalue⟩
  unfold sign
  split
  · rfl
  · exact absurd rfl h
  · rfl

end Written

/-! ## Decimals -/

namespace Decimal

namespace IsWritten

variable {d : Decimal} {whole : Text} {places : Option Text} (h : d.IsWritten whole places)
include h

theorem positional_ne_nil : d.positional '.' ≠ [] := by
  rw [h.positional_eq]
  exact List.append_ne_nil_of_left_ne_nil h.whole_ne_nil _

theorem head?_positional : ∀ c ∈ (d.positional '.').head?, c.isDigit = true := by
  intro c hc
  rw [h.positional_eq, List.head?_append_of_ne_nil _ h.whole_ne_nil] at hc
  exact h.isDigit c (List.mem_append_left _ (List.mem_of_mem_head? hc))

/-- What is written, as a form without an exponent. -/
def form : Written.Form where
  front := whole
  back := places
  power := none
  digits_ne_nil := List.append_ne_nil_of_left_ne_nil h.whole_ne_nil _
  isDigit := h.isDigit

theorem text_form : h.form.text = d.positional '.' := by
  rw [h.positional_eq, Written.Form.text, form, Option.elim_none, List.append_nil]

theorem decimal?_positional : ∃ d' : Decimal, Written.decimal? (d.positional '.') = some d' ∧
    d'.numerator = d.numerator ∧ d'.denominator = d.denominator := by
  have hdecimal (count : Text → ℕ) : h.form.decimal count =
      ⟨Numeral.value (whole ++ places.getD []), -(places.getD []).length⟩ := by
    rw [Written.Form.decimal, ← zero_sub]
    rfl
  refine ⟨⟨Numeral.value (whole ++ places.getD []), -(places.getD []).length⟩, ?_, ?_, ?_⟩
  · rw [← h.text_form, Written.decimal?_text, hdecimal]
  · rw [numerator_places, h.value_eq_numerator]
  · rw [denominator_places, h.length_places, denominator]

theorem isDigit_positional_iff : (∀ c ∈ d.positional '.', c.isDigit = true) ↔ 0 ≤ d.exponent := by
  rw [← h.places_eq_none_iff, h.positional_eq]
  cases places with
  | none =>
    have hdigits := h.isDigit
    rw [Option.getD_none] at hdigits
    exact iff_of_true hdigits rfl
  | some ds =>
    have hpoint : ¬ ∀ c ∈ whole ++ '.' :: ds, c.isDigit = true := fun hall =>
      absurd (hall '.' (by simp)) (by decide)
    exact iff_of_false hpoint nofun

end IsWritten

theorem head?_positional_ne (negative : Bool) (d : Decimal) :
    (minus negative ++ d.positional '.').head? ≠ some '+' := by
  obtain ⟨whole, places, h⟩ := d.exists_isWritten
  cases negative with
  | true => exact nofun
  | false => exact fun hplus => absurd (h.head?_positional '+' hplus) (by decide)

/-- **A decimal that is written reads as the number nearest to it.** -/
theorem binary64?_positional (negative : Bool) (d : Decimal) :
    Written.binary64? (minus negative ++ d.positional '.') = some (d.nearest negative) := by
  obtain ⟨whole, places, h⟩ := d.exists_isWritten
  obtain ⟨d', hd', hnumerator, hdenominator⟩ := h.decimal?_positional
  have hword : Written.word? negative (d.positional '.') = none := by
    rw [← h.text_form]
    exact Written.word?_text negative h.form
  rw [Written.binary64?, Written.sign_minus_append negative h.head?_positional]
  dsimp only
  rw [hword, hd', Option.none_or, Option.map_some, nearest_eq_ofWord, nearest_eq_ofWord, hnumerator,
    hdenominator]

/-- **A decimal that is written without a point reads as a whole number**, if it is in range. -/
theorem integer?_positional (negative : Bool) (d : Decimal) (v : Int64) :
    Written.integer? (minus negative ++ d.positional '.') = some v ↔
      0 ≤ d.exponent ∧ v.toInt = Written.signed negative d.numerator := by
  obtain ⟨whole, places, h⟩ := d.exists_isWritten
  rw [Written.integer?_eq_some_iff, Written.sign_minus_append negative h.head?_positional]
  dsimp only
  rw [h.isDigit_positional_iff, and_iff_right h.positional_ne_nil]
  refine and_congr_right fun hexponent => ?_
  have hvalue := h.value_eq_numerator
  have hpositional := h.positional_eq
  rw [h.places_eq_none_iff.2 hexponent] at hvalue hpositional
  rw [hpositional, Option.elim_none, ← hvalue, Option.getD_none]

end Decimal

/-! ## The shortest decimal reads back -/

theorem Binary64.roundsTo_of_dvd {x : Binary64} {parts : ℕ} (hpos : 0 < parts)
    (h : x.denominator ∣ parts) : x.RoundsTo (x.numerator * parts / x.denominator) parts := by
  obtain ⟨c, rfl⟩ := h
  rw [Nat.mul_left_comm, Nat.mul_div_cancel_left _ x.denominator_pos,
    x.roundsTo_mul_iff (Nat.pos_of_mul_pos_left hpos)]
  exact x.roundsTo_self

namespace Shortest

theorem roundsTo_search (x : Binary64) (k : ℕ) :
    x.RoundsTo (search x k).numerator (search x k).denominator := by
  induction k with
  | zero =>
    have hdvd := x.denominator_dvd
    unfold NumberFormat.exactPlaces at hdvd
    rw [search, show (-1074 : ℤ) = -(1074 : ℕ) from rfl]
    generalize 1074 = places at hdvd ⊢
    rw [Decimal.numerator_places, Decimal.denominator_places]
    exact Binary64.roundsTo_of_dvd (Nat.pow_pos (by decide)) hdvd
  | succ k ih =>
    rw [search]
    cases hfound : onGrid? x ((k + 1 : ℕ) - 1074) with
    | none => exact ih
    | some d => exact roundsTo_of_onGrid? hfound

end Shortest

namespace Binary64

/-- **The shortest decimal rounds to the number.** -/
theorem roundsTo_shortest (x : Binary64) :
    x.RoundsTo x.shortest.numerator x.shortest.denominator := by
  unfold shortest
  split
  · rename_i hzero
    have hself := x.roundsTo_self
    rw [numerator, hzero, Nat.zero_shiftLeft, ← Nat.zero_mul x.denominator] at hself
    rw [← x.roundsTo_mul_iff x.denominator_pos]
    simpa [Decimal.numerator, Decimal.denominator] using hself
  · exact Shortest.roundsTo_search x _

theorem inReach_shortest (x : Binary64) :
    x.InReach (x.shortest.numerator / x.shortest.denominator) :=
  (x.roundsTo_iff _ x.shortest.denominator_pos).1 x.roundsTo_shortest

/-- **The shortest decimal reads back.** -/
theorem nearest_shortest {x : Binary64} (finite : x.isFinite = true) :
    x.shortest.nearest x.isNegative = x := by
  rw [Decimal.nearest_eq_ofWord]
  exact Nearest.ofWord_word_eq x.shortest.denominator_pos finite x.inReach_shortest

theorem ofInt_eq_ofWord (v : ℤ) : ofInt v = ofWord (v < 0) (Nearest.word v.natAbs 1) := by
  rw [ofInt, Decimal.nearest_eq_ofWord, Decimal.numerator_whole, Decimal.denominator_whole]

/-- A shortest decimal without places is a whole number with the value of the number. -/
theorem value_ofInt_shortest {x : Binary64} (finite : x.isFinite = true)
    (hexponent : 0 ≤ x.shortest.exponent) {v : ℤ}
    (hv : v = Written.signed x.isNegative x.shortest.numerator) :
    (ofInt v).isFinite = true ∧ (ofInt v).value = x.value := by
  have hdenominator : x.shortest.denominator = 1 := by
    rw [Decimal.denominator, show (-x.shortest.exponent).toNat = 0 by omega, Nat.pow_eq, pow_zero]
  have hnatAbs : v.natAbs = x.shortest.numerator := by
    rw [hv]
    unfold Written.signed
    split <;> omega
  have hreach := x.inReach_shortest
  rw [hdenominator, ← hnatAbs] at hreach
  obtain ⟨hsign, hmagnitude⟩ :=
    Nearest.ofWord_word_of_inReach Nat.one_pos finite hreach (v < 0)
  have hword := Nearest.word_lt_of_lt_overflow v.natAbs Nat.one_pos
    (lt_overflow_of_inReach finite hreach)
  rw [ofInt_eq_ofWord]
  refine ⟨Nearest.isFinite_ofWord hword _, ?_⟩
  rw [value, hsign, hmagnitude, value]
  by_cases hzero : v.natAbs = 0
  · -- a zero may have lost its sign
    have hnone : x.magnitude = 0 := by
      have hs : (ofWord (v < 0) (Nearest.word 0 1)).significand = 0 := by
        rw [show v = 0 by omega]
        rfl
      rw [← hmagnitude, hzero, magnitude, hs, Nat.cast_zero, zero_mul]
    simp [hnone]
  · have hnegative : decide (v < 0) = x.isNegative := by
      unfold Written.signed at hv
      cases hx : x.isNegative <;> simp [hx] at hv ⊢ <;> omega
    rw [hnegative]

theorem isRounding_ofInt {n : ℕ} (h : (n : ℚ) < overflow) : (ofInt n).IsRounding n := by
  have hquotient : (n : ℚ) = n / (1 : ℕ) := by rw [Nat.cast_one, div_one]
  have hword := Nearest.word_lt_of_lt_overflow n Nat.one_pos (by rwa [← hquotient])
  rw [ofInt_eq_ofWord, Int.natAbs_natCast]
  refine isRounding_of_inReach (Nearest.isFinite_ofWord hword _) ?_ n.cast_nonneg ?_
  · rw [isNegative_ofWord (Nearest.word_lt _ _)]
    simp
  · rw [hquotient]
    exact Nearest.inReach_word _ n Nat.one_pos hword

theorem two_pow_le_overflow : (2 : ℚ) ^ 64 ≤ overflow := by
  have hpower : (2 : ℚ) ^ (12 : ℤ) ≤ 2 ^ (971 : ℤ) := zpow_le_zpow_right₀ (by norm_num) (by norm_num)
  have hhidden : (2 : ℚ) ^ 52 ≤ 2 * hidden - 1 / 2 := by
    unfold hidden
    norm_num
  calc (2 : ℚ) ^ 64 = 2 ^ 52 * 2 ^ (12 : ℤ) := by norm_num
    _ ≤ (2 * hidden - 1 / 2 : ℚ) * 2 ^ (971 : ℤ) :=
      mul_le_mul hhidden hpower (by positivity) (le_trans (by positivity) hhidden)

theorem eq_infinity {x : Binary64} (infinite : x.isFinite = false) (number : x.isNaN = false) :
    x = infinity x.isNegative := by
  have hbits : x.bits.toNat = (infinity x.isNegative).bits.toNat := by
    have hbiased : x.biased < 0x800 := Nat.mod_lt _ (by decide)
    have hend : ¬x.biased < 0x7FF := by simpa [isFinite] using infinite
    have hfraction : x.fraction = 0 := by simpa [isNaN, infinite] using number
    rw [infinity, toNat_bits_ofWord (by decide), x.toNat_bits_eq, hfraction]
    unfold infinityWord hidden
    omega
  cases x
  exact congrArg mk (UInt64.toNat_inj.1 hbits)

end Binary64

/-! ## Scalars -/

theorem NumberFormat.integer_general_eq (v : ℤ) :
    integer '.' v .general = minus (v < 0) ++ (⟨v.natAbs, 0⟩ : Decimal).positional '.' := by
  rw [integer, Decimal.positional, if_pos le_rfl, LongNumeral.decimal_eq,
    ← Decimal.numerator, Decimal.numerator_whole]

namespace Written

theorem integer?_integer (v : ℤ) (w : Int64) :
    integer? (NumberFormat.integer '.' v .general) = some w ↔ w.toInt = v := by
  rw [NumberFormat.integer_general_eq, Decimal.integer?_positional, Decimal.numerator_whole,
    signed_natAbs]
  exact and_iff_right le_rfl

theorem binary64?_integer (v : ℤ) :
    binary64? (NumberFormat.integer '.' v .general) = some (.ofInt v) := by
  rw [NumberFormat.integer_general_eq, Decimal.binary64?_positional, Binary64.ofInt]

end Written

namespace Scalar

variable {t : Text}

theorem ofArgument_of_integer? {v : Int64} (h : Written.integer? t = some v) :
    ofArgument t = int v := by
  simp [ofArgument, h]

theorem ofArgument_of_binary64? {x : Binary64} (hnone : Written.integer? t = none)
    (h : Written.binary64? t = some x) : ofArgument t = float x := by
  simp [ofArgument, hnone, h]

/-- What a scalar becomes that is displayed and read back. -/
inductive Recovered : Scalar → Scalar → Prop where
  | null : Recovered null null
  | bool (b : Bool) : Recovered (bool b) (bool b)
  | int (v : Int64) : Recovered (int v) (int v)
  | uint {u : UInt64} {v : Int64} (same : v.toInt = u.toNat) : Recovered (uint u) (int v)
  | largeUint {u : UInt64} {x : Binary64} (beyond : Int64.maxValue.toInt < u.toNat)
      (nearest : x.IsRounding u.toNat) : Recovered (uint u) (float x)
  /-- A binary number that is displayed as the digits of a number of 64 bits. The digits may differ
  from its value, but the number that they round to does not. -/
  | whole {x : Binary64} {v : Int64} (spelled : Written.Spells (float x).display v)
      (finite : (Binary64.ofInt v.toInt).isFinite = true)
      (same : (Binary64.ofInt v.toInt).value = x.value) : Recovered (float x) (int v)
  | float {x : Binary64} (number : x.isNaN = false)
      (other : ∀ v, ¬Written.Spells (float x).display v) : Recovered (float x) (float x)
  | nan {x y : Binary64} (hx : x.isNaN = true) (hy : y.isNaN = true) :
      Recovered (float x) (float y)
  /-- A character or a text becomes whatever it reads as. -/
  | char (c : Char) : Recovered (char c) (ofArgument [c])
  | text (t : Text) : Recovered (text t) (ofArgument t)

theorem recovered_uint (u : UInt64) : (uint u).Recovered (ofArgument (uint u).display) := by
  have hinteger := Written.integer?_integer u.toNat
  change (uint u).Recovered (ofArgument (NumberFormat.integer '.' u.toNat .general))
  cases hread : Written.integer? (NumberFormat.integer '.' u.toNat .general) with
  | some v =>
    rw [ofArgument_of_integer? hread]
    exact .uint ((hinteger v).1 hread)
  | none =>
    rw [ofArgument_of_binary64? hread (Written.binary64?_integer u.toNat)]
    refine .largeUint ?_ (Binary64.isRounding_ofInt ?_)
    · by_contra hle
      have hmax : Int64.maxValue.toInt = 0x7FFFFFFFFFFFFFFF := rfl
      have hv : (Int64.ofInt u.toNat).toInt = u.toNat := Int64.toInt_ofInt_of_le (by omega) (by omega)
      rw [(hinteger _).2 hv] at hread
      cases hread
    · calc (u.toNat : ℚ) < 2 ^ 64 := by exact_mod_cast u.toNat_lt
        _ ≤ Binary64.overflow := Binary64.two_pow_le_overflow

theorem recovered_finite {x : Binary64} (finite : x.isFinite = true) :
    (float x).Recovered (ofArgument (float x).display) := by
  have hdisplay : (float x).display = minus x.isNegative ++ x.shortest.positional '.' := by
    rw [display, NumberFormat.float, finite]
    rfl
  have hspells (v : Int64) : Written.Spells (float x).display v ↔
      Written.integer? (float x).display = some v := by
    rw [hdisplay, Written.integer?_eq_some_iff_spells (x.shortest.head?_positional_ne _)]
  cases hread : Written.integer? (float x).display with
  | some v =>
    have hv := hread
    rw [hdisplay, Decimal.integer?_positional] at hv
    obtain ⟨hfinite, hvalue⟩ := Binary64.value_ofInt_shortest finite hv.1 hv.2
    rw [ofArgument_of_integer? hread]
    exact .whole ((hspells v).2 hread) hfinite hvalue
  | none =>
    have hfloat : Written.binary64? (float x).display = some x := by
      rw [hdisplay, Decimal.binary64?_positional, Binary64.nearest_shortest finite]
    rw [ofArgument_of_binary64? hread hfloat]
    refine .float ?_ fun v hv => ?_
    · rw [Binary64.isNaN, finite]
      rfl
    · rw [(hspells v).1 hv] at hread
      cases hread

theorem recovered_nonFinite {x : Binary64} (infinite : x.isFinite = false) :
    (float x).Recovered (ofArgument (float x).display) := by
  have hdisplay : (float x).display = NumberFormat.nonFinite x := by
    rw [display, NumberFormat.float, infinite]
    rfl
  cases hx : x.isNaN with
  | true =>
    rw [hdisplay, NumberFormat.nonFinite, if_pos hx]
    exact .nan hx rfl
  | false =>
    have hinfinity := Binary64.eq_infinity infinite hx
    have hnone : Written.integer? (float x).display = none := by
      rw [hdisplay, NumberFormat.nonFinite, hx]
      cases x.isNegative <;> rfl
    have hfloat : Written.binary64? (float x).display = some x := by
      rw [hdisplay, NumberFormat.nonFinite, hx]
      conv_rhs => rw [hinfinity]
      cases x.isNegative <;> rfl
    rw [ofArgument_of_binary64? hnone hfloat]
    refine .float hx fun v hv => ?_
    rw [Written.integer?_of_spells hv] at hnone
    cases hnone

/-- **Every scalar is recovered from what displays it.** -/
theorem recovered_display (s : Scalar) : s.Recovered (ofArgument s.display) := by
  cases s with
  | null => exact .null
  | bool b => cases b <;> exact .bool _
  | int v =>
    rw [display, ofArgument_of_integer? ((Written.integer?_integer v.toInt v).2 rfl)]
    exact .int v
  | uint u => exact recovered_uint u
  | float x =>
    by_cases finite : x.isFinite = true
    · exact recovered_finite finite
    · exact recovered_nonFinite (by simpa using finite)
  | char c => exact .char c
  | text t => exact .text t

end Scalar

/-- **A scalar that is displayed and read back is recovered**, under the name that it is given. -/
theorem Assignment.read_display {name : Text} (hne : name ≠ []) (hname : '=' ∉ name) (s : Scalar) :
    ∃ r, Assignment.read (name ++ '=' :: s.display) = .ok ⟨name, r⟩ ∧ s.Recovered r := by
  refine ⟨.ofArgument s.display, ?_, s.recovered_display⟩
  rw [read_eq_ok_iff]
  exact ⟨hne, hname, s.display, rfl, rfl⟩

/-- `2 ^ 60` is displayed in digits that denote another number, but one that rounds to it. -/
theorem Assignment.display_rounded :
    ∃ r, Assignment.read ("N".toList ++ '=' :: (Scalar.float ⟨0x43B0000000000000⟩).display) =
      .ok ⟨"N".toList, r⟩ ∧ (Scalar.float ⟨0x43B0000000000000⟩).Recovered r :=
  read_display (by decide) (by decide) (.float ⟨0x43B0000000000000⟩)

end MessageTemplate
