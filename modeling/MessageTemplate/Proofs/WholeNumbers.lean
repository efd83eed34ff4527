import MessageTemplate.Number.Whole
import MessageTemplate.Proofs.Formats
import MessageTemplate.Scalar.Rendering

/-!
# Whole numbers in either kind of number

A whole number with a sign is written from its decimal digits, a binary number from the shortest
decimal or from a rounded number of units. Up to `2 ^ 53` both are exact, and so is what is written.

* `Binary64.value_ofInt`: the binary number is the whole number.
* `NumberFormat.shortest_ofInt`, `NumberFormat.rounded_ofInt`: what is written as short as possible,
  and with a fixed number of places.
* `NumberFormat.float_ofInt`: both kinds agree in every format but a hexadecimal one, in which a
  binary number is written as short as possible.
* **`Scalar.render_whole`**: so do the scalars, in every culture that has no way of its own.
-/

namespace MessageTemplate

namespace Binary64

theorem isNegative_ofInt {v : Int} (h : v.natAbs ≤ wholeLimit) :
    (ofInt v).isNegative = decide (v < 0) := by
  rw [ofInt_eq h, isNegative_ofWord (Nearest.word_lt _ _)]

/-- **Whole numbers up to `2 ^ 53` are binary numbers.** -/
theorem value_ofInt {v : Int} (h : v.natAbs ≤ wholeLimit) : (ofInt v).value = v := by
  have hd : ((ofInt v).denominator : Rat) ≠ 0 :=
    mt Rat.natCast_eq_zero_iff.1 (Nat.ne_of_gt (ofInt v).denominator_pos)
  have hmagnitude : (ofInt v).magnitude = ((v.natAbs : Int) : Rat) := by
    rw [magnitude_eq, (holds_ofInt h).numerator, Rat.natCast_mul, Rat.div_def, Rat.mul_assoc,
      Rat.mul_inv_cancel _ hd, Rat.mul_one, Rat.intCast_natCast]
  rw [value, hmagnitude, isNegative_ofInt h, ← Rat.intCast_neg]
  split
  · rename_i hneg
    rw [decide_eq_true_iff] at hneg
    congr 1
    omega
  · rename_i hneg
    rw [decide_eq_true_iff] at hneg
    congr 1
    omega

end Binary64

namespace NumberFormat

theorem shortest_ofInt (separator : Char) {v : Int} (h : v.natAbs ≤ Binary64.wholeLimit) :
    shortest separator (.ofInt v) = integer separator v general := by
  obtain ⟨hexponent, hnumerator⟩ := (Binary64.holds_ofInt h).shortest
  have hdigits : (Binary64.ofInt v).shortest.positional separator = Numeral.decimal v.natAbs := by
    rw [Decimal.positional, if_pos hexponent, LongNumeral.decimal_eq, ← Decimal.numerator, hnumerator]
  rw [shortest, hdigits, integer, Binary64.isNegative_ofInt h]

theorem units_ofInt {v : Int} (h : v.natAbs ≤ Binary64.wholeLimit) (places : Nat) :
    units places (.ofInt v) = v.natAbs * Nat.pow 10 (min places exactPlaces) := by
  rw [units, (Binary64.holds_ofInt h).numerator, Nat.mul_right_comm]
  exact roundQuotient_mul (Binary64.ofInt v).denominator_pos _

theorem rounded_ofInt (separator : Char) (whole places : Nat) {v : Int} (h : v.natAbs ≤ Binary64.wholeLimit) :
    rounded separator whole places (.ofInt v) = integer separator v (fixed whole places) := by
  have hsign : ((Binary64.ofInt v).isNegative && units places (.ofInt v) != 0) = decide (v < 0) := by
    rw [Binary64.isNegative_ofInt h, units_ofInt h, Bool.and_eq_left_iff_imp, decide_eq_true_iff,
      bne_iff_ne]
    exact fun hneg => Nat.mul_ne_zero (by omega) (Nat.ne_of_gt (Nat.pow_pos (by decide)))
  rw [rounded_eq_fixed, hsign, units_ofInt h, Decimal.fixed_mul_pow, integer, zeroPlaces]
  simp only [min_exactPlaces_eq_zero_iff, List.append_assoc]
  split
  · rename_i hzero
    simp [hzero]
  · rw [List.cons_append, List.replicate_append_replicate,
      Nat.add_sub_cancel' (Nat.min_le_left places exactPlaces)]

/-- **Both kinds of numbers agree in a format that is not hexadecimal.** -/
theorem float_ofInt (separator : Char) {v : Int} (h : v.natAbs ≤ Binary64.wholeLimit) {f : NumberFormat}
    (decimal : ∀ upper count, f ≠ hexadecimal upper count) :
    float separator (.ofInt v) f = integer separator v f := by
  unfold float
  rw [(Binary64.holds_ofInt h).isFinite]
  cases f with
  | general => exact shortest_ofInt separator h
  | hexadecimal upper count => exact absurd rfl (decimal upper count)
  | digits whole =>
    have hnone : integer separator v (fixed whole 0) = integer separator v (digits whole) :=
      List.append_nil _
    exact (rounded_ofInt separator whole 0 h).trans hnone
  | fixed whole places => exact rounded_ofInt separator whole places h

end NumberFormat

/-- **A whole number is written the same whatever kind of number it is.** -/
theorem Scalar.render_whole {v : Int64} (small : v.toInt.natAbs ≤ Binary64.wholeLimit) {fmt : Option Text}
    (decimal : ∀ f ∈ fmt, ∀ upper count, ¬NumberFormat.Spelled f (.hexadecimal upper count))
    {culture : Option Culture} (plain : ∀ c ∈ culture, ∀ s, c.override s fmt = none) :
    ∃ text, ((Scalar.int v).render fmt culture).text? = some text ∧
      ((Scalar.float (.ofInt v.toInt)).render fmt culture).text? = some text ∧
      ∀ u : UInt64, (u.toNat : Int) = v.toInt →
        ((Scalar.uint u).render fmt culture).text? = some text := by
  have hformat : ∀ upper count,
      NumberFormat.ofText (fmt.getD []) ≠ .hexadecimal upper count := by
    intro upper count hhex
    cases fmt with
    | none => cases hhex
    | some f =>
      have hne : NumberFormat.hexadecimal upper count ≠ .general := nofun
      exact decimal f rfl upper count ((NumberFormat.ofText_eq_iff hne).1 hhex)
  have hwrite (s : Scalar) : (s.render fmt culture).text? =
      some (s.format (culture.elim '.' Culture.separator) fmt) := by
    rw [text?_render, write_eq_format fun c hc => plain c hc s]
  refine ⟨_, hwrite (.int v), ?_, fun u hu => ?_⟩
  · exact (hwrite _).trans (congrArg some (NumberFormat.float_ofInt _ small hformat))
  · exact (hwrite (.uint u)).trans (congrArg (fun n => some (NumberFormat.integer _ n _)) hu)

theorem Scalar.whole_largest :
    ∃ text, ((Scalar.int 0x20000000000000).render (some ['D', '3']) none).text? = some text ∧
      ((Scalar.float (.ofInt 0x20000000000000)).render (some ['D', '3']) none).text? = some text ∧
      ((Scalar.uint 0x20000000000000).render (some ['D', '3']) none).text? = some text := by
  have decimal : ∀ f ∈ some ['D', '3'], ∀ upper count,
      ¬NumberFormat.Spelled f (.hexadecimal upper count) := by
    rintro _ ⟨⟩ upper count hspelled
    exact absurd (NumberFormat.ofText_of_spelled hspelled) nofun
  obtain ⟨text, hint, hfloat, huint⟩ :=
    @render_whole 0x20000000000000 (by decide) _ decimal none nofun
  exact ⟨text, hint, hfloat, huint _ (by decide)⟩

end MessageTemplate
