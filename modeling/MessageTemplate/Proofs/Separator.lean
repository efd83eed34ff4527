import MessageTemplate.Proofs.FixedPoint
import MessageTemplate.Proofs.Integers
import MessageTemplate.Proofs.Synonyms

/-!
# What a separator changes

However a number is written, its separator stands in one place at most, and the digits around it do
not depend on it. So a number with another separator is the number with a point, and the separator
in place of the point. Nothing else is written with a separator.

* `Separated`: texts that differ in their separators only. `Separated.withSeparator_eq`,
  `Separated.count_le_one`: the separator takes the place of the point, if there is one.
* **`NumberFormat.separated_integer`**, **`NumberFormat.separated_float`**: numbers in every format.
* **`Scalar.render_separator`**: a scalar by the conventions of a culture, and of none.
-/

namespace MessageTemplate

/-! ## Texts with a separator -/

/-- A text for each separator, which stands in one place of it or nowhere. -/
def Separated (write : Char → Text) : Prop :=
  ∃ (whole : Text) (places : Option Text), '.' ∉ whole ++ places.getD [] ∧
    ∀ separator, write separator = whole ++ places.elim [] (separator :: ·)

/-- The separator in place of each point. -/
def Text.withSeparator (separator : Char) (t : Text) : Text :=
  t.map fun c => if c = '.' then separator else c

namespace Separated

theorem const {t : Text} (h : '.' ∉ t) : Separated fun _ => t :=
  ⟨t, none, by rwa [Option.getD_none, List.append_nil], fun _ => (List.append_nil t).symm⟩

variable {write : Char → Text}

theorem withSeparator_eq (h : Separated write) (separator : Char) :
    (write '.').withSeparator separator = write separator := by
  obtain ⟨whole, places, hpoint, hwrite⟩ := h
  have hsame {t : Text} (ht : '.' ∉ t) : t.withSeparator separator = t := by
    refine (List.map_congr_left fun c hc => if_neg ?_).trans (List.map_id _)
    rintro rfl
    exact ht hc
  rw [List.mem_append, not_or] at hpoint
  rw [hwrite, hwrite, Text.withSeparator, List.map_append]
  refine congrArg₂ _ (hsame hpoint.1) ?_
  cases places with
  | none => rfl
  | some ds => exact congrArg₂ _ (if_pos rfl) (hsame hpoint.2)

theorem count_le_one (h : Separated write) : (write '.').count '.' ≤ 1 := by
  obtain ⟨whole, places, hpoint, hwrite⟩ := h
  rw [List.mem_append, not_or] at hpoint
  rw [hwrite, List.count_append, List.count_eq_zero_of_not_mem hpoint.1, Nat.zero_add]
  cases places with
  | none => exact Nat.zero_le 1
  | some ds =>
    have hplaces : ds.count '.' = 0 := List.count_eq_zero_of_not_mem hpoint.2
    rw [Option.elim_some, List.count_cons_self, hplaces]

end Separated

namespace NumberFormat

/-! ## Numbers -/

theorem point_notMem_minus (negative : Bool) : '.' ∉ minus negative := by
  cases negative <;> decide

theorem separated_of_isDigit (negative : Bool) {whole : Text} {places : Option Text}
    (isDigit : ∀ c ∈ whole ++ places.getD [], c.isDigit = true) :
    Separated fun separator => minus negative ++ (whole ++ places.elim [] (separator :: ·)) := by
  refine ⟨minus negative ++ whole, places, ?_, fun c => (List.append_assoc ..).symm⟩
  rw [List.append_assoc, List.mem_append, not_or]
  exact ⟨point_notMem_minus negative, fun h => absurd (isDigit '.' h) (by decide)⟩

theorem separated_of_places (negative : Bool) {whole ds : Text} (places : ℕ)
    (isDigit : ∀ c ∈ whole ++ ds, c.isDigit = true) :
    Separated fun separator =>
      minus negative ++ whole ++ if places = 0 then [] else separator :: ds := by
  by_cases h : places = 0
  · have hwhole : ∀ c ∈ whole ++ (none : Option Text).getD [], c.isDigit = true :=
      fun c hc => isDigit c (List.mem_append_left ds (by simpa using hc))
    simpa [h] using separated_of_isDigit negative hwhole
  · simpa [h] using @separated_of_isDigit negative whole (some ds) isDigit

/-- **Whole numbers in every format.** -/
theorem separated_integer (v : ℤ) (format : NumberFormat) :
    Separated fun separator => integer separator v format := by
  have hdigits (count : ℕ) := (isNumeral_decimal count v.natAbs).isDigit
  cases format with
  | general =>
    have h := @separated_of_places (v < 0) _ [] 0 (by simpa using hdigits 0)
    simpa [integer, Numeral.padLeft_zero] using h
  | hexadecimal upper count =>
    refine .const fun h => ?_
    have hpoint := (isNumeral_hexadecimal upper count (twosComplement v)).isDigit '.' h
    revert hpoint
    cases upper <;> decide
  | digits count =>
    have h := @separated_of_places (v < 0) _ [] 0 (by simpa using hdigits count)
    simpa [integer] using h
  | fixed whole places =>
    refine separated_of_places (v < 0) places fun c hc => ?_
    rcases List.mem_append.1 hc with hc | hc
    · exact hdigits whole c hc
    · rw [List.eq_of_mem_replicate hc]
      rfl

theorem separated_shortest (x : Binary64) : Separated fun separator => shortest separator x := by
  obtain ⟨whole, places, hwritten⟩ := x.shortest.exists_isWritten
  simp only [shortest, hwritten.positional_eq]
  exact separated_of_isDigit _ hwritten.isDigit

theorem separated_rounded (whole places : ℕ) (x : Binary64) :
    Separated fun separator => rounded separator whole places x := by
  simp only [rounded_eq_digits]
  exact separated_of_places _ places (rounds_units whole places x).isDigit

theorem point_notMem_nonFinite (x : Binary64) : '.' ∉ nonFinite x := by
  unfold nonFinite
  cases x.isNaN <;> cases x.isNegative <;> decide

/-- **Binary numbers in every format**, also those that are not finite. -/
theorem separated_float (x : Binary64) (format : NumberFormat) :
    Separated fun separator => float separator x format := by
  unfold float
  cases x.isFinite with
  | false => exact .const (point_notMem_nonFinite x)
  | true =>
    cases format with
    | general | hexadecimal => exact separated_shortest x
    | digits whole => exact separated_rounded whole 0 x
    | fixed whole places => exact separated_rounded whole places x

end NumberFormat

/-! ## Scalars -/

namespace Scalar

theorem separated_format {s : Scalar} (number : s.IsNumber) (fmt : Option Text) :
    Separated fun separator => s.format separator fmt := by
  cases s with
  | int v => exact NumberFormat.separated_integer v.toInt _
  | uint v => exact NumberFormat.separated_integer v.toNat _
  | float x => exact NumberFormat.separated_float x _
  | _ => exact number.elim

theorem render_eq_of_not_isNumber {s : Scalar} (other : ¬s.IsNumber) {fmt : Option Text}
    {culture : Culture} (plain : culture.override s fmt = none) :
    s.render fmt (some culture) = s.render fmt none := by
  rw [render, render, plain]
  cases s with
  | int | uint | float => exact absurd trivial other
  | _ => rfl

/-- **Only numbers are written with a separator, and only the separator of a culture shows.** A
number has one point at most, and a culture that does not write it in a way of its own puts its
separator there. Anything else is written as it is without a culture, points of its own included. -/
theorem render_separator (s : Scalar) {fmt : Option Text} {culture : Culture}
    (plain : culture.override s fmt = none) :
    ∃ t, (s.render fmt none).text? = some t ∧
      (s.IsNumber → t.count '.' ≤ 1 ∧
        (s.render fmt (some culture)).text? = some (t.withSeparator culture.separator)) ∧
      (¬s.IsNumber → s.render fmt (some culture) = s.render fmt none) := by
  have hplain : ∀ c ∈ some culture, c.override s fmt = none := by
    rintro c ⟨⟩
    exact plain
  refine ⟨s.format '.' fmt, text?_render fmt none s, fun number => ?_,
    fun other => render_eq_of_not_isNumber other plain⟩
  have h := separated_format number fmt
  refine ⟨h.count_le_one, ?_⟩
  rw [text?_render, write_eq_format hplain, h.withSeparator_eq]
  rfl

/-- A number with places, a digit as separator, and a text that holds a point. -/
theorem separator_digit :
    (∃ t, ((float Binary64.carrying).render (some ['0', '.', '0']) none).text? = some t ∧
      t.count '.' ≤ 1 ∧
      ((float Binary64.carrying).render (some ['0', '.', '0'])
        (some { separator := '7' })).text? = some (t.withSeparator '7')) ∧
    (text ['.']).render none (some { separator := '7' }) = (text ['.']).render none none := by
  obtain ⟨t, ht, hnumber, -⟩ := @render_separator (float .carrying) (some ['0', '.', '0'])
    { separator := '7' } rfl
  obtain ⟨-, -, -, hother⟩ := @render_separator (text ['.']) none { separator := '7' } rfl
  exact ⟨⟨t, ht, hnumber trivial⟩, hother id⟩

end Scalar

end MessageTemplate
