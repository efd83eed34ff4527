import MessageTemplate.Rendering
import MessageTemplate.Scalar

/-!
# Rendering scalars

A scalar reaches a sink in many small texts: a quoted text character by character, a sign and every
zero apart from the digits, a separator apart from what stands around it.

* `Quoted.render`: a quoted text.
* `NumberFormat.renderInteger`, `NumberFormat.renderFloat`: numbers. A whole number is given by its
  sign and its magnitude, and `NumberFormat.toNat_signedBits` says which 64 bits these are. The parts
  of a binary number are found by splitting what is written with a point.
* `NumberFormat.text?_renderSeparated`, `NumberFormat.text?_renderRounded`: the parts of a binary
  number, with another separator and with zeros in front.
* `Scalar.render`: a scalar in a format, by the conventions of a culture.
* **`Scalar.text?_render`**: the small texts make up the text of the scalar.
-/

namespace MessageTemplate

namespace Quoted

/-- A character inside quotes, after a backslash if it needs one. -/
def renderChar (quote c : Char) : Rendering :=
  if c = quote ∨ c = '\\' then .ofChar '\\' ++ .ofChar c else .ofChar c

/-- A text in quotes, character by character. -/
def render (quote : Char) (t : Text) : Rendering :=
  .ofChar quote ++ .concat (t.map (renderChar quote)) ++ .ofChar quote

theorem escape_eq (quote : Char) (t : Text) :
    escape quote t = t.flatMap fun c => if c = quote ∨ c = '\\' then ['\\', c] else [c] := by
  induction t with
  | nil => rfl
  | cons c t ih =>
    rw [escape, List.flatMap_cons, ih]
    split <;> rfl

theorem text?_render (quote : Char) (t : Text) : (render quote t).text? = some (encode quote t) := by
  have hchar : ∀ c, (renderChar quote c).text? =
      some (if c = quote ∨ c = '\\' then ['\\', c] else [c]) := by
    intro c
    unfold renderChar
    split <;> rfl
  have hinside := Rendering.text?_concat_map hchar t
  rw [← escape_eq] at hinside
  exact Rendering.text?_append_eq_some
    (Rendering.text?_append_eq_some (Rendering.text?_ofChar quote) hinside)
    (Rendering.text?_ofChar quote)

end Quoted

namespace NumberFormat

open Rendering

/-! ## The parts of numbers -/

/-- A minus sign if one is called for. -/
def renderMinus (negative : Bool) : Rendering := if negative then .ofChar '-' else .empty

/-- Zeros, one by one. -/
def renderZeros (n : Nat) : Rendering := .concat ((List.replicate n '0').map .ofChar)

/-- A sign, zeros up to a number of digits, and the digits. -/
def renderPadded (negative : Bool) (count : Nat) (digits : Text) : Rendering :=
  renderMinus negative ++ renderZeros (count - digits.length) ++ .ofText digits

/-- The separator and the decimal places, if there are any. -/
def renderPlaces (separator : Char) : Option Text → Rendering
  | none => .empty
  | some ds => .ofChar separator ++ .ofText ds

theorem text?_renderMinus (negative : Bool) :
    (renderMinus negative).text? = some (minus negative) := by
  cases negative <;> rfl

theorem text?_renderZeros (n : Nat) : (renderZeros n).text? = some (List.replicate n '0') := by
  rw [renderZeros, text?_concat_map text?_ofChar, List.flatMap_singleton']

theorem text?_renderPadded (negative : Bool) (count : Nat) (digits : Text) :
    (renderPadded negative count digits).text? =
      some (minus negative ++ Numeral.padLeft count digits) := by
  rw [Numeral.padLeft, ← List.append_assoc]
  exact text?_append_eq_some
    (text?_append_eq_some (text?_renderMinus negative) (text?_renderZeros _)) (text?_ofText digits)

theorem text?_renderPlaces (separator : Char) (places : Option Text) :
    (renderPlaces separator places).text? = some (places.elim [] (separator :: ·)) := by
  cases places with
  | none => rfl
  | some ds => exact text?_append_eq_some (text?_ofChar separator) (text?_ofText ds)

/-! ## Whole numbers -/

/-- The 64 bits of a number that is given by its sign and its magnitude. Those of a negative number
are the bits of the magnitude, which wraps around when its sign changes. -/
def signedBits (negative : Bool) (magnitude : UInt64) : UInt64 :=
  if negative then (-magnitude.toInt64).toUInt64 else magnitude

/-- The writes for a whole number with a sign and a magnitude. -/
def renderInteger (separator : Char) (negative : Bool) (magnitude : UInt64) :
    NumberFormat → Rendering
  | general => renderPadded negative 0 (Numeral.decimal magnitude.toNat)
  | hexadecimal upper n =>
    renderPadded false n (Numeral.hexadecimal upper (signedBits negative magnitude).toNat)
  | digits n => renderPadded negative n (Numeral.decimal magnitude.toNat)
  | fixed whole places =>
    renderPadded negative whole (Numeral.decimal magnitude.toNat) ++
      if 0 < places then .ofChar separator ++ renderZeros places else .empty

/-- The numbers of 64 bits, with a sign or without. -/
def InRange (v : Int) : Prop := -0x8000000000000000 ≤ v ∧ v < 0x10000000000000000

theorem inRange_toInt (v : Int64) : InRange v.toInt :=
  ⟨v.le_toInt, Int.lt_trans v.toInt_lt (by decide)⟩

theorem inRange_toNat (v : UInt64) : InRange v.toNat :=
  ⟨by omega, Int.ofNat_lt.2 v.toNat_lt⟩

section InRange

variable {v : Int} (h : InRange v)
include h

theorem toNat_magnitude : (UInt64.ofNat v.natAbs).toNat = v.natAbs := by
  obtain ⟨hlower, hupper⟩ := h
  rw [UInt64.toNat_ofNat', Nat.mod_eq_of_lt]
  omega

/-- **The magnitude and the sign make up the two's complement**, also of the smallest number, whose
magnitude is no number with a sign. -/
theorem toNat_signedBits :
    (signedBits (v < 0) (UInt64.ofNat v.natAbs)).toNat = twosComplement v := by
  have hmagnitude := toNat_magnitude h
  obtain ⟨hlower, hupper⟩ := h
  unfold signedBits twosComplement
  by_cases hneg : v < 0
  · rw [if_pos (decide_eq_true hneg), Int64.toUInt64_neg, UInt64.toUInt64_toInt64, UInt64.toNat_neg,
      hmagnitude, UInt64.size]
    omega
  · rw [if_neg (by simpa using hneg), hmagnitude]
    omega

theorem text?_renderInteger (separator : Char) (f : NumberFormat) :
    (renderInteger separator (v < 0) (UInt64.ofNat v.natAbs) f).text? =
      some (integer separator v f) := by
  cases f with
  | general =>
    rw [renderInteger, toNat_magnitude h, text?_renderPadded, Numeral.padLeft_zero, integer]
  | hexadecimal upper n =>
    rw [renderInteger, toNat_signedBits h]
    exact text?_renderPadded false n _
  | digits n =>
    rw [renderInteger, toNat_magnitude h]
    exact text?_renderPadded _ n _
  | fixed whole places =>
    rw [renderInteger, toNat_magnitude h]
    refine text?_append_eq_some (text?_renderPadded _ whole _) ?_
    unfold zeroPlaces
    split
    · rw [if_neg (by omega)]
      exact text?_append_eq_some (text?_ofChar separator) (text?_renderZeros places)
    · rw [if_pos (by omega)]
      rfl

end InRange

/-! ## Binary numbers -/

/-- The writes for a number that is not finite. -/
def renderNonFinite (x : Binary64) : Rendering :=
  if x.isNaN then .ofText "NaN".toList else renderMinus x.isNegative ++ .ofText "inf".toList

/-- A number that is written with a point, with another separator in its place. -/
def renderSeparated (separator : Char) (t : Text) : Rendering :=
  match Text.splitFirst '.' t with
  | (whole, some places) =>
    if separator = '.' then .ofText t else .ofText whole ++ .ofChar separator ++ .ofText places
  | _ => .ofText t

/-- The magnitude of a finite number with a fixed number of places. -/
def magnitude (places : Nat) (x : Binary64) : Text := rounded '.' 1 places x.abs

/-- Whether a character is neither a zero nor the point. -/
def isOther (c : Char) : Bool := c != '0' && c != '.'

/-- The magnitude taken apart at the point. There is a sign only if a digit is not zero. -/
def renderRounded (separator : Char) (whole places : Nat) (x : Binary64) : Rendering :=
  let t := magnitude places x
  let parts := Text.splitFirst '.' t
  renderPadded (x.isNegative && t.any isOther) whole parts.1 ++ renderPlaces separator parts.2

/-- The writes for a binary number. The system itself stops at `maxPlaces` places, see `exceeds`. -/
def renderFloat (separator : Char) (x : Binary64) (f : NumberFormat) : Rendering :=
  if !x.isFinite then renderNonFinite x
  else match f with
    | general | hexadecimal .. => renderSeparated separator (shortest '.' x)
    | digits n => renderRounded separator n 0 x
    | fixed whole places => renderRounded separator whole places x

theorem text?_renderNonFinite (x : Binary64) : (renderNonFinite x).text? = some (nonFinite x) := by
  unfold renderNonFinite nonFinite
  split
  · exact text?_ofText _
  · exact text?_append_eq_some (text?_renderMinus _) (text?_ofText _)

/-- **The separator takes the place of the point.** -/
theorem text?_renderSeparated {whole : Text} (h : '.' ∉ whole) (separator : Char)
    (places : Option Text) :
    (renderSeparated separator (whole ++ places.elim [] ('.' :: ·))).text? =
      some (whole ++ places.elim [] (separator :: ·)) := by
  rw [renderSeparated, Text.splitFirst_append_elim h]
  cases places with
  | none => exact text?_ofText _
  | some ds =>
    by_cases hs : separator = '.'
    · rw [hs]
      exact text?_ofText _
    · simp only [if_neg hs, Option.elim_some]
      rw [List.append_cons]
      exact text?_append_eq_some
        (text?_append_eq_some (text?_ofText whole) (text?_ofChar separator)) (text?_ofText ds)

theorem text?_renderSeparated_shortest (separator : Char) (x : Binary64) :
    (renderSeparated separator (shortest '.' x)).text? = some (shortest separator x) := by
  obtain ⟨whole, places, hwritten⟩ := x.shortest.exists_isWritten
  have h : '.' ∉ minus x.isNegative ++ whole := by
    rw [List.mem_append, not_or]
    refine ⟨by cases x.isNegative <;> decide, fun hc => ?_⟩
    exact absurd (hwritten.isDigit '.' (List.mem_append_left _ hc)) (by decide)
  rw [shortest, shortest, hwritten.positional_eq, hwritten.positional_eq, ← List.append_assoc,
    ← List.append_assoc]
  exact text?_renderSeparated h separator places

/-! ### A fixed number of places -/

/-- The number of units of the last exact place, which is what is rounded. -/
def units (places : Nat) (x : Binary64) : Nat :=
  roundQuotient (x.numerator * Nat.pow 10 (min places exactPlaces)) x.denominator

/-- The digits before the separator. -/
def wholePart (places : Nat) (x : Binary64) : Text :=
  Decimal.wholeDigits (min places exactPlaces) (units places x)

/-- The digits after the separator. -/
def placePart (places : Nat) (x : Binary64) : Option Text :=
  if places = 0 then none
  else
    some (Numeral.padLeft (min places exactPlaces)
      (Decimal.placeDigits (min places exactPlaces) (units places x)) ++
        List.replicate (places - min places exactPlaces) '0')

theorem rounded_eq_fixed (separator : Char) (whole places : Nat) (x : Binary64) :
    rounded separator whole places x =
      minus (x.isNegative && units places x != 0) ++
        Decimal.fixed separator whole (min places exactPlaces) (units places x) ++
          List.replicate (places - min places exactPlaces) '0' := rfl

theorem min_exactPlaces_eq_zero_iff {places : Nat} : min places exactPlaces = 0 ↔ places = 0 := by
  unfold exactPlaces
  omega

theorem rounded_eq (separator : Char) (whole places : Nat) (x : Binary64) :
    rounded separator whole places x =
      minus (x.isNegative && units places x != 0) ++
        (Numeral.padLeft (max 1 whole) (wholePart places x) ++
          (placePart places x).elim [] (separator :: ·)) := by
  rw [rounded_eq_fixed, Decimal.fixed_eq, wholePart, placePart]
  simp only [min_exactPlaces_eq_zero_iff]
  by_cases hp : places = 0
  · simp [hp]
  · simp [hp]

theorem magnitude_eq (places : Nat) (x : Binary64) :
    magnitude places x =
      Numeral.padLeft 1 (wholePart places x) ++ (placePart places x).elim [] ('.' :: ·) := by
  have hunits : units places x.abs = units places x := by
    simp only [units, x.numerator_abs, x.denominator_abs]
  rw [magnitude, rounded_eq, x.isNegative_abs, wholePart, placePart, hunits]
  rfl

theorem isDigit_of_mem_wholePart {c : Char} {places : Nat} {x : Binary64}
    (h : c ∈ Numeral.padLeft 1 (wholePart places x)) : c.isDigit = true :=
  Numeral.isDigit_of_mem_padLeft (fun _ => Decimal.isDigit_of_mem_wholeDigits) h

theorem any_padLeft (n : Nat) (ds : Text) : (Numeral.padLeft n ds).any isOther = ds.any isOther := by
  rw [Numeral.padLeft, List.any_append, Bool.or_eq_right_iff_imp]
  intro h
  obtain ⟨c, hc, hother⟩ := List.any_eq_true.1 h
  rw [List.eq_of_mem_replicate hc] at hother
  cases hother

theorem any_decimal (n : Nat) : (Numeral.decimal n).any isOther = (n != 0) := by
  have hpoint : ∀ c ∈ Numeral.decimal n, c ≠ '.' := by
    rintro c hc rfl
    exact absurd (Numeral.isDigit_of_mem_decimal hc) (by decide)
  rw [Bool.eq_iff_iff, List.any_eq_true, bne_iff_ne, ne_eq, Numeral.eq_zero_iff_decimal]
  simp only [isOther, Bool.and_eq_true, bne_iff_ne]
  constructor
  · rintro ⟨c, hc, h0, -⟩ hall
    exact h0 (hall c hc)
  · intro h
    simp only [Classical.not_forall] at h
    obtain ⟨c, hc, h0⟩ := h
    exact ⟨c, hc, h0, hpoint c hc⟩

/-- **A digit is not zero exactly if the number of units is not.** -/
theorem any_magnitude (places : Nat) (x : Binary64) :
    (magnitude places x).any isOther = (units places x != 0) := by
  have hall := Decimal.wholeDigits_append_placeDigits (min places exactPlaces) (units places x)
  rw [magnitude_eq, ← any_decimal, ← hall, List.any_append, List.any_append, any_padLeft,
    wholePart, placePart]
  congr 1
  by_cases hp : places = 0
  · simp [hp, Decimal.placeDigits_zero]
  · have hzeros (n : Nat) : (List.replicate n '0').any isOther = false := by
      simp [isOther]
    simp only [if_neg hp, Option.elim_some, List.any_cons, List.any_append, any_padLeft, hzeros,
      Bool.or_false]
    rfl

theorem text?_renderRounded (separator : Char) (whole places : Nat) (x : Binary64) :
    (renderRounded separator whole places x).text? = some (rounded separator whole places x) := by
  have hpoint : '.' ∉ Numeral.padLeft 1 (wholePart places x) := fun h =>
    absurd (isDigit_of_mem_wholePart h) (by decide)
  rw [renderRounded, any_magnitude, magnitude_eq, Text.splitFirst_append_elim hpoint, rounded_eq,
    ← List.append_assoc, Nat.max_comm, ← Numeral.padLeft_padLeft]
  exact text?_append_eq_some (text?_renderPadded _ whole _) (text?_renderPlaces separator _)

theorem text?_renderFloat (separator : Char) (x : Binary64) (f : NumberFormat) :
    (renderFloat separator x f).text? = some (float separator x f) := by
  unfold renderFloat float
  split
  · exact text?_renderNonFinite x
  · cases f with
    | general => exact text?_renderSeparated_shortest separator x
    | hexadecimal upper n => exact text?_renderSeparated_shortest separator x
    | digits n => exact text?_renderRounded separator n 0 x
    | fixed whole places => exact text?_renderRounded separator whole places x

end NumberFormat

namespace Scalar

/-- A scalar in a format, with a decimal separator. -/
def renderIn (separator : Char) (format : Option Text) : Scalar → Rendering
  | text t => if literal format then .ofText t else Quoted.render '"' t
  | char c => if literal format then .ofChar c else Quoted.render '\'' [c]
  | int v =>
    NumberFormat.renderInteger separator (v.toInt < 0) (.ofNat v.toInt.natAbs)
      (.ofText (format.getD []))
  | uint v => NumberFormat.renderInteger separator false v (.ofText (format.getD []))
  | float x => NumberFormat.renderFloat separator x (.ofText (format.getD []))
  | s => .ofText s.display

/-- A scalar in a format, by the conventions of a culture. -/
def render (fmt : Option Text) (culture : Option Culture) (s : Scalar) : Rendering :=
  match culture with
  | none => s.renderIn '.' fmt
  | some c =>
    match c.override s fmt with
    | some t => .ofText t
    | none => s.renderIn c.separator fmt

theorem text?_renderIn (separator : Char) (format : Option Text) (s : Scalar) :
    (s.renderIn separator format).text? = some (s.format separator format) := by
  cases s with
  | text t =>
    rw [renderIn, Scalar.format]
    split
    · exact Rendering.text?_ofText t
    · exact Quoted.text?_render '"' t
  | char c =>
    rw [renderIn, Scalar.format]
    split
    · exact Rendering.text?_ofChar c
    · exact Quoted.text?_render '\'' [c]
  | int v => exact NumberFormat.text?_renderInteger (NumberFormat.inRange_toInt v) separator _
  | uint v =>
    have h := NumberFormat.text?_renderInteger (NumberFormat.inRange_toNat v) separator
      (.ofText (format.getD []))
    rwa [decide_eq_false (by omega), Int.natAbs_natCast, UInt64.ofNat_toNat] at h
  | float x => exact NumberFormat.text?_renderFloat separator x _
  | null => exact Rendering.text?_ofText _
  | bool b => exact Rendering.text?_ofText _

/-- **The small texts make up the text of the scalar.** -/
theorem text?_render (fmt : Option Text) (culture : Option Culture) (s : Scalar) :
    (s.render fmt culture).text? = some (s.write fmt culture) := by
  cases culture with
  | none => exact text?_renderIn '.' fmt s
  | some c =>
    rw [render, write]
    cases c.override s fmt with
    | none => exact text?_renderIn c.separator fmt s
    | some t => exact Rendering.text?_ofText t

end Scalar

end MessageTemplate
