import MessageTemplate.Proofs.NumberForm
import MessageTemplate.Proofs.ReadingBack

/-!
# What a value on the command line is

A value is a whole number of 64 bits if it is written like one, otherwise a binary number if it is
written like one, otherwise one of three words, and otherwise a text. Every text is one of these.

* `Scalar.ofArgument_eq_int_iff`, `Scalar.ofArgument_eq_float_iff`, `Scalar.ofArgument_eq_bool_iff`,
  `Scalar.ofArgument_eq_null_iff`, `Scalar.ofArgument_eq_text_iff`: one kind each.
* `Scalar.Classified`: the scalar for the text of a value, told by how numbers are written and which
  number each form is taken for. `Assignment.Classified`: the same for an argument.
* **`Assignment.classified_effective`**: every argument is read so, where each form is taken for the
  number that is written, unless its exponent overruns.
* `Assignment.not_classified_written`: an exponent that overruns is taken for another number.
-/

namespace MessageTemplate

open Written

/-! ## The kinds of scalars -/

namespace Scalar

variable {t : Text}

theorem ofArgument_eq_int_iff {v : Int64} : ofArgument t = int v ↔ integer? t = some v := by
  unfold ofArgument
  split
  · rename_i hv
    rw [hv, int.injEq, Option.some.injEq]
  · rename_i hnone _
    simp [hnone]
  · rename_i hnone _
    rw [hnone]
    refine iff_of_false ?_ nofun
    split_ifs <;> exact nofun

theorem ofArgument_eq_float_iff {x : Binary64} :
    ofArgument t = float x ↔ integer? t = none ∧ binary64? t = some x := by
  unfold ofArgument
  split
  · rename_i hv
    simp [hv]
  · rename_i hnone hx
    simp [hnone, hx]
  · rename_i hnone hx
    rw [hx]
    refine iff_of_false ?_ nofun
    split_ifs <;> exact nofun

theorem ofArgument_eq_bool_iff {b : Bool} :
    ofArgument t = bool b ↔ t = (if b then "true" else "false").toList := by
  constructor
  · intro h
    unfold ofArgument at h
    split at h
    · cases h
    · cases h
    · split_ifs at h with htrue hfalse
      · cases h
        exact htrue
      · cases h
        exact hfalse
  · rintro rfl
    cases b <;> rfl

theorem ofArgument_eq_null_iff : ofArgument t = null ↔ t = "null".toList := by
  constructor
  · intro h
    unfold ofArgument at h
    split at h
    · cases h
    · cases h
    · split_ifs at h with htrue hfalse hnull
      exact hnull
  · rintro rfl
    rfl

theorem ofArgument_eq_text_iff {r : Text} :
    ofArgument t = text r ↔ r = t ∧ integer? t = none ∧ binary64? t = none ∧
      t ≠ "true".toList ∧ t ≠ "false".toList ∧ t ≠ "null".toList := by
  constructor
  · intro h
    unfold ofArgument at h
    split at h
    · cases h
    · cases h
    · rename_i hinteger hfloat
      split_ifs at h with htrue hfalse hnull
      cases h
      exact ⟨rfl, hinteger, hfloat, htrue, hfalse, hnull⟩
  · rintro ⟨rfl, hinteger, hfloat, htrue, hfalse, hnull⟩
    unfold ofArgument
    rw [hinteger, hfloat]
    dsimp only
    rw [if_neg htrue, if_neg hfalse, if_neg hnull]

end Scalar

/-! ## The classification -/

/-- A scalar is what the text of a value is classified as, where each form of a decimal is taken for a
number. -/
structure Scalar.Classified (taken : Form → ℚ) (raw : Text) (s : Scalar) : Prop where
  int_iff (v : Int64) : s = int v ↔ IsWhole raw v.toInt
  float_iff : (∃ x, s = float x) ↔ (∀ v : Int64, ¬IsWhole raw v.toInt) ∧ IsFloat raw
  represents {m : Mark} {f : Form} {x : Binary64} :
    raw = m.text ++ f.text → s = float x → x.Represents m.negative (taken f)
  infinity {m : Mark} {r : Text} {x : Binary64} :
    raw = m.text ++ r → IsInfinity r → s = float x → x = Binary64.infinity m.negative
  nan {m : Mark} {r : Text} {x : Binary64} :
    raw = m.text ++ r → IsNaN r → s = float x → x.isNaN = true
  bool_iff (b : Bool) : s = bool b ↔ raw = (if b then "true" else "false").toList
  null_iff : s = null ↔ raw = "null".toList
  text_iff (t : Text) : s = text t ↔
    t = raw ∧ (∀ v : Int64, ¬IsWhole raw v.toInt) ∧ ¬IsFloat raw ∧
      raw ≠ "true".toList ∧ raw ≠ "false".toList ∧ raw ≠ "null".toList

/-- An argument is a name, the first equals sign and the text of a value, which is classified. Without
an equals sign or with nothing in front of it the argument is malformed. -/
structure Assignment.Classified (taken : Form → ℚ) (argument : Text) : Prop where
  error_iff (e : Error) : read argument = .error e ↔
    e = .malformedProperty argument ∧ ('=' ∉ argument ∨ argument.head? = some '=')
  of_ok {a : Assignment} : read argument = .ok a →
    ∃ raw, argument = a.name ++ '=' :: raw ∧ '=' ∉ a.name ∧ a.value.Classified taken raw

theorem Written.integer?_eq_none_iff {t : Text} :
    integer? t = none ↔ ∀ v : Int64, ¬IsWhole t v.toInt := by
  simp only [← integer?_eq_some_iff_isWhole, Option.eq_none_iff_forall_ne_some, ne_eq]

theorem Written.binary64?_eq_none_iff {t : Text} : binary64? t = none ↔ ¬IsFloat t := by
  rw [← binary64?_isSome_iff, Bool.not_eq_true, Option.isSome_eq_false_iff, Option.isNone_iff_eq_none]

namespace Scalar

/-- **Every text is classified**, by what is read from each form of a number. -/
theorem classified_ofArgument (raw : Text) : (ofArgument raw).Classified Form.effective raw where
  int_iff v := by rw [ofArgument_eq_int_iff, integer?_eq_some_iff_isWhole]
  float_iff := by
    simp only [ofArgument_eq_float_iff]
    rw [exists_and_left, integer?_eq_none_iff, ← Option.isSome_iff_exists, binary64?_isSome_iff]
  represents := by
    rintro m f x rfl h
    rw [ofArgument_eq_float_iff, binary64?_form, Option.some.injEq] at h
    rw [← h.2]
    exact represents_effective m.negative f
  infinity := by
    rintro m r x rfl hr h
    rw [ofArgument_eq_float_iff, binary64?_infinity m hr, Option.some.injEq] at h
    exact h.2.symm
  nan := by
    rintro m r x rfl hr h
    rw [ofArgument_eq_float_iff, binary64?_nan m hr, Option.some.injEq] at h
    rw [← h.2]
    rfl
  bool_iff b := ofArgument_eq_bool_iff
  null_iff := ofArgument_eq_null_iff
  text_iff t := by rw [ofArgument_eq_text_iff, integer?_eq_none_iff, binary64?_eq_none_iff]

/-- A number has digits, and so does its exponent. -/
example : ∀ t ∈ ([[], ['+'], ['.'], ['1', 'e']] : List Text), ofArgument t = text t := by decide

end Scalar

/-! ## An exponent that overruns -/

namespace Written

/-- A one and zeros, divided by `10 ^ 655360`. -/
def divided (zeros : ℕ) : Form where
  front := '1' :: List.replicate zeros '0'
  back := none
  power := some ⟨'e', .minus, "655360".toList, .inl rfl, by simp, by simp⟩
  digits_ne_nil := List.cons_ne_nil _ _
  isDigit c hc := by
    rw [Option.getD_none, List.append_nil, List.mem_cons, List.mem_replicate] at hc
    rcases hc with rfl | ⟨-, rfl⟩
    · rfl
    · rfl

theorem text_divided (zeros : ℕ) :
    (divided zeros).text = '1' :: List.replicate zeros '0' ++ "e-655360".toList := rfl

theorem value_divided (count : Text → ℕ) (zeros : ℕ) :
    (divided zeros).value count = 10 ^ (zeros - count "655360".toList : ℤ) := by
  have hdigits : Numeral.value ('1' :: List.replicate zeros '0') = 10 ^ zeros := by
    have h := Numeral.value_append_zeros ['1'] zeros
    rw [List.singleton_append] at h
    rw [h, show Numeral.value ['1'] = 1 from rfl, one_mul, Nat.pow_eq]
  have hplaces : Numeral.value ((divided zeros).back.getD []) = 0 := rfl
  have hexponent : (divided zeros).exponent count = -count "655360".toList := rfl
  rw [Form.value, hplaces, hexponent, sub_eq_add_neg, zpow_add₀ (by norm_num), zpow_natCast,
    Nat.cast_zero, zero_div, add_zero]
  congr 1
  exact_mod_cast hdigits

end Written

namespace Binary64

theorem lt_overflow_of_le_one {q : ℚ} (h : q ≤ 1) : q < overflow :=
  calc q ≤ 1 := h
    _ < 2 ^ 64 := by norm_num
    _ ≤ overflow := two_pow_le_overflow

theorem value_of_represents_one {x : Binary64} (h : x.Represents false 1) : x.value = 1 := by
  have hvalue : (ofInt 1).value = 1 := value_ofInt (by decide)
  have hnear := (h.isRounding (lt_overflow_of_le_one le_rfl)).near (ofInt 1) (by decide)
  rw [if_neg (by decide), hvalue, sub_self, abs_zero, abs_nonpos_iff] at hnear
  linarith

theorem not_represents_of_lt {x : Binary64} {q : ℚ} (hx : x.value = 1) (hq : 0 ≤ q) (hlt : q < 1 / 2) :
    ¬x.Represents false q := by
  intro h
  have hvalue : (ofInt 0).value = 0 := value_ofInt (by decide)
  have hnear := (h.isRounding (lt_overflow_of_le_one (by linarith))).near (ofInt 0) (by decide)
  rw [if_neg (by decide), hvalue, hx, sub_zero, abs_of_nonneg hq, abs_sub_comm,
    abs_of_nonneg (by linarith)] at hnear
  linarith

end Binary64

theorem Written.not_isWhole_divided (zeros : ℕ) (n : ℤ) : ¬IsWhole (divided zeros).text n := by
  rintro ⟨m, ds, htext, -, hdigits, -⟩
  have hletter : 'e' ∈ m.text ++ ds := by
    rw [← htext, text_divided]
    simp
  rcases List.mem_append.1 hletter with hmark | hdigit
  · cases m <;> simp [Mark.text] at hmark
  · exact absurd (hdigits 'e' hdigit) (by decide)

/-! ## Arguments -/

namespace Assignment

theorem exists_isGivenBy_iff {argument : Text} :
    (∃ a, IsGivenBy a argument) ↔ '=' ∈ argument ∧ argument.head? ≠ some '=' := by
  constructor
  · rintro ⟨a, hne, hname, value, rfl, -⟩
    obtain ⟨c, name, hcons⟩ := List.exists_cons_of_ne_nil hne
    refine ⟨by simp, fun hhead => ?_⟩
    rw [hcons] at hhead hname
    obtain rfl : c = '=' := Option.some.inj hhead
    exact hname List.mem_cons_self
  · rintro ⟨hmem, hhead⟩
    obtain ⟨name, value, rfl, hname⟩ := List.eq_append_cons_of_mem hmem
    refine ⟨⟨name, .ofArgument value⟩, ?_, hname, value, rfl, rfl⟩
    rintro rfl
    exact hhead rfl

/-- **Every argument is read as what it is classified as.** -/
theorem classified_effective (argument : Text) : Classified Form.effective argument where
  error_iff e := by
    rw [read_eq_error_iff, ← not_exists, exists_isGivenBy_iff, not_and_or, not_not]
  of_ok {a} h := by
    obtain ⟨-, hname, raw, hargument, hvalue⟩ := read_eq_ok_iff.1 h
    rw [hvalue]
    exact ⟨raw, hargument, hname, Scalar.classified_ofArgument raw⟩

/-- **An exponent that overruns is taken for another number**: a one with 65536 zeros, divided by
`10 ^ 655360`, is read as one. -/
theorem not_classified_written :
    ¬Classified (Form.value Numeral.value)
      ("N=1".toList ++ List.replicate 65536 '0' ++ "e-655360".toList) := by
  -- as a variable, so that no step looks at the zeros one by one
  generalize hzeros : 65536 = zeros
  intro h
  have hread : read ("N=1".toList ++ List.replicate zeros '0' ++ "e-655360".toList) =
      .ok ⟨['N'], .ofArgument (divided zeros).text⟩ :=
    read_eq_ok_iff.2 ⟨by simp, by simp, _, rfl, rfl⟩
  obtain ⟨raw, hargument, -, hclassified⟩ := h.of_ok hread
  obtain rfl : (divided zeros).text = raw := (List.cons.inj (List.cons.inj hargument).2).2
  have hx : Scalar.ofArgument (divided zeros).text =
      .float (((divided zeros).decimal (Numeral.valueUntil exponentLimit)).nearest false) :=
    Scalar.ofArgument_eq_float_iff.2 ⟨integer?_eq_none_iff.2 fun v => not_isWhole_divided zeros v.toInt,
      binary64?_form .none (divided zeros)⟩
  have hone := Decimal.represents_nearest false
    ((divided zeros).decimal (Numeral.valueUntil exponentLimit))
  have hsmall := hclassified.represents (m := .none) (f := divided zeros) rfl hx
  rw [Form.value_decimal, value_divided] at hone
  rw [value_divided] at hsmall
  have hcounted : (zeros - Numeral.valueUntil exponentLimit "655360".toList : ℤ) = 0 := by
    rw [← hzeros]
    rfl
  have hwritten : (zeros - Numeral.value "655360".toList : ℤ) ≤ -1 := by
    rw [← hzeros]
    decide
  rw [hcounted, zpow_zero] at hone
  refine Binary64.not_represents_of_lt (Binary64.value_of_represents_one hone) (by positivity) ?_ hsmall
  calc (10 : ℚ) ^ (zeros - Numeral.value "655360".toList : ℤ)
      ≤ 10 ^ (-1 : ℤ) := zpow_le_zpow_right₀ (by norm_num) hwritten
    _ < 1 / 2 := by norm_num

end Assignment

end MessageTemplate
