import MessageTemplate.Error
import MessageTemplate.Proofs.NumberForm

/-!
# How settings are written

The forms of a settings text, apart from the functions that read it, and what each line tells.

* `Settings.Number`: a decimal number. **`Settings.Number.integer?_text`**: it is read as the number
  that it denotes. `Settings.Number.exists_value`: every number can be written.
* `Settings.Blanks`, `Settings.Remark`, `Settings.IsBareKey`: the other parts of a line.
  `Settings.line?_bare`, `Settings.value?_number`: they are told apart where they are read.
* `Settings.Line`, `Settings.Line.Spelled`: what a line tells, and how it is spelled.
  `Settings.Line.Spelled.line?_eq`, `Settings.Line.Spelled.key_unknown`: what is read from it.
* `Settings.Line.Spells`: how lines are spelled one after another.
  `Settings.Line.exists_spells`: there is a text for any lines.
  `Settings.Line.Spells.lines`: they are taken apart again.
* **`Settings.Line.Spells.read?_eq`**: the assignments of the lines are read in order.
  `Settings.Line.Spells.key_unknown`: a foreign key does not go unnoticed.
-/

namespace MessageTemplate.Settings

open Written (Mark signed)

/-! ## Numbers -/

/-- A decimal number: a sign or none, and digits with underscores between some of them. -/
structure Number where
  mark : Mark
  first : Char
  /-- The other digits, each with an underscore in front of it or without one. -/
  more : List (Bool × Char)
  isDigit_first : first.isDigit = true
  isDigit_more : ∀ d ∈ more, d.2.isDigit = true
  /-- Only zero itself begins with a zero. -/
  more_eq_nil : first = '0' → more = []

/-- A digit, after an underscore if it is set apart. -/
def group (d : Bool × Char) : Text := if d.1 then ['_', d.2] else [d.2]

namespace Number

/-- The digits without the underscores between them. -/
def digits (n : Number) : Text := n.first :: n.more.map Prod.snd

/-- A number as it is written: a sign, a digit, and digits with or without underscores. -/
def text (n : Number) : Text := n.mark.text ++ n.first :: n.more.flatMap group

/-- The number that is meant. -/
def value (n : Number) : Int := signed n.mark.negative (Numeral.value n.digits)

variable (n : Number)

theorem isDigit_of_mem_digits {c : Char} (h : c ∈ n.digits) : c.isDigit = true := by
  rcases List.mem_cons.1 h with rfl | h
  · exact n.isDigit_first
  · obtain ⟨d, hd, rfl⟩ := List.mem_map.1 h
    exact n.isDigit_more d hd

theorem text_ne_nil : n.text ≠ [] := List.append_ne_nil_of_right_ne_nil _ (List.cons_ne_nil _ _)

end Number

/-- Underscores between digits count for nothing. -/
theorem digits?_groups {c : Char} (hc : c.isDigit = true) {more : List (Bool × Char)}
    (hmore : ∀ d ∈ more, d.2.isDigit = true) :
    digits? Char.isDigit (c :: more.flatMap group) = some (c :: more.map Prod.snd) := by
  induction more generalizing c with
  | nil =>
    rw [List.flatMap_nil, digits?, if_pos hc]
    rfl
  | cons d more ih =>
    obtain ⟨hd, hmore⟩ := List.forall_mem_cons.1 hmore
    have hrest := ih hd hmore
    obtain ⟨apart, d⟩ := d
    cases apart with
    | true =>
      show digits? Char.isDigit (c :: '_' :: d :: more.flatMap group) = _
      rw [digits?, if_pos hc, hrest]
      rfl
    | false =>
      show digits? Char.isDigit (c :: d :: more.flatMap group) = _
      rw [digits?.eq_4, if_pos hc, hrest]
      · rfl
      · exact List.cons_ne_nil _ _
      · rintro t ⟨rfl, -⟩
        cases hd

theorem valueIn_ten {ds : Text} (h : ∀ c ∈ ds, c.isDigit = true) :
    valueIn 10 ds = Numeral.value ds := by
  refine List.foldl_ext _ _ _ fun n c hc => ?_
  rw [digitValue, if_pos (h c hc)]

namespace Number

variable (n : Number)

theorem decimal?_digits :
    decimal? (n.first :: n.more.flatMap group) = some (Numeral.value n.digits) := by
  have hdigits := digits?_groups n.isDigit_first n.isDigit_more
  by_cases h : n.first = '0'
  · rw [digits, n.more_eq_nil h, h]
    rfl
  · rw [decimal?, natural?, hdigits, Option.map_some, ← digits,
      valueIn_ten fun c => n.isDigit_of_mem_digits]
    · exact fun e => h (List.cons.inj e).1
    · exact fun _ e => h (List.cons.inj e).1

theorem integer?_unmarked :
    integer? (n.first :: n.more.flatMap group) =
      (decimal? (n.first :: n.more.flatMap group)).map Int.ofNat := by
  have hfirst := n.isDigit_first
  by_cases h : n.first = '0'
  · rw [n.more_eq_nil h, h]
    rfl
  · rw [integer?]
    · exact fun _ e => h (List.cons.inj e).1
    · exact fun _ e => h (List.cons.inj e).1
    · exact fun _ e => h (List.cons.inj e).1
    · rintro t e
      rw [(List.cons.inj e).1] at hfirst
      cases hfirst
    · rintro t e
      rw [(List.cons.inj e).1] at hfirst
      cases hfirst

/-- **A number is read as what it denotes.** -/
theorem integer?_text : integer? n.text = some n.value := by
  unfold text value
  cases n.mark with
  | none =>
    rw [Mark.text, List.nil_append, integer?_unmarked, decimal?_digits]
    rfl
  | plus =>
    show integer? ('+' :: n.first :: n.more.flatMap group) = _
    rw [integer?, decimal?_digits]
    rfl
  | minus =>
    show integer? ('-' :: n.first :: n.more.flatMap group) = _
    rw [integer?, decimal?_digits]
    rfl

theorem exists_value (v : Int) : ∃ n : Number, n.value = v := by
  obtain ⟨c, cs, hdecimal⟩ := List.exists_cons_of_ne_nil (Numeral.decimal_ne_nil v.natAbs)
  have hdigit {d : Char} (hd : d ∈ c :: cs) : d.isDigit = true :=
    Numeral.isDigit_of_mem_decimal (hdecimal ▸ hd)
  refine ⟨⟨if v < 0 then .minus else .none, c, cs.map (false, ·), hdigit List.mem_cons_self,
    fun d hd => ?_, fun hc => ?_⟩, ?_⟩
  · obtain ⟨e, he, rfl⟩ := List.mem_map.1 hd
    exact hdigit (List.mem_cons_of_mem c he)
  · have hzero : v.natAbs = 0 := by
      by_contra hne
      refine Numeral.head?_decimal_ne_zero (Nat.pos_of_ne_zero hne) ?_
      rw [hdecimal, hc, List.head?_cons]
    rw [hzero] at hdecimal
    rw [← (List.cons.inj hdecimal).2, List.map_nil]
  · have hdigits : c :: List.map Prod.snd (cs.map (false, ·)) = Numeral.decimal v.natAbs := by
      rw [hdecimal, List.map_map]
      congr 1
      exact List.map_id cs
    have hmark : Mark.negative (if v < 0 then .minus else .none) = decide (v < 0) := by
      split
      · exact (decide_eq_true ‹v < 0›).symm
      · exact (decide_eq_false ‹¬v < 0›).symm
    rw [value, digits, hdigits, Numeral.value_decimal, hmark, Written.signed_natAbs]

end Number

/-! ## The parts of a line -/

/-- Spaces and tabs. -/
def Blanks (t : Text) : Prop := ∀ c ∈ t, c = ' ' ∨ c = '\t'

instance (t : Text) : Decidable (Blanks t) :=
  List.decidableBAll (fun c => c = ' ' ∨ c = '\t') t

/-- A comment, or nothing. There are no control characters in a comment but the tab. -/
inductive Remark : Text → Prop
  | none : Remark []
  | comment {t : Text} (printable : ∀ c ∈ t, c = '\t' ∨ 32 ≤ c.toNat ∧ c.toNat ≠ 127) :
      Remark ('#' :: t)

/-- A key without quotes: letters and digits of ASCII, underscores and dashes. -/
structure IsBareKey (t : Text) : Prop where
  ne_nil : t ≠ []
  bare : ∀ c ∈ t, c.isAlphanum = true ∨ c = '_' ∨ c = '-'

/-- The text is a part of one line. -/
def InLine (t : Text) : Prop := ∀ c ∈ t, c ≠ '\n' ∧ c ≠ '\r'

instance (t : Text) : Decidable (InLine t) :=
  List.decidableBAll (fun c => c ≠ '\n' ∧ c ≠ '\r') t

theorem isBlank_iff {c : Char} : isBlank c = true ↔ c = ' ' ∨ c = '\t' := by
  rw [isBlank, Bool.or_eq_true, beq_iff_eq, beq_iff_eq]

theorem isBare_iff {c : Char} : isBare c = true ↔ c.isAlphanum = true ∨ c = '_' ∨ c = '-' := by
  rw [isBare, Bool.or_eq_true, Bool.or_eq_true, beq_iff_eq, beq_iff_eq, or_assoc]

theorem isPrintable_iff {c : Char} :
    isPrintable c = true ↔ c = '\t' ∨ 32 ≤ c.toNat ∧ c.toNat ≠ 127 := by
  rw [isPrintable, Bool.or_eq_true, Bool.and_eq_true, beq_iff_eq, decide_eq_true_iff, bne_iff_ne]

theorem isBlank_eq_false {c : Char} (hspace : c ≠ ' ') (htab : c ≠ '\t') : isBlank c = false := by
  rw [← Bool.not_eq_true, isBlank_iff, not_or]
  exact ⟨hspace, htab⟩

theorem ne_of_isBare {c d : Char} (hc : isBare c = true) (hd : isBare d = false) : c ≠ d := by
  rintro rfl
  exact Bool.false_ne_true (hd.symm.trans hc)

theorem isBareKey_iff {t : Text} : IsBareKey t ↔ t ≠ [] ∧ t.all isBare = true := by
  simp only [List.all_eq_true, isBare_iff]
  exact ⟨fun h => ⟨h.ne_nil, h.bare⟩, fun h => ⟨h.1, h.2⟩⟩

instance (t : Text) : Decidable (IsBareKey t) := decidable_of_iff _ isBareKey_iff.symm

theorem isBareKey_name (l : Limit) : IsBareKey l.name.toList := by
  cases l <;> decide

section Parts

variable {blanks key remark t : Text}

theorem Remark.eq_of_head? (h : Remark remark) : ∀ c ∈ remark.head?, c = '#' := by
  cases h with
  | none => rintro c ⟨⟩
  | comment =>
    rintro c ⟨⟩
    rfl

theorem IsBareKey.isBare (h : IsBareKey key) {c : Char} (hc : c ∈ key) : isBare c = true :=
  isBare_iff.2 (h.bare c hc)

theorem IsBareKey.exists_cons (h : IsBareKey key) :
    ∃ c cs, key = c :: cs ∧ Settings.isBare c = true := by
  obtain ⟨c, cs, rfl⟩ := List.exists_cons_of_ne_nil h.ne_nil
  exact ⟨c, cs, rfl, h.isBare List.mem_cons_self⟩

theorem Number.isBare_or_of_mem_text (n : Number) {c : Char} (h : c ∈ n.text) :
    Settings.isBare c = true ∨ c = '+' := by
  have hdigit {d : Char} (hd : d.isDigit = true) : Settings.isBare d = true ∨ d = '+' := by
    refine .inl (isBare_iff.2 (.inl ?_))
    rw [Char.isAlphanum, hd, Bool.or_true]
  rcases List.mem_append.1 h with h | h
  · revert h
    cases n.mark with
    | none => exact fun h => absurd h List.not_mem_nil
    | plus => exact fun h => .inr (List.mem_singleton.1 h)
    | minus => exact fun h => .inl (List.mem_singleton.1 h ▸ rfl)
  · rcases List.mem_cons.1 h with rfl | h
    · exact hdigit n.isDigit_first
    · obtain ⟨⟨apart, d⟩, hd, hc⟩ := List.mem_flatMap.1 h
      have hd := hdigit (n.isDigit_more _ hd)
      cases apart with
      | true =>
        rcases List.mem_cons.1 hc with rfl | hc
        · exact .inl rfl
        · exact List.mem_singleton.1 hc ▸ hd
      | false => exact List.mem_singleton.1 hc ▸ hd

theorem Number.ne_of_mem_text (n : Number) {c d : Char} (h : c ∈ n.text)
    (hd : Settings.isBare d = false) (hplus : '+' ≠ d) : c ≠ d := by
  rcases n.isBare_or_of_mem_text h with h | rfl
  · exact ne_of_isBare h hd
  · exact hplus

theorem Blanks.inLine (h : Blanks blanks) : InLine blanks := by
  intro c hc
  rcases h c hc with rfl | rfl <;> decide

theorem Remark.inLine (h : Remark remark) : InLine remark := by
  cases h with
  | none => exact fun c hc => absurd hc List.not_mem_nil
  | comment printable =>
    refine List.forall_mem_cons.2 ⟨by decide, fun c hc => ?_⟩
    rcases printable c hc with rfl | ⟨hle, -⟩
    · decide
    · constructor <;> rintro rfl <;> revert hle <;> decide

theorem IsBareKey.inLine (h : IsBareKey key) : InLine key := fun _ hc =>
  ⟨ne_of_isBare (h.isBare hc) rfl, ne_of_isBare (h.isBare hc) rfl⟩

theorem Number.inLine (n : Number) : InLine n.text := fun _ hc =>
  ⟨n.ne_of_mem_text hc rfl (by decide), n.ne_of_mem_text hc rfl (by decide)⟩

theorem skipBlanks_append (h : Blanks blanks) (ht : ∀ c ∈ t.head?, isBlank c = false) :
    skipBlanks (blanks ++ t) = t :=
  Text.dropWhile_append (fun c hc => isBlank_iff.2 (h c hc)) ht

theorem isOver_append (h : Blanks blanks) (hremark : Remark remark) :
    isOver (blanks ++ remark) = true := by
  have hskip : skipBlanks (blanks ++ remark) = remark := by
    refine skipBlanks_append h fun c hc => ?_
    rw [hremark.eq_of_head? c hc]
    rfl
  rw [isOver, hskip]
  cases hremark with
  | none => rfl
  | comment printable =>
    exact List.all_eq_true.2 fun c hc => isPrintable_iff.2 (printable c hc)

end Parts

/-! ## Assignments -/

section Assignment

variable {indent key before after behind remark : Text}

theorem key?_bare (hkey : IsBareKey key) (hbefore : Blanks before) (rest : Text) :
    key? (key ++ (before ++ '=' :: rest)) = some (key, before ++ '=' :: rest) := by
  have hrest : ∀ c ∈ (before ++ '=' :: rest).head?, isBare c = false := by
    refine Text.forall_head?_append (fun c hc => ?_) ?_
    · rcases hbefore c (List.mem_of_head? hc) with rfl | rfl <;> rfl
    · rintro c ⟨⟩
      rfl
  have htake := Text.takeWhile_append (fun _ => hkey.isBare) hrest
  have hdrop := Text.dropWhile_append (fun _ => hkey.isBare) hrest
  obtain ⟨c, cs, rfl, hc⟩ := hkey.exists_cons
  rw [key?, htake, hdrop]
  · rfl
  · exact fun _ e => ne_of_isBare hc rfl (List.cons.inj e).1
  · exact fun _ e => ne_of_isBare hc rfl (List.cons.inj e).1

theorem line?_bare (hindent : Blanks indent) (hkey : IsBareKey key) (hbefore : Blanks before)
    (rest : Text) : line? (indent ++ (key ++ (before ++ '=' :: rest))) =
      (value? (before ++ '=' :: rest)).map fun v => [(key, v)] := by
  have hread := key?_bare hkey hbefore rest
  obtain ⟨c, cs, rfl, hc⟩ := hkey.exists_cons
  have hskip : skipBlanks (indent ++ (c :: cs ++ (before ++ '=' :: rest))) =
      c :: cs ++ (before ++ '=' :: rest) := by
    refine skipBlanks_append hindent ?_
    rintro d ⟨⟩
    exact isBlank_eq_false (ne_of_isBare hc rfl) (ne_of_isBare hc rfl)
  have hover : isOver (indent ++ (c :: cs ++ (before ++ '=' :: rest))) = false := by
    rw [isOver, hskip, List.cons_append]
    dsimp only
    rw [beq_eq_false_iff_ne.2 (ne_of_isBare hc rfl), Bool.false_and]
  rw [line?, hover, if_neg Bool.false_ne_true, hskip, hread]

theorem value?_number (n : Number) (hbefore : Blanks before) (hafter : Blanks after)
    (hbehind : Blanks behind) (hremark : Remark remark) :
    value? (before ++ '=' :: (after ++ (n.text ++ (behind ++ remark)))) = some n.value := by
  have hequals : skipBlanks (before ++ '=' :: (after ++ (n.text ++ (behind ++ remark)))) =
      '=' :: (after ++ (n.text ++ (behind ++ remark))) := by
    refine skipBlanks_append hbefore ?_
    rintro c ⟨⟩
    rfl
  have hnumber : skipBlanks (after ++ (n.text ++ (behind ++ remark))) =
      n.text ++ (behind ++ remark) := by
    refine skipBlanks_append hafter fun c hc => ?_
    rw [List.head?_append_of_ne_nil _ n.text_ne_nil] at hc
    have hmem := List.mem_of_head? hc
    exact isBlank_eq_false (n.ne_of_mem_text hmem rfl (by decide))
      (n.ne_of_mem_text hmem rfl (by decide))
  have hchars : ∀ c ∈ n.text, (!(isBlank c || c == '#')) = true := by
    intro c hc
    rw [isBlank_eq_false (n.ne_of_mem_text hc rfl (by decide))
        (n.ne_of_mem_text hc rfl (by decide)),
      beq_eq_false_iff_ne.2 (n.ne_of_mem_text hc rfl (by decide))]
    rfl
  have hrest : ∀ c ∈ (behind ++ remark).head?, (!(isBlank c || c == '#')) = false := by
    refine Text.forall_head?_append (fun c hc => ?_) fun c hc => ?_
    · rw [isBlank_iff.2 (hbehind c (List.mem_of_head? hc))]
      rfl
    · rw [hremark.eq_of_head? c hc]
      rfl
  have htake := Text.takeWhile_append hchars hrest
  have hdrop := Text.dropWhile_append hchars hrest
  rw [value?, hequals]
  show (if isOver (List.dropWhile _ (skipBlanks _)) = true
    then integer? (List.takeWhile _ (skipBlanks _)) else none) = _
  rw [hnumber, hdrop, htake, isOver_append hbehind hremark, if_pos rfl, n.integer?_text]

end Assignment

/-! ## Lines -/

/-- What a line tells about the limits. -/
inductive Line where
  /-- The line is blank, or there is a comment in it. -/
  | nothing
  | sets (limit : Limit) (value : Int)
  /-- Something is assigned to a bare key that names no limit. -/
  | foreign
  deriving Repr, DecidableEq

namespace Line

/-- How a line is spelled, up to its end. -/
inductive Spelled : Line → Text → Prop
  | nothing {indent remark : Text} (hindent : Blanks indent) (hremark : Remark remark) :
      Spelled .nothing (indent ++ remark)
  | sets {indent before after behind remark : Text} (hindent : Blanks indent) (limit : Limit)
      (hbefore : Blanks before) (hafter : Blanks after) (number : Number)
      (hbehind : Blanks behind) (hremark : Remark remark) :
      Spelled (.sets limit number.value) (indent ++ (limit.name.toList ++
        (before ++ '=' :: (after ++ (number.text ++ (behind ++ remark))))))
  | foreign {indent key before value : Text} (hindent : Blanks indent) (hkey : IsBareKey key)
      (unknown : ∀ limit : Limit, key ≠ limit.name.toList) (hbefore : Blanks before)
      (hvalue : InLine value) :
      Spelled .foreign (indent ++ (key ++ (before ++ '=' :: value)))

theorem exists_spelled (l : Line) : ∃ w, Spelled l w := by
  have hnone : Blanks [] := by decide
  cases l with
  | nothing => exact ⟨_, .nothing hnone .none⟩
  | sets limit value =>
    obtain ⟨number, rfl⟩ := Number.exists_value value
    exact ⟨_, .sets hnone limit hnone hnone number hnone .none⟩
  | foreign =>
    have unknown (limit : Limit) : ['x'] ≠ limit.name.toList := by
      cases limit <;> decide
    exact ⟨_, .foreign hnone (by decide) unknown hnone hnone.inLine⟩

/-- The assignments to limits in a line. -/
def assignments : Line → List (Text × Int)
  | nothing | foreign => []
  | sets limit value => [(limit.name.toList, value)]

namespace Spelled

variable {l : Line} {w : Text}

theorem inLine (h : Spelled l w) : InLine w := by
  have happend {a b : Text} (ha : InLine a) (hb : InLine b) : InLine (a ++ b) :=
    List.forall_mem_append.2 ⟨ha, hb⟩
  have hequals {a : Text} (ha : InLine a) : InLine ('=' :: a) :=
    List.forall_mem_cons.2 ⟨by decide, ha⟩
  cases h with
  | nothing hindent hremark => exact happend hindent.inLine hremark.inLine
  | sets hindent limit hbefore hafter number hbehind hremark =>
    refine happend hindent.inLine (happend (isBareKey_name limit).inLine ?_)
    refine happend hbefore.inLine (hequals (happend hafter.inLine ?_))
    exact happend number.inLine (happend hbehind.inLine hremark.inLine)
  | foreign hindent hkey _ hbefore hvalue =>
    exact happend hindent.inLine (happend hkey.inLine (happend hbefore.inLine (hequals hvalue)))

theorem head?_ne_byteOrderMark (h : Spelled l w) : ∀ c ∈ w.head?, c ≠ '\uFEFF' := by
  have hblanks {a : Text} (ha : Blanks a) : ∀ c ∈ a.head?, c ≠ '\uFEFF' := by
    intro c hc
    rcases ha c (List.mem_of_head? hc) with rfl | rfl <;> decide
  have hbare {key rest : Text} (hkey : IsBareKey key) :
      ∀ c ∈ (key ++ rest).head?, c ≠ '\uFEFF' := by
    obtain ⟨c, cs, rfl, hc⟩ := hkey.exists_cons
    rintro d ⟨⟩
    exact ne_of_isBare hc rfl
  cases h with
  | nothing hindent hremark =>
    refine Text.forall_head?_append (hblanks hindent) fun c hc => ?_
    rw [hremark.eq_of_head? c hc]
    decide
  | sets hindent limit => exact Text.forall_head?_append (hblanks hindent) (hbare (isBareKey_name limit))
  | foreign hindent hkey => exact Text.forall_head?_append (hblanks hindent) (hbare hkey)

theorem line?_eq (h : Spelled l w) (hl : l ≠ .foreign) : line? w = some l.assignments := by
  cases h with
  | nothing hindent hremark => rw [line?, if_pos (isOver_append hindent hremark), assignments]
  | sets hindent limit hbefore hafter number hbehind hremark =>
    rw [line?_bare hindent (isBareKey_name limit) hbefore,
      value?_number number hbefore hafter hbehind hremark, Option.map_some, assignments]
  | foreign => exact absurd rfl hl

/-- What is read from a line with a foreign key, if anything is, is an assignment to that key. -/
theorem key_unknown (h : Spelled .foreign w) {as : List (Text × Int)} (has : line? w = some as) :
    ∃ a ∈ as, ∀ limit : Limit, a.1 ≠ limit.name.toList := by
  cases h with
  | foreign hindent hkey unknown hbefore =>
    rw [line?_bare hindent hkey hbefore, Option.map_eq_some_iff] at has
    obtain ⟨v, -, rfl⟩ := has
    exact ⟨_, List.mem_singleton_self _, unknown⟩

end Spelled

end Line

/-! ## Texts -/

/-- What ends a line: a line feed, with or without a carriage return before it. -/
inductive Break : Text → Prop
  | lineFeed : Break ['\n']
  | carriageReturn : Break ['\r', '\n']

theorem lines_break {b : Text} (h : Break b) (t : Text) : lines (b ++ t) = [] :: lines t := by
  cases h with
  | lineFeed => rfl
  | carriageReturn => rfl

theorem lines_append {w t l : Text} {ls : List Text} (hw : InLine w) (ht : lines t = l :: ls) :
    lines (w ++ t) = (w ++ l) :: ls := by
  induction w with
  | nil => exact ht
  | cons c w ih =>
    obtain ⟨⟨hfeed, hreturn⟩, hw⟩ := List.forall_mem_cons.1 hw
    rw [List.cons_append, lines, ih hw]
    · rfl
    · exact fun _ e => absurd e hreturn
    · exact hfeed

theorem exists_line?_eq_some {ws : List Text} {as : List (Text × Int)}
    (h : assignments? ws = some as) {w : Text} (hw : w ∈ ws) :
    ∃ bs, line? w = some bs ∧ ∀ b ∈ bs, b ∈ as := by
  induction ws generalizing as with
  | nil => cases hw
  | cons v ws ih =>
    rw [assignments?] at h
    split at h
    · rename_i as bs hv hws
      cases h
      rcases List.mem_cons.1 hw with rfl | hw
      · exact ⟨as, hv, fun b => List.mem_append_left bs⟩
      · obtain ⟨cs, hline, hcs⟩ := ih hws hw
        exact ⟨cs, hline, fun c hc => List.mem_append_right as (hcs c hc)⟩
    · cases h

namespace Line

theorem assignments?_eq_some {ls : List Line} {ws : List Text} (h : List.Forall₂ Spelled ls ws)
    (hls : .foreign ∉ ls) : assignments? ws = some (ls.flatMap assignments) := by
  induction h with
  | nil => rfl
  | cons hw _ ih =>
    rw [List.mem_cons, not_or] at hls
    rw [assignments?, hw.line?_eq (Ne.symm hls.1), ih hls.2]
    rfl

/-- The text has these lines one after another. -/
inductive Spells : List Line → Text → Prop
  | last {l : Line} {w : Text} (hw : Spelled l w) : Spells [l] w
  | cons {l : Line} {w b t : Text} {ls : List Line} (hw : Spelled l w) (hb : Break b)
      (ht : Spells ls t) : Spells (l :: ls) (w ++ (b ++ t))

theorem exists_spells {ls : List Line} (h : ls ≠ []) : ∃ t, Spells ls t := by
  induction ls with
  | nil => exact absurd rfl h
  | cons l ls ih =>
    obtain ⟨w, hw⟩ := l.exists_spelled
    cases ls with
    | nil => exact ⟨w, .last hw⟩
    | cons m ls =>
      obtain ⟨t, ht⟩ := ih (List.cons_ne_nil m ls)
      exact ⟨_, .cons hw .lineFeed ht⟩

namespace Spells

variable {ls : List Line} {t : Text}

theorem lines (h : Spells ls t) : List.Forall₂ Spelled ls (lines t) := by
  induction h with
  | @last l w hw =>
    have hlines : Settings.lines (w ++ []) = [w ++ []] := lines_append hw.inLine rfl
    rw [List.append_nil] at hlines
    rw [hlines]
    exact .cons hw .nil
  | cons hw hb _ ih =>
    rw [lines_append hw.inLine (lines_break hb _), List.append_nil]
    exact .cons hw ih

theorem read?_eq_assignments? (h : Spells ls t) : read? t = assignments? (Settings.lines t) := by
  have hhead : ∀ c ∈ t.head?, c ≠ '\uFEFF' := by
    cases h with
    | last hw => exact hw.head?_ne_byteOrderMark
    | cons hw hb =>
      refine Text.forall_head?_append hw.head?_ne_byteOrderMark ?_
      cases hb with
      | lineFeed | carriageReturn =>
        rintro c ⟨⟩
        decide
  unfold read?
  split
  · exact absurd rfl (hhead _ rfl)
  · rfl

/-- **The assignments of the lines are read in order.** -/
theorem read?_eq (h : Spells ls t) (hls : .foreign ∉ ls) :
    read? t = some (ls.flatMap assignments) := by
  rw [h.read?_eq_assignments?, assignments?_eq_some h.lines hls]

theorem key_unknown (h : Spells ls t) (hls : .foreign ∈ ls) {as : List (Text × Int)}
    (has : read? t = some as) : ∃ a ∈ as, ∀ limit : Limit, a.1 ≠ limit.name.toList := by
  rw [h.read?_eq_assignments?] at has
  obtain ⟨i, hi, hget⟩ := List.getElem_of_mem hls
  have hw := h.lines.get hi (h.lines.length_eq ▸ hi)
  rw [List.get_eq_getElem, List.get_eq_getElem, hget] at hw
  obtain ⟨bs, hline, hbs⟩ := exists_line?_eq_some has (List.getElem_mem _)
  obtain ⟨a, ha, unknown⟩ := hw.key_unknown hline
  exact ⟨a, hbs a ha, unknown⟩

end Spells

end Line

end MessageTemplate.Settings
