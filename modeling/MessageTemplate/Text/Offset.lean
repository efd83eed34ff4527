import MessageTemplate.Text.Basic

/-!
# Byte offsets

A place in a text can be given by the number of bytes before it. Not every number is such a place:
an offset behind the end, or inside the UTF-8 form of a character, does not take a text apart.

* `Text.dropBytes`, `Text.takeBytes`, `Text.slice`: the parts of a text between offsets.
  `Text.slice_append`: a part is found between its own offsets.
* `Text.firstOffset?`, `Text.lastOffset?`: where a character stands.
* `Text.byteAt?`: a byte. `Text.toNat_eq_of_mem_utf8EncodeChar`: an ASCII character may as well be
  searched for among the bytes, for its byte is part of no other character.
* `Text.utf8_injective`, `Text.last_notMem_utf8`: a text is known by its bytes, and the last byte is
  none of them.
-/

namespace MessageTemplate

/-- An offset that does not take a text apart. -/
structure BadOffset where
  offset : Nat
  deriving Repr, DecidableEq

theorem ok_bind {ε α β : Type} (a : α) (f : α → Except ε β) : (Except.ok a >>= f) = f a := rfl

theorem bind_eq_ok_iff {ε α β : Type} {x : Except ε α} {f : α → Except ε β} {b : β} :
    (x >>= f) = .ok b ↔ ∃ a, x = .ok a ∧ f a = .ok b := by
  cases x <;> simp [bind, Except.bind]

namespace Text

/-- What follows the first `n` bytes. -/
def dropBytes : Text → Nat → Except BadOffset Text
  | t, 0 => .ok t
  | [], n + 1 => .error ⟨n + 1⟩
  | c :: t, n + 1 =>
    if c.utf8Size ≤ n + 1 then dropBytes t (n + 1 - c.utf8Size) else .error ⟨n + 1⟩

/-- The front of a text up to an offset, which must not be inside a character. -/
def takeBytes : Text → Nat → Except BadOffset Text
  | _, 0 => .ok []
  | [], n + 1 => .error ⟨n + 1⟩
  | c :: t, n + 1 =>
    if c.utf8Size ≤ n + 1 then (takeBytes t (n + 1 - c.utf8Size)).map (c :: ·)
    else .error ⟨n + 1⟩

/-- The part of a text from one offset to another. -/
def slice (t : Text) (start stop : Nat) : Except BadOffset Text :=
  if start ≤ stop then (t.dropBytes start).bind (·.takeBytes (stop - start)) else .error ⟨start⟩

/-- The rest of a text from an offset on. -/
def sliceFrom (t : Text) (start : Nat) : Except BadOffset Text := t.slice start t.byteLength

/-- The byte at an offset, if the text has so many. -/
def byteAt? (t : Text) (i : Nat) : Option UInt8 := (utf8 t)[i]?

/-- The characters of a text with their offsets, counted from `start`. -/
def offsets (start : Nat) : Text → List (Nat × Char)
  | [] => []
  | c :: t => (start, c) :: offsets (start + c.utf8Size) t

/-- Where the first character with a property stands. -/
def firstOffset? (p : Char → Bool) (t : Text) : Option Nat :=
  ((offsets 0 t).find? (p ·.2)).map (·.1)

/-- Where the last character with a property stands. -/
def lastOffset? (p : Char → Bool) (t : Text) : Option Nat :=
  ((offsets 0 t).reverse.find? (p ·.2)).map (·.1)

/-! ## Sizes -/

theorem utf8Size_eq_one {c : Char} (h : c.toNat < 128) : c.utf8Size = 1 := by
  rw [Char.utf8Size_eq_one_iff, UInt32.le_iff_toNat_le]
  have hc : c.toNat = c.val.toNat := rfl
  rw [← hc]
  exact Nat.le_of_lt_succ h

theorem byteLength_singleton {c : Char} (h : c.toNat < 128) : byteLength [c] = 1 := by
  rw [byteLength_cons, utf8Size_eq_one h, byteLength_nil]

theorem byteLength_eq_zero_iff {t : Text} : byteLength t = 0 ↔ t = [] := by
  cases t with
  | nil => simp
  | cons c t =>
    have := c.utf8Size_pos
    rw [byteLength_cons]
    simp only [List.cons_ne_nil, iff_false]
    omega

/-! ## Parts -/

theorem le_of_slice {t r : Text} {start stop : Nat} (h : t.slice start stop = .ok r) :
    start ≤ stop := by
  rw [slice] at h
  split at h
  · assumption
  · cases h

theorem dropBytes_cons {c : Char} {n : Nat} (h : c.utf8Size ≤ n) (t : Text) :
    dropBytes (c :: t) n = dropBytes t (n - c.utf8Size) := by
  have hc := c.utf8Size_pos
  cases n with
  | zero => omega
  | succ n => rw [dropBytes, if_pos h]

theorem takeBytes_cons {c : Char} {n : Nat} (h : c.utf8Size ≤ n) (t : Text) :
    takeBytes (c :: t) n = (takeBytes t (n - c.utf8Size)).map (c :: ·) := by
  have hc := c.utf8Size_pos
  cases n with
  | zero => omega
  | succ n => rw [takeBytes, if_pos h]

theorem dropBytes_append (a b : Text) : dropBytes (a ++ b) (byteLength a) = .ok b := by
  induction a with
  | nil => rw [List.nil_append, byteLength_nil]; cases b <;> rfl
  | cons c a ih =>
    rw [List.cons_append, byteLength_cons, dropBytes_cons (Nat.le_add_right _ _),
      Nat.add_sub_cancel_left, ih]

theorem takeBytes_append (a b : Text) : takeBytes (a ++ b) (byteLength a) = .ok a := by
  induction a with
  | nil => rw [List.nil_append, byteLength_nil]; cases b <;> rfl
  | cons c a ih =>
    rw [List.cons_append, byteLength_cons, takeBytes_cons (Nat.le_add_right _ _),
      Nat.add_sub_cancel_left, ih]
    rfl

/-- **A part is found between its own offsets.** -/
theorem slice_append {a b c : Text} {i j : Nat} (hi : i = byteLength a)
    (hj : j = byteLength a + byteLength b) : slice (a ++ (b ++ c)) i j = .ok b := by
  have hij : j - i = byteLength b := by omega
  rw [slice, if_pos (by omega), hij, hi, dropBytes_append]
  exact takeBytes_append b c

theorem sliceFrom_append {a b : Text} {i : Nat} (hi : i = byteLength a) :
    sliceFrom (a ++ b) i = .ok b := by
  have h := slice_append (c := []) hi (rfl : byteLength a + byteLength b = _)
  rwa [List.append_nil, ← byteLength_append] at h

/-! ## Characters -/

theorem find?_offsets_append {p : Char → Bool} {a : Text} (h : ∀ c ∈ a, p c = false) (b : Text)
    (start : Nat) : (offsets start (a ++ b)).find? (p ·.2) =
      (offsets (start + byteLength a) b).find? (p ·.2) := by
  induction a generalizing start with
  | nil => rfl
  | cons c a ih =>
    rw [List.forall_mem_cons] at h
    rw [List.cons_append, offsets, List.find?_cons_of_neg (by simp [h.1]), ih h.2, byteLength_cons,
      Nat.add_assoc]

theorem firstOffset?_append_cons {p : Char → Bool} {a : Text} {c : Char} (h : ∀ c ∈ a, p c = false)
    (hc : p c = true) (b : Text) : firstOffset? p (a ++ c :: b) = some (byteLength a) := by
  rw [firstOffset?, find?_offsets_append h, offsets,
    List.find?_cons_of_pos (p := fun e : Nat × Char => p e.2) hc, Option.map_some, Nat.zero_add]

theorem firstOffset?_eq_none {p : Char → Bool} {t : Text} (h : ∀ c ∈ t, p c = false) :
    firstOffset? p t = none := by
  have ht := find?_offsets_append h [] 0
  rw [List.append_nil] at ht
  rw [firstOffset?, ht]
  rfl

theorem offsets_append (start : Nat) (a b : Text) :
    offsets start (a ++ b) = offsets start a ++ offsets (start + byteLength a) b := by
  induction a generalizing start with
  | nil => rfl
  | cons c a ih =>
    rw [List.cons_append, offsets, ih, offsets, List.cons_append, byteLength_cons, Nat.add_assoc]

theorem mem_of_mem_offsets {start : Nat} {t : Text} {e : Nat × Char} (h : e ∈ offsets start t) :
    e.2 ∈ t := by
  induction t generalizing start with
  | nil => exact absurd h List.not_mem_nil
  | cons c t ih =>
    rcases List.mem_cons.1 h with rfl | h
    · exact List.mem_cons_self
    · exact List.mem_cons_of_mem _ (ih h)

theorem lastOffset?_append_cons {p : Char → Bool} {b : Text} {c : Char} (a : Text) (hc : p c = true)
    (h : ∀ c ∈ b, p c = false) : lastOffset? p (a ++ c :: b) = some (byteLength a) := by
  have hb : ∀ e ∈ (offsets (byteLength a + c.utf8Size) b).reverse, ¬p e.2 = true := by
    intro e he
    rw [h _ (mem_of_mem_offsets (List.mem_reverse.1 he))]
    decide
  rw [lastOffset?, offsets_append, Nat.zero_add, offsets, List.reverse_append, List.reverse_cons,
    List.append_assoc, List.find?_append, List.find?_eq_none.2 hb, Option.none_or,
    List.singleton_append, List.find?_cons_of_pos (p := fun e : Nat × Char => p e.2) hc]
  rfl

theorem lastOffset?_eq_none {p : Char → Bool} {t : Text} (h : ∀ c ∈ t, p c = false) :
    lastOffset? p t = none := by
  have ht : ∀ e ∈ (offsets 0 t).reverse, ¬p e.2 = true := by
    intro e he
    rw [h _ (mem_of_mem_offsets (List.mem_reverse.1 he))]
    decide
  rw [lastOffset?, List.find?_eq_none.2 ht]
  rfl

/-! ## Bytes -/

theorem drop_utf8_append (a b : Text) : (utf8 (a ++ b)).drop (byteLength a) = utf8 b := by
  rw [utf8_append, byteLength, List.drop_left]

theorem byteAt?_append (a b : Text) (k : Nat) :
    byteAt? (a ++ b) (byteLength a + k) = byteAt? b k := by
  rw [byteAt?, utf8_append, byteLength, List.getElem?_append_right (Nat.le_add_right _ _),
    Nat.add_sub_cancel_left]
  rfl

theorem lt_of_byteAt? {t : Text} {i : Nat} {b : UInt8} (h : t.byteAt? i = some b) :
    i < byteLength t := (List.getElem?_eq_some_iff.1 h).1

theorem toNat_eq_of_mem_utf8EncodeChar {b : UInt8} (hb : b.toNat < 128) {c : Char}
    (h : b ∈ String.utf8EncodeChar c) : c.toNat = b.toNat := by
  have hc : c.toNat = c.val.toNat := rfl
  dsimp only [String.utf8EncodeChar] at h
  split at h
  · rw [List.mem_singleton.1 h, UInt8.toNat_ofNat']
    omega
  · -- every byte of a longer form is 128 at least
    have hlow : ∀ n, 128 ≤ n → n < 256 → b ≠ UInt8.ofNat n := by
      rintro n h₁ h₂ rfl
      rw [UInt8.toNat_ofNat'] at hb
      omega
    exfalso
    simp only [apply_ite (b ∈ ·), List.mem_cons, List.not_mem_nil, or_false] at h
    split at h
    · rcases h with h | h <;> exact hlow _ (by omega) (by omega) h
    · split at h
      · rcases h with h | h | h <;> exact hlow _ (by omega) (by omega) h
      · rcases h with h | h | h | h <;> exact hlow _ (by omega) (by omega) h

theorem notMem_utf8 {b : UInt8} (hb : b.toNat < 128) {t : Text} (h : ∀ c ∈ t, c.toNat ≠ b.toNat) :
    b ∉ utf8 t := by
  rw [utf8, List.mem_flatMap]
  rintro ⟨c, hc, hbc⟩
  exact h c hc (toNat_eq_of_mem_utf8EncodeChar hb hbc)

theorem utf8_injective {s t : Text} (h : utf8 s = utf8 t) : s = t := by
  apply String.ofList_injective
  rw [← String.toByteArray_inj, String.toByteArray_ofList, String.toByteArray_ofList]
  exact congrArg List.toByteArray h

theorem last_notMem_utf8 (t : Text) : (0xFF : UInt8) ∉ utf8 t := by
  have hlow : ∀ n, n < 255 → (0xFF : UInt8) ≠ UInt8.ofNat n := by
    intro n hn h
    have := congrArg UInt8.toNat h
    rw [UInt8.toNat_ofNat'] at this
    simp at this
    omega
  rw [utf8, List.mem_flatMap]
  rintro ⟨c, -, h⟩
  dsimp only [String.utf8EncodeChar] at h
  simp only [apply_ite ((0xFF : UInt8) ∈ ·), List.mem_cons, List.not_mem_nil, or_false] at h
  split at h
  · exact hlow _ (by omega) h
  · split at h
    · rcases h with h | h <;> exact hlow _ (by omega) h
    · split at h
      · rcases h with h | h | h <;> exact hlow _ (by omega) h
      · rcases h with h | h | h | h <;> exact hlow _ (by omega) h

end Text

end MessageTemplate
