/-!
# Ranges of code points

A property of characters is held as the ascending list of the code point ranges that have it, and
looked up in a balanced search tree with these ranges.

* `CodeRanges.Ascending`: the ranges do not touch each other and stand in order.
* `RangeTree`: a search tree. `RangeTree.ranges`: its ranges in order, `RangeTree.covers`: whether a
  code point lies in one of them.
* `RangeTree.ofRanges`: the tree of a list. `RangeTree.ranges_ofRanges`: it has the ranges of the
  list.
* **`RangeTree.covers_ofRanges_iff`**: the search finds exactly the members of the ranges.
-/

namespace MessageTemplate

/-- Ranges of code points, both ends included. -/
abbrev CodeRanges : Type := List (Nat × Nat)

namespace CodeRanges

/-- Each range starts no later than it ends, and ends before the next one starts. -/
def Ascending : CodeRanges → Prop
  | [] => True
  | [r] => r.1 ≤ r.2
  | r :: s :: rs => r.1 ≤ r.2 ∧ r.2 < s.1 ∧ Ascending (s :: rs)

instance decidableAscending : (rs : CodeRanges) → Decidable (Ascending rs)
  | [] => isTrue trivial
  | [r] => inferInstanceAs (Decidable (r.1 ≤ r.2))
  | r :: s :: rs =>
    have := decidableAscending (s :: rs)
    inferInstanceAs (Decidable (r.1 ≤ r.2 ∧ r.2 < s.1 ∧ Ascending (s :: rs)))

theorem Ascending.tail {r : Nat × Nat} {rs : CodeRanges} (h : Ascending (r :: rs)) :
    Ascending rs := by
  cases rs with
  | nil => trivial
  | cons s rs => exact h.2.2

theorem Ascending.head_le {r : Nat × Nat} {rs : CodeRanges} (h : Ascending (r :: rs)) :
    r.1 ≤ r.2 := by
  cases rs with
  | nil => exact h
  | cons s rs => exact h.1

theorem Ascending.lt_of_mem {r s : Nat × Nat} {rs : CodeRanges} (h : Ascending (r :: rs))
    (hs : s ∈ rs) : r.2 < s.1 := by
  induction rs generalizing r with
  | nil => exact absurd hs List.not_mem_nil
  | cons t rs ih =>
    rcases List.mem_cons.1 hs with rfl | hs
    · exact h.2.1
    · have := ih h.tail hs
      have := h.2.1
      have := h.tail.head_le
      omega

theorem Ascending.left {l r : CodeRanges} (h : Ascending (l ++ r)) : Ascending l := by
  induction l with
  | nil => trivial
  | cons a l ih =>
    cases l with
    | nil => exact h.head_le
    | cons b l => exact ⟨h.1, h.2.1, ih h.tail⟩

theorem Ascending.right {l r : CodeRanges} (h : Ascending (l ++ r)) : Ascending r := by
  induction l with
  | nil => exact h
  | cons a l ih => exact ih h.tail

theorem Ascending.lt_of_append {l rs : CodeRanges} {a r : Nat × Nat}
    (h : Ascending (l ++ r :: rs)) (ha : a ∈ l) : a.2 < r.1 := by
  induction l with
  | nil => exact absurd ha List.not_mem_nil
  | cons b l ih =>
    rcases List.mem_cons.1 ha with rfl | ha
    · exact h.lt_of_mem (List.mem_append_right l List.mem_cons_self)
    · exact ih h.tail ha

end CodeRanges

/-- Ranges of code points in a search tree. -/
inductive RangeTree where
  | leaf
  | node (left : RangeTree) (range : Nat × Nat) (right : RangeTree)

namespace RangeTree

/-- The ranges of a tree from left to right. -/
def ranges : RangeTree → CodeRanges
  | leaf => []
  | node left r right => left.ranges ++ r :: right.ranges

/-- Search on the one side of a range on which a code point can lie. -/
def covers : RangeTree → Nat → Bool
  | leaf, _ => false
  | node left r right, n => if n < r.1 then left.covers n else n ≤ r.2 || right.covers n

/-- A tree of a depth with the first ranges of a list, as far as there is room for them, and the
ranges that are left. -/
def fill : Nat → CodeRanges → RangeTree × CodeRanges
  | 0, rs => (leaf, rs)
  | d + 1, rs =>
    match fill d rs with
    | (left, []) => (left, [])
    | (left, r :: rest) => (node left r (fill d rest).1, (fill d rest).2)

/-- The number of ranges for which a tree of a depth has room. -/
def capacity : Nat → Nat
  | 0 => 0
  | d + 1 => capacity d + 1 + capacity d

/-- The tree of a list, as deep as it has to be. -/
def ofRanges (rs : CodeRanges) : RangeTree := (fill (rs.length.log2 + 1) rs).1

theorem ranges_fill (d : Nat) (rs : CodeRanges) : (fill d rs).1.ranges ++ (fill d rs).2 = rs := by
  induction d generalizing rs with
  | zero => rfl
  | succ d ih =>
    have h := ih rs
    rw [fill]
    split
    · rename_i left heq
      rw [heq] at h
      exact h
    · rename_i left r rest heq
      rw [heq] at h
      rw [ranges, List.append_assoc, List.cons_append, ih rest]
      exact h

theorem length_fill_snd (d : Nat) (rs : CodeRanges) :
    (fill d rs).2.length = rs.length - capacity d := by
  induction d generalizing rs with
  | zero => rfl
  | succ d ih =>
    have h := ih rs
    rw [fill, capacity]
    split
    · rename_i left heq
      rw [heq, List.length_nil] at h
      rw [List.length_nil]
      omega
    · rename_i left r rest heq
      rw [heq, List.length_cons] at h
      rw [ih rest]
      omega

theorem le_capacity (n : Nat) : n ≤ capacity (n.log2 + 1) := by
  induction n using Nat.strongRecOn with
  | _ n ih =>
    rw [Nat.log2_def]
    split
    · have := ih (n / 2) (by omega)
      rw [capacity]
      omega
    · rw [capacity]
      omega

theorem ranges_ofRanges (rs : CodeRanges) : (ofRanges rs).ranges = rs := by
  have h := ranges_fill (rs.length.log2 + 1) rs
  have hrest : (fill (rs.length.log2 + 1) rs).2 = [] := by
    have := length_fill_snd (rs.length.log2 + 1) rs
    have := le_capacity rs.length
    exact List.eq_nil_of_length_eq_zero (by omega)
  rwa [hrest, List.append_nil] at h

theorem covers_iff {t : RangeTree} (h : t.ranges.Ascending) (n : Nat) :
    t.covers n = true ↔ ∃ r ∈ t.ranges, r.1 ≤ n ∧ n ≤ r.2 := by
  induction t with
  | leaf => simp [covers, ranges]
  | node left r right ihl ihr =>
    have hl := ihl h.left
    have hr := ihr h.right.tail
    rw [covers]
    simp only [ranges, List.mem_append, List.mem_cons]
    split
    · rename_i hn
      rw [hl]
      constructor
      · rintro ⟨s, hs, hsn⟩
        exact ⟨s, .inl hs, hsn⟩
      · rintro ⟨s, hs | rfl | hs, hsn⟩
        · exact ⟨s, hs, hsn⟩
        · omega
        · have := h.right.lt_of_mem hs
          have := h.right.head_le
          omega
    · rename_i hn
      rw [Bool.or_eq_true, decide_eq_true_eq, hr]
      constructor
      · rintro (hr | ⟨s, hs, hsn⟩)
        · exact ⟨r, .inr (.inl rfl), by omega, hr⟩
        · exact ⟨s, .inr (.inr hs), hsn⟩
      · rintro ⟨s, hs | rfl | hs, hsn⟩
        · have := h.lt_of_append hs
          omega
        · exact .inl hsn.2
        · exact .inr ⟨s, hs, hsn⟩

/-- **The search finds exactly the members of the ranges.** -/
theorem covers_ofRanges_iff {rs : CodeRanges} (h : rs.Ascending) (n : Nat) :
    (ofRanges rs).covers n = true ↔ ∃ r ∈ rs, r.1 ≤ n ∧ n ≤ r.2 := by
  rw [covers_iff (by rwa [ranges_ofRanges]), ranges_ofRanges]

end RangeTree

end MessageTemplate
