/-!
# Texts

A text is a list of characters, and its length counts characters. Sinks and log events count the
bytes of its UTF-8 form instead.

* `Text.utf8`, `Text.byteLength`: the UTF-8 form and its length. `Text.length_le_byteLength`: there
  are at least as many bytes as characters.
* `Text.splitFirst`: what stands before the first occurrence of a delimiter, and what stands
  after it. `Text.splitFirst_none`, `Text.splitFirst_some`: putting the two together again.
  `Text.splitFirst_append_elim`: splitting what was put together.
* `Text.takeWhile_append`, `Text.dropWhile_append`: a stretch of characters of one kind.
  `Text.forall_head?_append`: the character that follows.
-/

namespace MessageTemplate

/-- A text, character by character. -/
abbrev Text : Type := List Char

namespace Text

/-- Texts are hashed by their code points. -/
instance : Hashable Text := ⟨fun t => t.foldl (fun h c => mixHash h c.val.toUInt64) 7⟩

/-- The bytes of a text in UTF-8. -/
def utf8 (t : Text) : List UInt8 := t.flatMap String.utf8EncodeChar

/-- The length of a text in UTF-8. -/
def byteLength (t : Text) : Nat := (utf8 t).length

/-- What stands before the first `d`, and what stands after it if there is one. -/
def splitFirst (d : Char) (t : Text) : Text × Option Text :=
  (t.takeWhile (· != d), (t.dropWhile (· != d)).tail?)

@[simp] theorem utf8_nil : utf8 [] = [] := rfl

@[simp] theorem utf8_append (s t : Text) : utf8 (s ++ t) = utf8 s ++ utf8 t :=
  List.flatMap_append

@[simp] theorem byteLength_nil : byteLength [] = 0 := rfl

@[simp] theorem byteLength_append (s t : Text) :
    byteLength (s ++ t) = byteLength s + byteLength t := by
  simp [byteLength]

theorem byteLength_cons (c : Char) (t : Text) :
    byteLength (c :: t) = c.utf8Size + byteLength t := by
  simp [byteLength, utf8]

theorem length_le_byteLength (t : Text) : t.length ≤ byteLength t := by
  induction t with
  | nil => exact Nat.le_refl 0
  | cons c t ih =>
    have hc := c.utf8Size_pos
    rw [List.length_cons, byteLength_cons]
    omega

theorem byteLength_replicate (n : Nat) (c : Char) :
    byteLength (List.replicate n c) = n * c.utf8Size := by
  induction n with
  | zero => simp
  | succ n ih => rw [List.replicate_succ, byteLength_cons, ih]; grind

section Stretch

variable {p : Char → Bool} {a b : Text} (ha : ∀ c ∈ a, p c = true) (hb : ∀ c ∈ b.head?, p c = false)
include ha hb

/-- A stretch of characters of one kind ends where another character follows. -/
theorem takeWhile_append : (a ++ b).takeWhile p = a := by
  rw [List.takeWhile_append_of_pos ha]
  cases b with
  | nil => rw [List.takeWhile_nil, List.append_nil]
  | cons c b => rw [List.takeWhile_cons_of_neg (by simp [hb c rfl]), List.append_nil]

theorem dropWhile_append : (a ++ b).dropWhile p = b := by
  rw [List.dropWhile_append_of_pos ha]
  cases b with
  | nil => rfl
  | cons c b => rw [List.dropWhile_cons_of_neg (by simp [hb c rfl])]

end Stretch

theorem forall_head?_append {p : Char → Prop} {a b : Text} (ha : ∀ c ∈ a.head?, p c)
    (hb : ∀ c ∈ b.head?, p c) : ∀ c ∈ (a ++ b).head?, p c := by
  cases a with
  | nil => exact hb
  | cons d a => exact ha

theorem splitFirst_nil (d : Char) : splitFirst d [] = ([], none) := rfl

theorem splitFirst_cons_self (d : Char) (t : Text) : splitFirst d (d :: t) = ([], some t) := by
  simp [splitFirst]

theorem splitFirst_cons_of_ne {c d : Char} (h : c ≠ d) (t : Text) :
    splitFirst d (c :: t) = (c :: (splitFirst d t).1, (splitFirst d t).2) := by
  simp [splitFirst, h]

theorem splitFirst_none {d : Char} {t a : Text} (h : splitFirst d t = (a, none)) :
    a = t ∧ d ∉ t := by
  induction t generalizing a with
  | nil => simpa [splitFirst_nil, eq_comm] using h
  | cons c t ih =>
    by_cases hc : c = d
    · simp [hc, splitFirst_cons_self] at h
    · rw [splitFirst_cons_of_ne hc] at h
      obtain ⟨rfl, h2⟩ := Prod.mk.inj h
      obtain ⟨h3, h4⟩ := ih (Prod.ext rfl h2)
      exact ⟨congrArg (c :: ·) h3, by simp [Ne.symm hc, h4]⟩

theorem splitFirst_some {d : Char} {t a b : Text} (h : splitFirst d t = (a, some b)) :
    t = a ++ d :: b ∧ d ∉ a := by
  induction t generalizing a with
  | nil => simp [splitFirst_nil] at h
  | cons c t ih =>
    by_cases hc : c = d
    · simp only [hc, splitFirst_cons_self, Prod.mk.injEq, Option.some.injEq] at h
      simp [hc, ← h.1, h.2]
    · rw [splitFirst_cons_of_ne hc] at h
      obtain ⟨rfl, h2⟩ := Prod.mk.inj h
      obtain ⟨h3, h4⟩ := ih (Prod.ext rfl h2)
      exact ⟨congrArg (c :: ·) h3, by simp [Ne.symm hc, h4]⟩

theorem splitFirst_of_notMem {d : Char} {a : Text} (h : d ∉ a) :
    splitFirst d a = (a, none) := by
  induction a with
  | nil => rfl
  | cons c a ih =>
    rw [List.mem_cons, not_or] at h
    rw [splitFirst_cons_of_ne (Ne.symm h.1), ih h.2]

theorem splitFirst_append_cons {d : Char} {a : Text} (h : d ∉ a) (b : Text) :
    splitFirst d (a ++ d :: b) = (a, some b) := by
  induction a with
  | nil => exact splitFirst_cons_self d b
  | cons c a ih =>
    rw [List.mem_cons, not_or] at h
    rw [List.cons_append, splitFirst_cons_of_ne (Ne.symm h.1), ih h.2]

theorem splitFirst_append_elim {d : Char} {a : Text} (h : d ∉ a) (b : Option Text) :
    splitFirst d (a ++ b.elim [] (d :: ·)) = (a, b) := by
  cases b with
  | none => rw [Option.elim_none, List.append_nil, splitFirst_of_notMem h]
  | some b => exact splitFirst_append_cons h b

end Text

end MessageTemplate
