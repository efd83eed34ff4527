import MessageTemplate.Proofs.Cutting
import MessageTemplate.Proofs.Recognition
import MessageTemplate.Token.Hashing

/-!
# When tokens are the same

Tokens are compared by a few of their parts, and for a tag a hasher is fed with the name alone. For
tokens that were read from templates this is enough: the way a token is written determines all of
it, whichever template it stands in.

* `Token.beq_refl`, `Token.written_eq_of_beq`: what comparing goes by.
* `Token.beq_or_names_eq_of_fed`: what a hasher does not tell apart.
* `Template.eq_of_written_eq`: tokens that are written alike.
* **`Template.tokens_identified`**: when tokens of two templates are the same.
-/

namespace MessageTemplate

/-! ## Comparing -/

theorem Tag.beq_refl (t : Tag) : (t == t) = true := by
  show (t.capture == t.capture && t.format == t.format && t.name == t.name &&
    t.written == t.written) = true
  simp

theorem Tag.written_eq_of_beq {s t : Tag} (h : (s == t) = true) : s.written = t.written := by
  simp only [BEq.beq, Bool.and_eq_true] at h
  exact eq_of_beq h.2

namespace Token

theorem beq_refl (t : Token) : (t == t) = true := by
  cases t with
  | text m w =>
    show (m == m && keptForm m w == keptForm m w) = true
    simp
  | tag t => exact t.beq_refl

/-- A text that stands for itself keeps no written form, so it is never taken for one that is
written differently. -/
theorem keptForm_injective {m w w' : Text} (h : keptForm m w = keptForm m w') : w = w' := by
  unfold keptForm at h
  split at h <;> split at h <;> simp_all

theorem written_eq_of_beq {t u : Token} (h : (t == u) = true) : t.written = u.written := by
  cases t with
  | text m w =>
    cases u with
    | text m' w' =>
      have h : (m == m' && keptForm m w == keptForm m' w') = true := h
      rw [Bool.and_eq_true, beq_iff_eq, beq_iff_eq] at h
      obtain ⟨rfl, hkept⟩ := h
      exact keptForm_injective hkept
    | tag t' => cases h
  | tag t =>
    cases u with
    | text m' w' => cases h
    | tag t' => exact Tag.written_eq_of_beq h

/-! ## Hashing -/

/-- Tokens that a hasher does not tell apart are equal, or they are tags of the same name. -/
theorem beq_or_names_eq_of_fed {t u : Token} (h : t.fed = u.fed) :
    (t == u) = true ∨ ∃ p q, t = .tag p ∧ u = .tag q ∧ p.name = q.name := by
  have hkey : t.key = u.key := Key.fed_injective h
  cases t with
  | text m w =>
    cases u with
    | text m' w' =>
      obtain ⟨rfl, hkept⟩ := Key.text.inj hkey
      refine Or.inl ?_
      show (m == m && keptForm m w == keptForm m w') = true
      rw [hkept]
      simp
    | tag q => cases hkey
  | tag p =>
    cases u with
    | text m' w' => cases hkey
    | tag q => exact Or.inr ⟨p, q, rfl, rfl, Key.name.inj hkey⟩

end Token

/-! ## Tokens of templates -/

namespace Template

variable {a b : Text} {t u : Token}

theorem tokens_written (ht : t ∈ (parse a).tokens) : (parse t.written).tokens = [t] := by
  have h := tokens_cut (List.cons_ne_nil t []) ((List.singleton_infix_iff t _).2 ht)
  rwa [List.flatMap_singleton] at h

/-- **Tokens of templates that are written alike are the same in every part.** -/
theorem eq_of_written_eq (ht : t ∈ (parse a).tokens) (hu : u ∈ (parse b).tokens)
    (h : t.written = u.written) : t = u := by
  -- each of the two is what its written form is read as
  have htokens : [t] = [u] := by
    rw [← tokens_written ht, ← tokens_written hu, h]
  exact List.singleton_injective htokens

theorem beq_iff_written_eq (ht : t ∈ (parse a).tokens) (hu : u ∈ (parse b).tokens) :
    (t == u) = true ↔ t.written = u.written := by
  refine ⟨Token.written_eq_of_beq, fun h => ?_⟩
  rw [eq_of_written_eq ht hu h]
  exact u.beq_refl

/-- **A token is known by the way it is written.** Tokens of any two templates are equal exactly if
they are written alike. They then agree in every part, also in those that are not compared, and a
hasher is fed with the same. If a hasher is fed with the same for unequal tokens, they are two tags
of the same name. -/
theorem tokens_identified (ht : t ∈ (parse a).tokens) (hu : u ∈ (parse b).tokens) :
    ((t == u) = true ↔ t.written = u.written) ∧
    ((t == u) = true → t = u ∧ t.fed = u.fed) ∧
    ((t == u) = false → t.fed = u.fed → ∃ p q, t = .tag p ∧ u = .tag q ∧ p.name = q.name) := by
  refine ⟨beq_iff_written_eq ht hu, fun h => ?_, fun hne hfed => ?_⟩
  · obtain rfl := eq_of_written_eq ht hu (Token.written_eq_of_beq h)
    exact ⟨rfl, rfl⟩
  · rcases Token.beq_or_names_eq_of_fed hfed with h | h
    · rw [h] at hne
      cases hne
    · exact h

/-- The tag `{v,9}`. -/
def nine : Tag.Form where
  capture := .default
  name := ['v']
  isName := by decide +kernel
  column := some ⟨.right, ['9'], List.all_eq_true.1 (by decide), by decide, by decide⟩
  format := none

/-- The tag `{v,009}`, for the same column. -/
def paddedNine : Tag.Form where
  capture := .default
  name := ['v']
  isName := by decide +kernel
  column := some ⟨.right, ['0', '0', '9'], List.all_eq_true.1 (by decide), by decide, by decide⟩
  format := none

/-- Tags that agree in all but the way they are written are different, though a hasher is fed with
the same. -/
theorem identified_nine :
    (Token.tag nine.tag == .tag paddedNine.tag) = false ∧ nine.tag.written ≠ paddedNine.tag.written ∧
    ∃ p q, Token.tag nine.tag = .tag p ∧ Token.tag paddedNine.tag = .tag q ∧ p.name = q.name := by
  have hmem (f : Tag.Form) : Token.tag f.tag ∈ (parse (Tag.enclose f.content)).tokens := by
    rw [tokens_enclose]
    exact List.mem_singleton_self _
  obtain ⟨hbeq, -, hhash⟩ := tokens_identified (hmem nine) (hmem paddedNine)
  have hne : (Token.tag nine.tag == .tag paddedNine.tag) = false := by decide
  refine ⟨hne, fun hwritten => ?_, hhash hne rfl⟩
  rw [hbeq.2 hwritten] at hne
  cases hne

end Template

end MessageTemplate
