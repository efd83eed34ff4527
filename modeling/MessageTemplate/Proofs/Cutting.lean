import Mathlib.Data.List.Infix
import MessageTemplate.Proofs.Cursor

/-!
# Cutting templates between their tokens

Tokens in a row that are cut out of a template are read as the same tokens again. A piece looks at
most one character beyond its end, and when the template is cut behind it or behind a later piece,
there is the same character or none.

* `Literal.Units.of_isPrefix`, `Literal.Stops.of_isPrefix`: literal text, when what follows is cut
  short.
* `Template.First.of_isPrefix`: a piece stays the first one when what follows it is cut short.
* `Template.Pieces.cut`: pieces in a row are the pieces of what they make up.
* `Template.tokens_cut`: the same for tokens.
* **`Template.tokens_contiguous`**: tokens in a row, a single token, and two halves of a template.
-/

namespace MessageTemplate

theorem Text.head?_of_isPrefix {s r : Text} (h : s <+: r) {c : Char} (hc : s.head? = some c) :
    r.head? = some c := by
  obtain ⟨u, rfl⟩ := h
  rw [List.head?_append, hc, Option.some_or]

/-! ## Literal text -/

namespace Literal

/-- Only a closing brace that stands alone depends on what follows. -/
theorem Units.of_isPrefix {m w r s : Text} (h : Units m w r) (hs : s <+: r) : Units m w s := by
  induction h with
  | nil => exact .nil
  | char h₁ h₂ _ ih => exact .char h₁ h₂ (ih hs)
  | opening _ ih => exact .opening (ih hs)
  | closing _ ih => exact .closing (ih hs)
  | lone h _ ih =>
    refine .lone ?_ (ih hs)
    intro hc
    exact h (Text.head?_of_isPrefix ((List.prefix_append_right_inj _).2 hs) hc)

theorem Stops.of_isPrefix {r s : Text} (h : Stops r) (hs : s <+: r) : Stops s := by
  rcases s with _ | ⟨c, s⟩
  · exact Or.inl rfl
  · rcases h with rfl | ⟨cs, rfl, hcs⟩
    · exact absurd (List.prefix_nil.1 hs) (List.cons_ne_nil _ _)
    · obtain ⟨rfl, hs'⟩ := List.cons_prefix_cons.1 hs
      exact Or.inr ⟨s, rfl, fun hc => hcs (Text.head?_of_isPrefix hs' hc)⟩

end Literal

namespace Template

/-! ## Pieces -/

/-- **A piece stays the first one when what follows it is cut short.** -/
theorem First.of_isPrefix {t r s : Text} {p : Piece} (h : First t p r) (hs : s <+: r) :
    First (p.written ++ s) p s := by
  have head?_ne {w : Text} (hw : (w ++ r).head? ≠ some '{') : (w ++ s).head? ≠ some '{' :=
    fun hc => hw (Text.head?_of_isPrefix ((List.prefix_append_right_inj w).2 hs) hc)
  cases h with
  | run _ hw hu hr => exact .run rfl hw (hu.of_isPrefix hs) (hr.of_isPrefix hs)
  | @closed content _ _ hne hc =>
    have hclose (u : Text) : content ++ '}' :: u = content ++ ['}'] ++ u := by
      rw [List.append_assoc, List.singleton_append]
    rw [hclose] at hne
    refine .closed ?_ ?_ hc
    · rw [hclose]
      rfl
    · rw [hclose]
      exact head?_ne hne
  | unclosed _ hne hc hr =>
    exact .unclosed rfl (head?_ne hne) hc fun c hcs => hr c (Text.head?_of_isPrefix hs hcs)

namespace Pieces

variable {t : Text} {ps qs us : List Piece}

theorem of_append_left (h : Pieces t (ps ++ qs)) : Pieces (qs.flatMap Piece.written) qs := by
  induction ps generalizing t with
  | nil =>
    rw [List.nil_append] at h
    rwa [h.flatMap_written]
  | cons p ps ih =>
    cases h with
    | cons _ h => exact ih h

theorem of_append_right (h : Pieces t (ps ++ qs)) : Pieces (ps.flatMap Piece.written) ps := by
  induction ps generalizing t with
  | nil => exact .nil
  | cons p ps ih =>
    rw [List.cons_append] at h
    cases h with
    | cons hp h =>
      have hfront := List.prefix_append (ps.flatMap Piece.written) (qs.flatMap Piece.written)
      rw [← List.flatMap_append, h.flatMap_written] at hfront
      exact .cons (hp.of_isPrefix hfront) (ih h)

/-- **Pieces in a row are the pieces of what they make up.** -/
theorem cut (h : Pieces t (ps ++ qs ++ us)) : Pieces (qs.flatMap Piece.written) qs :=
  h.of_append_right.of_append_left

end Pieces

/-! ## Tokens -/

theorem flatMap_written_map_token (ps : List Piece) :
    (ps.map Piece.token).flatMap Token.written = ps.flatMap Piece.written := by
  rw [List.flatMap_map]
  exact List.flatMap_congr fun p _ => p.written_token

theorem Pieces.tokens_eq {t : Text} {ps : List Piece} (h : Pieces t ps) (hps : ps ≠ []) :
    (parse t).tokens = ps.map Piece.token := by
  have ht : t ≠ [] := by
    rintro rfl
    cases h with
    | nil => exact hps rfl
    | cons hp => exact Nat.not_lt_zero _ hp.length_lt
  rw [parse, if_neg (by simpa using ht), h.scan_eq]

theorem tokens_nil : (parse []).tokens = [.verbatim []] := rfl

theorem tokens_cut {t : Text} {ts : List Token} (hne : ts ≠ []) (h : ts <:+: (parse t).tokens) :
    (parse (ts.flatMap Token.written)).tokens = ts := by
  by_cases ht : t = []
  · -- the one token of the empty text is no piece
    subst ht
    rw [tokens_nil, List.infix_singleton_iff] at h
    obtain rfl := h.resolve_left hne
    rfl
  · obtain ⟨qs, hqs⟩ := exists_pieces t
    have hqs_ne : qs ≠ [] := by
      rintro rfl
      exact ht hqs.flatMap_written.symm
    obtain ⟨as, bs, heq⟩ := h
    rw [hqs.tokens_eq hqs_ne] at heq
    obtain ⟨ps, ps₃, rfl, hps, -⟩ := List.map_eq_append_iff.1 heq.symm
    obtain ⟨ps₁, ps₂, rfl, -, rfl⟩ := List.map_eq_append_iff.1 hps
    rw [flatMap_written_map_token]
    exact hqs.cut.tokens_eq (by simpa using hne)

/-- **Tokens do not depend on what stands around them.** Tokens in a row that are cut out of a
template are read as the same tokens, and so is each token alone. When a template is cut in two
between its tokens, both halves are read as before. -/
theorem tokens_contiguous (t : Text) :
    (∀ ts, ts ≠ [] → ts <:+: (parse t).tokens →
      (parse (ts.flatMap Token.written)).tokens = ts ∧
        Cursor.tokens (ts.flatMap Token.written) = .ok ts) ∧
    (∀ token ∈ (parse t).tokens, (parse token.written).tokens = [token] ∧
      Cursor.tokens token.written = .ok [token]) ∧
    ∀ ts us, ts ≠ [] → us ≠ [] → (parse t).tokens = ts ++ us → ∃ a b, t = a ++ b ∧
      (parse a).tokens = ts ∧ (parse b).tokens = us ∧
      Cursor.tokens a = .ok ts ∧ Cursor.tokens b = .ok us := by
  have read {ts : List Token} (hne : ts ≠ []) (h : ts <:+: (parse t).tokens) :
      (parse (ts.flatMap Token.written)).tokens = ts ∧
        Cursor.tokens (ts.flatMap Token.written) = .ok ts := by
    have hcut := tokens_cut hne h
    exact ⟨hcut, by rw [Cursor.tokens_eq, hcut]⟩
  refine ⟨fun ts => read, ?_, ?_⟩
  · intro token htoken
    obtain ⟨as, bs, heq⟩ := List.append_of_mem htoken
    have h := read (List.cons_ne_nil token []) ⟨as, bs, by rw [heq, List.append_assoc]; rfl⟩
    rwa [List.flatMap_singleton] at h
  · intro ts us hts hus heq
    obtain ⟨h₁, h₂⟩ := read hts (heq ▸ (List.prefix_append ts us).isInfix)
    obtain ⟨h₃, h₄⟩ := read hus (heq ▸ (List.suffix_append ts us).isInfix)
    refine ⟨_, _, ?_, h₁, h₃, h₂, h₄⟩
    rw [← List.flatMap_append, ← heq, written_parse]

/-- A tag between closing braces, and a tag that is not closed. -/
def hemmed : Text := '}' :: (Tag.enclose Tag.Form.braced.content ++ ['}', '}', '{', 'b'])

theorem tokens_hemmed : (parse hemmed).tokens =
    [.text ['}'] ['}'], .tag Tag.Form.braced.tag, .text ['}'] ['}', '}'], .verbatim ['{', 'b']] := by
  have h : Pieces hemmed [.run ['}'] ['}'], .closed Tag.Form.braced.content,
      .run ['}'] ['}', '}'], .unclosed ['b']] := by
    refine .cons (.run rfl (by decide) (.lone (by decide) .nil) (Or.inr ⟨_, rfl, by decide⟩)) <|
      .cons (.form .braced ['}', '}', '{', 'b']) <|
      .cons (.run rfl (by decide) (.closing .nil) (Or.inr ⟨['b'], rfl, by decide⟩)) <|
      .cons (.unclosed rfl (by decide) (List.all_eq_true.1 (by decide +kernel)) ?_) .nil
    rintro c ⟨⟩
  rw [h.tokens_eq (List.cons_ne_nil _ _)]
  simp only [List.map_cons, List.map_nil, Piece.token, Token.ofContent,
    Tag.Form.ofContent?_content]

/-- The tag with the braces behind it, the tag alone, and both halves. -/
theorem contiguous_hemmed :
    (parse (Tag.enclose Tag.Form.braced.content ++ ['}', '}'])).tokens =
      [.tag Tag.Form.braced.tag, .text ['}'] ['}', '}']] ∧
    (parse (Tag.enclose Tag.Form.braced.content)).tokens = [.tag Tag.Form.braced.tag] ∧
    ∃ a b, hemmed = a ++ b ∧
      (parse a).tokens = [.text ['}'] ['}'], .tag Tag.Form.braced.tag] ∧
      (parse b).tokens = [.text ['}'] ['}', '}'], .verbatim ['{', 'b']] := by
  obtain ⟨hrow, hmem, hcut⟩ := tokens_contiguous hemmed
  refine ⟨?_, ?_, ?_⟩
  · exact (hrow [.tag Tag.Form.braced.tag, .text ['}'] ['}', '}']] (List.cons_ne_nil _ _)
      ⟨[.text ['}'] ['}']], [.verbatim ['{', 'b']], tokens_hemmed.symm⟩).1
  · refine (hmem (.tag Tag.Form.braced.tag) ?_).1
    rw [tokens_hemmed]
    exact List.mem_cons_of_mem _ List.mem_cons_self
  · obtain ⟨a, b, hab, ha, hb, -, -⟩ := hcut [.text ['}'] ['}'], .tag Tag.Form.braced.tag]
      [.text ['}'] ['}', '}'], .verbatim ['{', 'b']] (List.cons_ne_nil _ _) (List.cons_ne_nil _ _)
      tokens_hemmed
    exact ⟨a, b, hab, ha, hb⟩

end Template

end MessageTemplate
