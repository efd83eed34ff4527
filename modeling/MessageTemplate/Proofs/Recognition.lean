import MessageTemplate.Proofs.Cursor

/-!
# Which pieces of a template are tags

A token is a tag exactly if it is written as a form of tags between braces, and then it is the tag
of that form.

* `Template.First.token_eq_tag_iff`: for a piece.
* `Template.exists_first_of_mem_tokens`: each token is that of a piece.
* `Tag.Form.position_eq_some_iff`: the position.
* **`Template.tokens_recognized`**: for all tokens of a template, and for a content alone.
-/

namespace MessageTemplate

theorem Tag.enclose_injective {a b : Text} (h : enclose a = enclose b) : a = b :=
  List.append_cancel_right (List.cons.inj h).2

theorem Token.ofContent_eq_tag_iff {content : Text} {tag : Tag} :
    ofContent content = .tag tag ↔ Tag.ofContent? content = some tag := by
  rw [ofContent]
  constructor
  · intro h
    split at h
    · rename_i h'
      cases h
      exact h'
    · cases h
  · intro h
    rw [h]

/-- The name has to consist of digits, and to denote a number within the limit. -/
theorem Tag.Form.position_eq_some_iff (f : Form) {n : Nat} :
    f.tag.position = some n ↔
      (∀ c ∈ f.name, c.isDigit = true) ∧ Numeral.value f.name = n ∧ n ≤ maxPosition := by
  rw [position, Numeral.readUpTo?_eq, Option.filter_eq_some_iff, Numeral.read?_eq_some_iff,
    decide_eq_true_iff]
  constructor
  · rintro ⟨⟨-, hdigit, hvalue⟩, hle⟩
    exact ⟨hdigit, hvalue, hle⟩
  · rintro ⟨hdigit, hvalue, hle⟩
    exact ⟨⟨f.isName.1, hdigit, hvalue⟩, hle⟩

namespace Template

/-! ## Pieces -/

theorem units_ne_enclose {m w r : Text} (h : Literal.Units m w r) (f : Tag.Form) :
    w ≠ Tag.enclose f.content := by
  intro he
  cases h with
  | nil => cases he
  | char h₁ => exact h₁ (List.cons.inj he).1
  | opening =>
    refine f.head?_content_append_ne_opening [] ?_
    rw [← (List.cons.inj he).2]
    rfl
  | closing => exact absurd (List.cons.inj he).1 (by decide)
  | lone => exact absurd (List.cons.inj he).1 (by decide)

theorem First.token_eq_tag_iff {t r : Text} {p : Piece} (h : First t p r) {tag : Tag} :
    p.token = .tag tag ↔ ∃ f : Tag.Form, p.written = Tag.enclose f.content ∧ f.tag = tag := by
  cases h with
  | run _ _ hu =>
    constructor
    · rintro ⟨⟩
    · rintro ⟨f, hf, -⟩
      exact absurd hf (units_ne_enclose hu f)
  | closed =>
    rw [Piece.token, Token.ofContent_eq_tag_iff, Tag.ofContent?_eq_some_iff]
    constructor
    · rintro ⟨f, rfl, rfl⟩
      exact ⟨f, rfl, rfl⟩
    · rintro ⟨f, hf, rfl⟩
      exact ⟨f, (Tag.enclose_injective hf).symm, rfl⟩
  | unclosed _ _ hc =>
    constructor
    · rintro ⟨⟩
    · rintro ⟨f, hf, -⟩
      have hmem := hc '}' (by
        rw [(List.cons.inj hf).2]
        exact List.mem_append_right _ List.mem_cons_self)
      rw [CharClass.not_tag_closing] at hmem
      cases hmem

theorem Pieces.exists_first {t : Text} {ps : List Piece} (h : Pieces t ps) {p : Piece}
    (hp : p ∈ ps) : ∃ s r, First s p r := by
  induction h with
  | nil => cases hp
  | cons hfirst _ ih =>
    rcases List.mem_cons.1 hp with rfl | hp
    · exact ⟨_, _, hfirst⟩
    · exact ih hp

/-! ## Tokens -/

theorem exists_first_of_mem_tokens {t : Text} {token : Token} (h : token ∈ (parse t).tokens) :
    token = .verbatim [] ∨ ∃ s p r, First s p r ∧ p.token = token := by
  rw [parse] at h
  split at h
  · exact Or.inl (List.mem_singleton.1 h)
  · obtain ⟨ps, hps⟩ := exists_pieces t
    rw [hps.scan_eq] at h
    obtain ⟨p, hp, rfl⟩ := List.mem_map.1 h
    obtain ⟨s, r, hfirst⟩ := hps.exists_first hp
    exact Or.inr ⟨s, p, r, hfirst, rfl⟩

theorem eq_tag_iff_of_mem_tokens {t : Text} {token : Token} (h : token ∈ (parse t).tokens)
    {tag : Tag} :
    token = .tag tag ↔ ∃ f : Tag.Form, token.written = Tag.enclose f.content ∧ f.tag = tag := by
  rcases exists_first_of_mem_tokens h with rfl | ⟨s, p, r, hfirst, rfl⟩
  · constructor
    · rintro ⟨⟩
    · rintro ⟨f, hf, -⟩
      cases hf
  · rw [p.written_token]
    exact hfirst.token_eq_tag_iff

theorem tokens_enclose (f : Tag.Form) :
    (parse (Tag.enclose f.content)).tokens = [.tag f.tag] := by
  have h : Pieces (Tag.enclose f.content ++ []) [.closed f.content] := .cons (.form f []) .nil
  rw [List.append_nil] at h
  rw [parse, if_neg (by simp [Tag.enclose]), h.scan_eq, List.map_singleton, Piece.token,
    Token.ofContent_eq_tag_iff.2 f.ofContent?_content]

theorem written_of_tokens_eq_singleton {t : Text} {token : Token}
    (h : (parse t).tokens = [token]) : token.written = t := by
  have hwritten := written_parse t
  rw [h] at hwritten
  simpa using hwritten

/-- **Tags are recognized by their form.** A token is a tag exactly if it is written as a form
between braces. That form is the only one, and the parts of the tag are the parts of the form. A
content between braces, and nothing else, is one tag exactly if it is that of a form. -/
theorem tokens_recognized (t : Text) :
    (Cursor.tokens t = .ok (parse t).tokens ∧ ∀ token ∈ (parse t).tokens,
      ((∃ tag, token = .tag tag) ↔
        ∃ f : Tag.Form, token.written = Tag.enclose f.content) ∧
      ∀ f : Tag.Form, token.written = Tag.enclose f.content →
        (∀ g : Tag.Form, token.written = Tag.enclose g.content → g = f) ∧
        ∃ tag, token = .tag tag ∧ tag.name = f.name ∧ tag.capture = f.capture ∧
          tag.alignment = f.column.map (fun a => ⟨a.side, Numeral.value a.digits⟩) ∧
          tag.format = f.format.map Subtype.val ∧
          ∀ n, tag.position = some n ↔
            (∀ c ∈ f.name, c.isDigit = true) ∧ Numeral.value f.name = n ∧ n ≤ 2147483647) ∧
    ∀ content : Text, (∃ tag, (parse (Tag.enclose content)).tokens = [.tag tag]) ↔
      ∃ f : Tag.Form, f.content = content := by
  refine ⟨⟨Cursor.tokens_eq t, fun token htoken => ⟨?_, fun f hf => ⟨fun g hg => ?_, ?_⟩⟩⟩,
    fun content => ?_⟩
  · constructor
    · rintro ⟨tag, h⟩
      obtain ⟨f, hf, -⟩ := (eq_tag_iff_of_mem_tokens htoken).1 h
      exact ⟨f, hf⟩
    · rintro ⟨f, hf⟩
      exact ⟨f.tag, (eq_tag_iff_of_mem_tokens htoken).2 ⟨f, hf, rfl⟩⟩
  · exact Tag.Form.content_injective (Tag.enclose_injective (hg.symm.trans hf))
  · have htag := (eq_tag_iff_of_mem_tokens htoken).2 ⟨f, hf, rfl⟩
    exact ⟨f.tag, htag, rfl, rfl, rfl, rfl, fun n => f.position_eq_some_iff⟩
  · constructor
    · rintro ⟨tag, htag⟩
      have hmem : Token.tag tag ∈ (parse (Tag.enclose content)).tokens := by
        rw [htag]
        exact List.mem_singleton_self _
      obtain ⟨f, hf, -⟩ := (eq_tag_iff_of_mem_tokens hmem).1 rfl
      rw [written_of_tokens_eq_singleton htag] at hf
      exact ⟨f, (Tag.enclose_injective hf).symm⟩
    · rintro ⟨f, rfl⟩
      exact ⟨f.tag, tokens_enclose f⟩

/-- A hint, a numeral as name, a sign, and delimiters inside the format. -/
theorem recognized_braced : ∃ tag,
    (parse (Tag.enclose Tag.Form.braced.content)).tokens = [.tag tag] ∧
    tag.name = ['0', '7'] ∧ tag.capture = .destructure ∧ tag.alignment = some ⟨.left, 9⟩ ∧
    tag.format = some [':', ',', '{'] ∧ tag.position = some 7 := by
  obtain ⟨⟨-, hforms⟩, hsingle⟩ := tokens_recognized (Tag.enclose Tag.Form.braced.content)
  obtain ⟨tag, htag⟩ := (hsingle _).2 ⟨.braced, rfl⟩
  have hmem : Token.tag tag ∈ (parse (Tag.enclose Tag.Form.braced.content)).tokens := by
    rw [htag]
    exact List.mem_singleton_self _
  obtain ⟨-, _, ⟨⟩, hname, hcapture, halignment, hformat, hposition⟩ :=
    (hforms _ hmem).2 .braced (written_of_tokens_eq_singleton htag)
  have hdigits : ∀ c ∈ Tag.Form.braced.name, c.isDigit = true := List.all_eq_true.1 (by decide)
  exact ⟨tag, htag, hname, hcapture, halignment, hformat,
    (hposition 7).2 ⟨hdigits, by decide, by decide⟩⟩

end Template

end MessageTemplate
