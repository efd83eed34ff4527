import Mathlib.Algebra.GroupWithZero.Nat
import Mathlib.Algebra.Order.BigOperators.Group.List
import Mathlib.Algebra.Order.Group.Nat
import MessageTemplate.Proofs.Cutting
import MessageTemplate.Proofs.Recognition
import MessageTemplate.Proofs.TextDelivery

/-!
# Templates with nothing bound

A template whose names are not bound shows itself, except that doubled braces in literal text become
single ones. Braces in a tag, in a text that is not quite a tag, and in a tag that is not closed stay
as they are.

* `Literal.doubled`: the doubled braces of a text. `Literal.length_unescape_add_doubled`: each of them
  costs a character. `Literal.doubled_eq_zero`: they need two braces side by side.
* `Token.unbound`: what a token shows. `Token.collapsed`: the doubled braces that it shows as one.
* `Template.meaning_of_mem_tokens`: a text stands for itself, or for itself without doubled braces.
  `Template.length_unbound_add_collapsed`, `Template.unbound_eq_written_iff`: the difference to its
  written form.
* **`Template.renderToText_unbound`**: the text of a template with nothing bound.
-/

namespace MessageTemplate

/-! ## Doubled braces -/

namespace Literal

/-- The number of doubled braces, read from the left. -/
def doubled : Text → Nat
  | '{' :: '{' :: cs => doubled cs + 1
  | '}' :: '}' :: cs => doubled cs + 1
  | _ :: cs => doubled cs
  | [] => 0

theorem length_unescape_add_doubled (t : Text) : (unescape t).length + doubled t = t.length := by
  fun_induction doubled t with
  | case1 cs ih | case2 cs ih =>
    rw [unescape, List.length_cons, List.length_cons, List.length_cons]
    omega
  | case3 c cs h₁ h₂ ih =>
    rw [unescape.eq_3 _ _ h₁ h₂, List.length_cons, List.length_cons]
    omega
  | case4 => rfl

theorem unescape_eq_self {t : Text} (h : doubled t = 0) : unescape t = t := by
  fun_induction doubled t with
  | case1 | case2 => cases h
  | case3 c cs h₁ h₂ ih => rw [unescape.eq_3 _ _ h₁ h₂, ih h]
  | case4 => rfl

theorem doubled_eq_zero {t : Text} (opening : ¬['{', '{'] <:+: t) (closing : ¬['}', '}'] <:+: t) :
    doubled t = 0 := by
  fun_induction doubled t with
  | case1 cs => exact absurd (List.prefix_append ['{', '{'] cs).isInfix opening
  | case2 cs => exact absurd (List.prefix_append ['}', '}'] cs).isInfix closing
  | case3 c cs _ _ ih =>
    have htail : cs <:+: c :: cs := (List.suffix_cons c cs).isInfix
    exact ih (fun h => opening (h.trans htail)) fun h => closing (h.trans htail)
  | case4 => rfl

end Literal

/-! ## Tokens -/

namespace Token

/-- What a token shows if its name is not bound. -/
def unbound : Token → Text
  | text meaning _ => meaning
  | tag t => t.written

/-- The doubled braces that a token shows as one. A text that stands for itself has none. -/
def collapsed : Token → Nat
  | text meaning written => if meaning = written then 0 else Literal.doubled written
  | tag _ => 0

variable {source : Source} {culture : Option Culture}

theorem output_eq_unbound {token : Token}
    (h : ∀ tag, token = .tag tag → source tag.name = none) :
    token.fails source culture = false ∧ token.output source culture = token.unbound := by
  cases token with
  | text meaning written => exact ⟨rfl, rfl⟩
  | tag tag => simp [fails, output, unbound, h tag rfl]

end Token

namespace Template

theorem meaning_of_mem_tokens {t meaning written : Text}
    (h : .text meaning written ∈ (parse t).tokens) :
    meaning = written ∨ meaning = Literal.unescape written := by
  rcases exists_first_of_mem_tokens h with heq | ⟨s, p, r, hfirst, hp⟩
  · cases heq
    exact .inl rfl
  · -- only a run has its doubled braces undone
    cases hfirst with
    | run _ _ hunits =>
      cases hp
      exact .inr hunits.unescape_eq.symm
    | unclosed =>
      cases hp
      exact .inl rfl
    | @closed content =>
      rw [Piece.token, Token.ofContent] at hp
      cases hcontent : Tag.ofContent? content <;> rw [hcontent] at hp <;> cases hp
      exact .inl rfl

section

variable {t : Text} {token : Token} (h : token ∈ (parse t).tokens)
include h

/-- Every doubled brace that a token shows as one costs a character. -/
theorem length_unbound_add_collapsed :
    token.unbound.length + token.collapsed = token.written.length := by
  cases token with
  | tag tag => rfl
  | text meaning written =>
    rw [Token.unbound, Token.collapsed, Token.written]
    split
    · rename_i heq
      rw [heq, Nat.add_zero]
    · rename_i hne
      rw [(meaning_of_mem_tokens h).resolve_left hne, Literal.length_unescape_add_doubled]

theorem unbound_eq_written_iff : token.unbound = token.written ↔ token.collapsed = 0 := by
  have hlength := length_unbound_add_collapsed h
  constructor
  · intro heq
    rw [heq] at hlength
    omega
  · intro hzero
    cases token with
    | tag tag => rfl
    | text meaning written =>
      rw [Token.collapsed] at hzero
      split at hzero
      · assumption
      · rename_i hne
        rw [Token.unbound, (meaning_of_mem_tokens h).resolve_left hne,
          Literal.unescape_eq_self hzero, Token.written]

end

theorem length_flatMap_unbound (t : Text) :
    ((parse t).tokens.flatMap Token.unbound).length +
      ((parse t).tokens.map Token.collapsed).sum = t.length := by
  calc ((parse t).tokens.flatMap Token.unbound).length + ((parse t).tokens.map Token.collapsed).sum
      = ((parse t).tokens.map fun token => token.unbound.length + token.collapsed).sum := by
        rw [List.length_flatMap, List.sum_map_add]
    _ = ((parse t).tokens.map fun token => token.written.length).sum := by
        rw [List.map_congr_left fun token => length_unbound_add_collapsed]
    _ = t.length := by rw [← List.length_flatMap, written_parse]

theorem flatMap_unbound_eq_iff (t : Text) :
    (parse t).tokens.flatMap Token.unbound = t ↔
      ∀ token ∈ (parse t).tokens, token.unbound = token.written := by
  constructor
  · intro heq token htoken
    have hlength := length_flatMap_unbound t
    rw [heq, Nat.add_eq_left, List.sum_eq_zero_iff] at hlength
    exact (unbound_eq_written_iff htoken).2 (hlength _ (List.mem_map_of_mem htoken))
  · intro hwritten
    rw [List.flatMap_congr hwritten, written_parse]

theorem collapsed_eq_zero {t : Text} (opening : ¬['{', '{'] <:+: t)
    (closing : ¬['}', '}'] <:+: t) {token : Token} (h : token ∈ (parse t).tokens) :
    token.collapsed = 0 := by
  cases token with
  | tag tag => rfl
  | text meaning written =>
    have hinfix : written <:+: t := by
      have hpart := List.infix_of_mem_flatten (List.mem_map_of_mem (f := Token.written) h)
      rwa [← List.flatMap_def, written_parse] at hpart
    rw [Token.collapsed, Literal.doubled_eq_zero (fun h => opening (h.trans hinfix))
      fun h => closing (h.trans hinfix), ite_self]

/-- **A template with nothing bound shows itself** up to doubled braces, whatever the culture is. It
shows the texts of its tokens and the written forms of its tags. This is shorter than the template by
one character for each doubled brace of its texts, and it is the template itself exactly if every text
stands for itself, as it does if no two braces of one kind are next to each other. -/
theorem renderToText_unbound (t : Text) {source : Source} (culture : Option Culture)
    (unbound : ∀ tag ∈ (parse t).tags, source tag.name = none) :
    Cursor.tokens t = .ok (parse t).tokens ∧
      ∃ shown, (parse t).renderToText source culture = .ok shown ∧
        shown = (parse t).tokens.flatMap Token.unbound ∧
        shown.length + ((parse t).tokens.map Token.collapsed).sum = t.length ∧
        (shown = t ↔ ∀ meaning written, .text meaning written ∈ (parse t).tokens →
          written = meaning) ∧
        (¬['{', '{'] <:+: t → ¬['}', '}'] <:+: t → shown = t) := by
  have houtput (token : Token) (htoken : token ∈ (parse t).tokens) :
      token.fails source culture = false ∧ token.output source culture = token.unbound := by
    refine Token.output_eq_unbound fun tag htag => unbound tag ?_
    exact List.mem_filterMap.2 ⟨token, htoken, by rw [htag]; rfl⟩
  have hfails : (parse t).fails source culture = false :=
    List.any_eq_false.2 fun token htoken => by simp [(houtput token htoken).1]
  have hshown : (parse t).output source culture = (parse t).tokens.flatMap Token.unbound := by
    rw [output_eq_flatMap source culture _ hfails]
    exact List.flatMap_congr fun token htoken => (houtput token htoken).2
  refine ⟨Cursor.tokens_eq t, _, (renderToText_eq_ok_iff source culture _).2 ⟨hfails, hshown⟩, rfl,
    length_flatMap_unbound t, ?_, fun opening closing => ?_⟩
  · rw [flatMap_unbound_eq_iff]
    constructor
    · intro h meaning written htext
      exact (h _ htext).symm
    · intro h token htoken
      cases token with
      | text meaning written => exact (h meaning written htoken).symm
      | tag tag => rfl
  · rw [flatMap_unbound_eq_iff]
    exact fun token htoken =>
      (unbound_eq_written_iff htoken).2 (collapsed_eq_zero opening closing htoken)

/-- Doubled braces in literal text and in a tag that is not closed, and a tag named `07`. -/
def halfOpen : Text :=
  ['}', '}', '{', 'a', '{', '{', '<', '{', '{'] ++ Tag.enclose Tag.Form.braced.content

theorem tokens_halfOpen : (parse halfOpen).tokens =
    [.text ['}'] ['}', '}'], .verbatim ['{', 'a', '{', '{'], .text ['<', '{'] ['<', '{', '{'],
      .tag Tag.Form.braced.tag] := by
  have h : Pieces halfOpen [.run ['}'] ['}', '}'], .unclosed ['a', '{', '{'],
      .run ['<', '{'] ['<', '{', '{'], .closed Tag.Form.braced.content] := by
    refine .cons (.run rfl (by decide) (.closing .nil) (Or.inr ⟨_, rfl, by decide⟩)) <|
      .cons (.unclosed rfl (by decide) (List.all_eq_true.1 (by decide +kernel)) ?_) <|
      .cons (.run rfl (by decide) (.char (by decide) (by decide) (.opening .nil))
        (Or.inr ⟨_, rfl, by decide⟩)) <|
      .cons (.form .braced []) .nil
    rintro c ⟨⟩
    exact ⟨by decide +kernel, by decide⟩
  rw [h.tokens_eq (List.cons_ne_nil _ _)]
  simp only [List.map_cons, List.map_nil, Piece.token, Token.ofContent,
    Tag.Form.ofContent?_content]

/-- A value for `7` is none for `07`. -/
theorem unbound_halfOpen :
    (∀ tag ∈ (parse halfOpen).tags, Source.ofList [(['7'], Scalar.null.toValue)] tag.name = none) ∧
      (parse halfOpen).renderToText (.ofList [(['7'], Scalar.null.toValue)]) none =
        .ok (['}', '{', 'a', '{', '{', '<', '{'] ++ Tag.enclose Tag.Form.braced.content) := by
  have hunbound : ∀ tag ∈ (parse halfOpen).tags,
      Source.ofList [(['7'], Scalar.null.toValue)] tag.name = none := by
    rw [tags, tokens_halfOpen]
    exact List.forall_mem_singleton.2 rfl
  obtain ⟨-, shown, hshown, rfl, -⟩ := renderToText_unbound halfOpen none hunbound
  refine ⟨hunbound, ?_⟩
  rw [hshown, tokens_halfOpen]
  rfl

end Template

end MessageTemplate
