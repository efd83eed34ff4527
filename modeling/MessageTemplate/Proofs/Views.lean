import MessageTemplate.Proofs.Cutting
import MessageTemplate.Proofs.Recognition

/-!
# Tags by name and tags by position

The tags of a template are all bound by position or all by name. They are bound by position if every
name is a numeral in ASCII digits that denotes a position, and one other name is enough to bind them
by name.

* `Tag.IsNumbered`: the name of a tag is such a numeral.
* `Template.exists_form_of_mem_tags`: each tag of a template is that of a form.
  `Template.position_of_mem_tags`: its position.
* `Template.isPositional_iff`: when all tags have a position.
* **`Template.views_partition`**: one of the two views lists all tags, and the other none.
-/

namespace MessageTemplate

/-- The name consists of ASCII digits only, and denotes at most the largest position. -/
def Tag.IsNumbered (tag : Tag) : Prop :=
  (∀ c ∈ tag.name, c.isDigit = true) ∧ Numeral.value tag.name ≤ 2147483647

/-- The characters of the name are gone through, and not all that there are. -/
instance : DecidablePred Tag.IsNumbered := fun _ =>
  @instDecidableAnd _ _ (List.decidableBAll _ _) (Nat.decLe _ _)

namespace Template

theorem mem_tags_iff {t : Template} {tag : Tag} : tag ∈ t.tags ↔ .tag tag ∈ t.tokens := by
  rw [tags, List.mem_filterMap]
  constructor
  · rintro ⟨token, htoken, htag⟩
    cases token with
    | text => cases htag
    | tag tag' =>
      cases htag
      exact htoken
  · exact fun h => ⟨_, h, rfl⟩

section

variable {t : Text}

theorem exists_form_of_mem_tags {tag : Tag} (h : tag ∈ (parse t).tags) :
    ∃ f : Tag.Form, f.tag = tag := by
  obtain ⟨f, -, hf⟩ := (eq_tag_iff_of_mem_tokens (mem_tags_iff.1 h)).1 rfl
  exact ⟨f, hf⟩

theorem position_of_mem_tags {tag : Tag} (h : tag ∈ (parse t).tags) {n : Nat} :
    tag.position = some n ↔ tag.IsNumbered ∧ Numeral.value tag.name = n := by
  obtain ⟨f, rfl⟩ := exists_form_of_mem_tags h
  rw [f.position_eq_some_iff]
  constructor
  · rintro ⟨hdigit, rfl, hle⟩
    exact ⟨⟨hdigit, hle⟩, rfl⟩
  · rintro ⟨⟨hdigit, hle⟩, rfl⟩
    exact ⟨hdigit, rfl, hle⟩

theorem isPositional_iff : (parse t).IsPositional ↔ ∀ tag ∈ (parse t).tags, tag.IsNumbered := by
  refine forall₂_congr fun tag htag => ?_
  rw [Option.isSome_iff_exists]
  constructor
  · rintro ⟨n, hn⟩
    exact ((position_of_mem_tags htag).1 hn).1
  · exact fun h => ⟨_, (position_of_mem_tags htag).2 ⟨h, rfl⟩⟩

end

/-- **Tags are bound all by position or all by name.** Without tags there is neither view. Otherwise
exactly one of the two lists all tags, in order of appearance: that of the positions if all tags are
numbered, and then the position of each is the number that its name denotes. -/
theorem views_partition (t : Text) :
    Cursor.tokens t = .ok (parse t).tokens ∧
      ((parse t).tokens.filterMap Token.tag? = [] →
        (parse t).named? = none ∧ (parse t).positional? = none) ∧
      ∀ tags, (parse t).tokens.filterMap Token.tag? = tags → tags ≠ [] →
        ((parse t).named? = some tags ∧ (parse t).positional? = none ∨
          (parse t).named? = none ∧ (parse t).positional? = some tags) ∧
        ((parse t).positional? = some tags ↔ ∀ tag ∈ tags, tag.IsNumbered) ∧
        ∀ view, (parse t).positional? = some view →
          ∀ tag ∈ view, tag.position = some (Numeral.value tag.name) := by
  have hnumbered := @isPositional_iff t
  refine ⟨Cursor.tokens_eq t, fun hnone => ?_, ?_⟩
  · have hempty : (parse t).tags.isEmpty = true := List.isEmpty_iff.2 hnone
    exact ⟨if_pos (.inl hempty), if_pos (.inl hempty)⟩
  · rintro _ rfl hne
    change (parse t).tags ≠ [] at hne
    have hsome : ¬(parse t).tags.isEmpty = true := by rwa [List.isEmpty_iff]
    by_cases h : (parse t).IsPositional
    · have hnamed : (parse t).named? = none := if_pos (.inr h)
      have hpositional : (parse t).positional? = some (parse t).tags :=
        if_neg (not_or.2 ⟨hsome, not_not.2 h⟩)
      refine ⟨.inr ⟨hnamed, hpositional⟩, iff_of_true hpositional (hnumbered.1 h), ?_⟩
      intro view hview tag htag
      rw [hpositional, Option.some.injEq] at hview
      subst hview
      exact (position_of_mem_tags htag).2 ⟨hnumbered.1 h tag htag, rfl⟩
    · have hnamed : (parse t).named? = some (parse t).tags := if_neg (not_or.2 ⟨hsome, h⟩)
      have hpositional : (parse t).positional? = none := if_pos (.inr h)
      refine ⟨.inl ⟨hnamed, hpositional⟩, ?_, ?_⟩
      · rw [hpositional]
        exact iff_of_false nofun fun hall => h (hnumbered.2 hall)
      · rw [hpositional]
        exact nofun

theorem tokens_pair (f g : Tag.Form) :
    (parse (Tag.enclose f.content ++ Tag.enclose g.content)).tokens = [.tag f.tag, .tag g.tag] := by
  have h : Pieces (Tag.enclose f.content ++ (Tag.enclose g.content ++ []))
      [.closed f.content, .closed g.content] := .cons (.form f _) (.cons (.form g _) .nil)
  rw [List.append_nil] at h
  rw [h.tokens_eq (List.cons_ne_nil _ _)]
  simp only [List.map_cons, List.map_nil, Piece.token, Token.ofContent,
    Tag.Form.ofContent?_content]

end Template

/-- A tag that is named by digits: the largest position, with a zero in front. -/
def Tag.Form.last : Form :=
  ⟨.default, "02147483647".toList, by decide +kernel, none, none⟩

/-- Two positions, of which one has a hint and a column. -/
theorem Template.views_positions :
    (parse (Tag.enclose Tag.Form.braced.content ++ Tag.enclose Tag.Form.last.content)).named? =
        none ∧
      (parse (Tag.enclose Tag.Form.braced.content ++ Tag.enclose Tag.Form.last.content)).positional? =
        some [Tag.Form.braced.tag, Tag.Form.last.tag] ∧
      Tag.Form.braced.tag.position = some 7 ∧ Tag.Form.last.tag.position = some 2147483647 := by
  have htags := congrArg (List.filterMap Token.tag?) (tokens_pair .braced .last)
  obtain ⟨hview, hpositional, hposition⟩ := (views_partition _).2.2 _ htags (List.cons_ne_nil _ _)
  have hsome := hpositional.2 (by decide +kernel)
  have hnamed := (hview.resolve_left fun h => nomatch h.2.symm.trans hsome).1
  refine ⟨hnamed, hsome, ?_, ?_⟩
  · exact hposition _ hsome _ List.mem_cons_self
  · exact hposition _ hsome _ (List.mem_cons_of_mem _ List.mem_cons_self)

end MessageTemplate
