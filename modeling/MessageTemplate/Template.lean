import MessageTemplate.Token

/-!
# Templates

A template is a text read as a sequence of tokens. Reading never fails: what cannot be a tag stays
text, and the written forms of the tokens always make up the text again.

* `Template.scanTag`: the token that an opening brace begins, and what follows it. It extends over
  the longest run of characters that a tag may hold; unless a closing brace follows them, it is a
  text.
* `Template.scan`: the tokens of a text that is not empty. **`Template.written_scan`**: the way they
  are written makes up the text.
* `Template.parse`: the template of a text.
* `Template.named?`, `Template.positional?`: the tags, if they are to be bound by name, and if they
  are to be bound by position.
-/

namespace MessageTemplate

/-- A text and its tokens. -/
structure Template where
  text : Text
  tokens : List Token
  deriving Repr, BEq

namespace Template

/-- The token that an opening brace begins, given what follows the brace. -/
def scanTag (cs : Text) : Token × Text :=
  match cs.dropWhile CharClass.isTag with
  | '}' :: rest => (Token.ofContent (cs.takeWhile CharClass.isTag), rest)
  | rest => (Token.verbatim ('{' :: cs.takeWhile CharClass.isTag), rest)

theorem length_dropWhile_le (p : Char → Bool) (t : Text) : (t.dropWhile p).length ≤ t.length :=
  (List.dropWhile_sublist p).length_le

theorem length_scanTag_le (cs : Text) : (scanTag cs).2.length ≤ cs.length := by
  have h := length_dropWhile_le CharClass.isTag cs
  unfold scanTag
  split
  · rename_i rest heq
    rw [heq] at h
    exact Nat.le_of_succ_le h
  · exact h

theorem written_scanTag (cs : Text) : (scanTag cs).1.written ++ (scanTag cs).2 = '{' :: cs := by
  have h := List.takeWhile_append_dropWhile (p := CharClass.isTag) (l := cs)
  unfold scanTag
  split
  · rename_i rest heq
    rw [heq] at h
    rw [Token.written_ofContent, Tag.enclose, List.cons_append, List.append_assoc]
    exact congrArg _ h
  · exact congrArg _ h

/-- The token for the literal text at the front, if there is any. -/
def front (t : Text) : List Token :=
  if (Literal.span t).1.isEmpty then [] else [Token.literal (Literal.span t).1]

/-- The tokens of a text: literal text and tags in turn. No token is empty. -/
def scan (t : Text) : List Token :=
  match _h : (Literal.span t).2 with
  | [] => front t
  | _ :: cs => front t ++ (scanTag cs).1 :: scan (scanTag cs).2
termination_by t.length
decreasing_by
  have h₁ := Literal.length_span_snd_le t
  have h₂ := length_scanTag_le cs
  rw [_h, List.length_cons] at h₁
  omega

theorem written_front (t : Text) : (front t).flatMap Token.written = (Literal.span t).1 := by
  unfold front
  split
  · simp_all
  · simp [Token.literal, Token.written]

/-- **Nothing is lost.** -/
theorem written_scan (t : Text) : (scan t).flatMap Token.written = t := by
  fun_induction scan t with
  | case1 t h =>
    have := Literal.span_append t
    rw [h, List.append_nil] at this
    rw [written_front, this]
  | case2 t b cs h ih =>
    have hs := Literal.span_append t
    have hb : b = '{' := by
      rcases Literal.span_snd t with h' | ⟨_, h'⟩
      · simp [h] at h'
      · exact (List.cons.inj (h.symm.trans h')).1
    rw [List.flatMap_append, written_front, List.flatMap_cons, ih, written_scanTag, ← hb, ← h, hs]

/-- The template of a text; the empty text is one token. -/
def parse (t : Text) : Template := ⟨t, if t.isEmpty then [Token.verbatim []] else scan t⟩

/-- The tags in order of appearance. -/
def tags (t : Template) : List Tag := t.tokens.filterMap Token.tag?

/-- Whether every tag has a position. -/
def IsPositional (t : Template) : Prop := ∀ tag ∈ t.tags, tag.position.isSome = true

instance (t : Template) : Decidable t.IsPositional :=
  inferInstanceAs (Decidable (∀ tag ∈ t.tags, tag.position.isSome = true))

/-- The tags, if there are any and at least one has no position. -/
def named? (t : Template) : Option (List Tag) :=
  if t.tags.isEmpty ∨ t.IsPositional then none else some t.tags

/-- The tags, if there are any and every one has a position. -/
def positional? (t : Template) : Option (List Tag) :=
  if t.tags.isEmpty ∨ ¬t.IsPositional then none else some t.tags

end Template

end MessageTemplate
