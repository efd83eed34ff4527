import MessageTemplate.Proofs.Cursor
import MessageTemplate.Template.Render

/-!
# Writing and reading templates

A template put together from texts and tags is read back as these, when the braces of the texts are
doubled. And whatever text is read, its tokens make it up again.

* `Template.Segment`: a text or a tag. `Segment.written`, `Segment.token`, `Segment.render`: how it
  is written, read, and rendered.
* `Literal.units_escape`: an escaped text is a row of units, whatever follows it.
* `Template.pieces_segments`: each segment is a piece.
* **`Template.parse_segments`**: the segments are read back, and nothing else is rendered.
* **`Template.parse_lossless`**: nothing is lost.
-/

namespace MessageTemplate

theorem Literal.escape_ne_nil {v : Text} (h : v ≠ []) : escape v ≠ [] := by
  intro he
  refine h ?_
  rw [← unescape_escape v, he]
  rfl

theorem Literal.units_escape (v r : Text) : Units v (escape v) r := by
  induction v with
  | nil => exact .nil
  | cons c v ih =>
    by_cases hc : c = '{' ∨ c = '}'
    · rw [escape, if_pos hc]
      rcases hc with rfl | rfl
      · exact .opening ih
      · exact .closing ih
    · rw [escape, if_neg hc]
      exact .char (not_or.1 hc).1 (not_or.1 hc).2 ih

namespace Template

/-- What a template is put together from. -/
inductive Segment where
  /-- A text that is not empty. -/
  | literal (meaning : Text) (ne_nil : meaning ≠ [])
  | tag (form : Tag.Form)

namespace Segment

/-- Whether a segment is a text that is meant as it is. -/
def isLiteral : Segment → Bool
  | literal .. => true
  | tag _ => false

/-- The braces of a text are doubled, those around a tag are not. -/
def written : Segment → Text
  | literal v _ => Literal.escape v
  | tag f => Tag.enclose f.content

/-- The token that a segment is parsed into. -/
def token : Segment → Token
  | literal v _ => .text v (Literal.escape v)
  | tag f => .tag f.tag

/-- The piece that a segment is written as. -/
def piece : Segment → Piece
  | literal v _ => .run v (Literal.escape v)
  | tag f => .closed f.content

/-- A text is rendered as it is. A tag is rendered as its value, or as itself without one. -/
def render (source : Source) (culture : Option Culture) : Segment → Rendering
  | literal v _ => .ofText v
  | tag f =>
    match source f.name with
    | some value => f.tag.renderValue value culture
    | none => .ofText (Tag.enclose f.content)

theorem token_piece (s : Segment) : s.piece.token = s.token := by
  cases s with
  | literal v h => rfl
  | tag f => rw [piece, Piece.token, Token.ofContent, f.ofContent?_content, token]

theorem render_token (source : Source) (culture : Option Culture) (s : Segment) :
    Token.render source culture s.token = s.render source culture := by
  cases s with
  | literal v h => rfl
  | tag f => rfl

end Segment

/-! ## Reading back -/

theorem stops_written {s : Segment} {segments : List Segment}
    (h : (s :: segments).IsChain fun a b => ¬(a.isLiteral = true ∧ b.isLiteral = true))
    (hs : s.isLiteral = true) : Literal.Stops (segments.flatMap Segment.written) := by
  cases segments with
  | nil => exact Or.inl rfl
  | cons b segments =>
    cases b with
    | literal v hv => exact absurd ⟨hs, rfl⟩ (List.isChain_cons_cons.1 h).1
    | tag f =>
      refine Or.inr ⟨f.content ++ '}' :: segments.flatMap Segment.written, ?_,
        f.head?_content_append_ne_opening _⟩
      rw [List.flatMap_cons, Segment.written, Tag.enclose, List.cons_append, List.append_assoc]
      rfl

theorem pieces_segments {segments : List Segment}
    (h : segments.IsChain fun a b => ¬(a.isLiteral = true ∧ b.isLiteral = true)) :
    Pieces (segments.flatMap Segment.written) (segments.map Segment.piece) := by
  induction segments with
  | nil => exact .nil
  | cons s segments ih =>
    refine .cons ?_ (ih h.tail)
    cases s with
    | literal v hv =>
      exact .run rfl (Literal.escape_ne_nil hv) (Literal.units_escape v _) (stops_written h rfl)
    | tag f => exact .form f _

theorem Segment.written_ne_nil (s : Segment) : s.written ≠ [] := by
  cases s with
  | literal v h => exact Literal.escape_ne_nil h
  | tag f => exact List.cons_ne_nil _ _

/-- **What is put together is read back.** -/
theorem parse_segments (segments : List Segment) (hne : segments ≠ [])
    (h : segments.IsChain fun a b => ¬(a.isLiteral = true ∧ b.isLiteral = true)) :
    Cursor.tokens (segments.flatMap Segment.written) = .ok (segments.map Segment.token) ∧
    (parse (segments.flatMap Segment.written)).tokens = segments.map Segment.token ∧
    ∀ (source : Source) (culture : Option Culture),
      (parse (segments.flatMap Segment.written)).render source culture =
        .concat (segments.map (Segment.render source culture)) ∧
      (parse (segments.flatMap Segment.written)).renderToText source culture =
        (Rendering.concat (segments.map (Segment.render source culture))).toText := by
  have hwritten : segments.flatMap Segment.written ≠ [] := by
    obtain ⟨s, rest, rfl⟩ := List.exists_cons_of_ne_nil hne
    rw [List.flatMap_cons]
    exact List.append_ne_nil_of_left_ne_nil s.written_ne_nil _
  have htokens : (parse (segments.flatMap Segment.written)).tokens =
      segments.map Segment.token := by
    rw [parse, if_neg (by simpa using hwritten), (pieces_segments h).scan_eq, List.map_map]
    exact List.map_congr_left fun s _ => s.token_piece
  refine ⟨by rw [Cursor.tokens_eq, htokens], htokens, fun source culture => ?_⟩
  have hrender : (parse (segments.flatMap Segment.written)).render source culture =
      .concat (segments.map (Segment.render source culture)) := by
    rw [render, htokens, List.map_map]
    exact congrArg _ (List.map_congr_left fun s _ => s.render_token source culture)
  exact ⟨hrender, by rw [renderToText_eq, hrender]⟩

/-- Braces on both sides of two tags. -/
def crowded : List Segment :=
  [.literal ['a', '{'] (by decide), .tag .braced, .tag .braced, .literal ['}', '{'] (by decide)]

theorem parse_crowded : crowded ≠ [] ∧
    (crowded.IsChain fun a b => ¬(a.isLiteral = true ∧ b.isLiteral = true)) ∧
    Cursor.tokens (crowded.flatMap Segment.written) =
      .ok [.text ['a', '{'] ['a', '{', '{'], .tag Tag.Form.braced.tag, .tag Tag.Form.braced.tag,
        .text ['}', '{'] ['}', '}', '{', '{']] ∧
    (parse (crowded.flatMap Segment.written)).renderToText (fun _ => none) none =
      .ok (['a', '{'] ++ Tag.enclose Tag.Form.braced.content ++
        Tag.enclose Tag.Form.braced.content ++ ['}', '{']) := by
  have hne : crowded ≠ [] := List.cons_ne_nil _ _
  have hchain : crowded.IsChain fun a b => ¬(a.isLiteral = true ∧ b.isLiteral = true) := by
    simp [crowded, Segment.isLiteral]
  obtain ⟨htokens, -, hrender⟩ := parse_segments crowded hne hchain
  exact ⟨hne, hchain, htokens, (hrender _ _).2⟩

/-- **Nothing is lost**, and reading by offsets meets no bad offset. -/
theorem parse_lossless (t : Text) :
    (parse t).tokens.flatMap Token.written = t ∧ (parse t).text = t ∧
      ∃ ts, Cursor.tokens t = .ok ts ∧ ts.flatMap Token.written = t :=
  ⟨written_parse t, rfl, _, Cursor.tokens_eq t, written_parse t⟩

end Template

end MessageTemplate
