import MessageTemplate.Proofs.Recognition
import MessageTemplate.Proofs.TextDelivery

/-!
# Values in columns

An alignment puts spaces beside what a tag shows, up to the width of its column, and a hint adds
nothing. Widths count characters, and a text that is too wide for its column is not cut.

* `Alignment.Form.Places`: a text in a column as it is written. `Alignment.Form.places_place`: this
  is where the text of a value is put.
* `Tag.Form.bare`: a form without hint and column. `Tag.Form.content_bare`: a name and a format.
* `Template.renderToText_enclose`: a template of one tag shows what the tag shows.
  `Template.deliver_unlimited`: a sink without limits receives it.
* **`Template.renderToText_column`**: a tag with a hint and a column shows what it shows without
  them, in that column.
-/

namespace MessageTemplate

/-! ## Columns -/

namespace Alignment

theorem place_of_le {a : Alignment} {t : Text} (h : a.width ≤ t.length) : a.place t = t := by
  have hpadding : a.padding t.length = 0 := Nat.sub_eq_zero_of_le h
  unfold place
  rw [hpadding]
  cases a.side
  · exact List.append_nil t
  · rfl

/-- The text `placed` is the text `t` in a column: `t` itself if it is wide enough, and otherwise
`t` with as many spaces as are missing. -/
structure Form.Places (f : Form) (t placed : Text) : Prop where
  of_le : Numeral.value f.digits ≤ t.length → placed = t
  of_left : f.side = .left → t.length < Numeral.value f.digits →
    placed = t ++ List.replicate (Numeral.value f.digits - t.length) ' '
  of_right : f.side = .right → t.length < Numeral.value f.digits →
    placed = List.replicate (Numeral.value f.digits - t.length) ' ' ++ t
  length_eq : placed.length = max (Numeral.value f.digits) t.length

theorem Form.places_place (f : Form) (t : Text) : f.Places t (f.alignment.place t) where
  of_le h := place_of_le h
  of_left hside _ := by rw [place, alignment, hside, padding]
  of_right hside _ := by rw [place, alignment, hside, padding]
  length_eq := f.alignment.length_place t

end Alignment

/-! ## Tags -/

namespace Tag

/-- The form without its hint and its column. -/
def Form.bare (f : Form) : Form := { f with capture := .default, column := none }

theorem Form.content_bare (f : Form) :
    f.bare.content = f.name ++ f.format.elim [] (':' :: ·.val) := by
  rw [content, head, hinted]
  simp [bare, Capture.hint]

end Tag

theorem Rendering.text?_eq_some_iff {r : Rendering} {t : Text} :
    r.text? = some t ↔ r.complete = true ∧ r.content = t := by
  unfold text?
  cases r.complete <;> simp

section

variable {source : Source} {culture : Option Culture} {value : Value} {t : Text}

theorem Token.output_tag {tag : Tag} (bound : source tag.name = some value)
    (renders : (value.render tag.format culture).text? = some t) :
    (Token.tag tag).fails source culture = false ∧
      (Token.tag tag).output source culture = tag.alignment.elim t (·.place t) := by
  obtain ⟨hcomplete, rfl⟩ := Rendering.text?_eq_some_iff.1 renders
  constructor
  · simp [fails, bound, hcomplete]
  · cases halignment : tag.alignment <;> simp [output, bound, halignment, hcomplete]

namespace Template

theorem renderToText_enclose (f : Tag.Form) (bound : source f.name = some value)
    (renders : (value.render (f.format.map Subtype.val) culture).text? = some t) :
    (parse (Tag.enclose f.content)).renderToText source culture =
      .ok (f.column.elim t (·.alignment.place t)) := by
  obtain ⟨hfails, houtput⟩ := @Token.output_tag source culture value t f.tag bound renders
  rw [renderToText_eq_ok_iff, fails, output, tokens_enclose, List.any_cons, List.any_nil, hfails,
    Token.outputs, Token.outputs, houtput, hfails]
  refine ⟨rfl, ?_⟩
  show (f.column.map Alignment.Form.alignment).elim t (·.place t) ++ [] = _
  rw [List.append_nil, Option.elim_map]
  rfl

theorem deliver_unlimited {template : Template}
    (h : template.renderToText source culture = .ok t) :
    (template.deliver source culture { limit := none }).2 = .ok () ∧
      (template.deliver source culture { limit := none }).1.text = t := by
  obtain ⟨hfails, houtput⟩ := (renderToText_eq_ok_iff source culture template).1 h
  have hok := (deliver_eq_ok_iff source culture template none).2 ⟨hfails, nofun⟩
  exact ⟨hok, (text_deliver source culture hok).trans houtput⟩

/-- **A tag in a column shows what it shows without one, and spaces.** A name is bound to a value
that does not fail in the format of the tag. Without a hint and a column, the tag shows the text of
the value. With a hint it shows the same, and with a column the same text in that column, also to a
sink that takes it in pieces. -/
theorem renderToText_column (f : Tag.Form) (bound : source f.name = some value)
    (renders : (value.render (f.format.map Subtype.val) culture).text? = some t) :
    (parse (Tag.enclose (f.name ++ f.format.elim [] (':' :: ·.val)))).renderToText source culture =
        .ok t ∧
      ∃ shown, (parse (Tag.enclose f.content)).renderToText source culture = .ok shown ∧
        ((parse (Tag.enclose f.content)).deliver source culture { limit := none }).2 = .ok () ∧
        ((parse (Tag.enclose f.content)).deliver source culture { limit := none }).1.text = shown ∧
        (f.column = none → shown = t) ∧
        ∀ column, f.column = some column → column.Places t shown := by
  have hshown := renderToText_enclose f bound renders
  obtain ⟨hok, htext⟩ := deliver_unlimited hshown
  refine ⟨?_, _, hshown, hok, htext, fun hnone => ?_, fun column hcolumn => ?_⟩
  · rw [← f.content_bare]
    exact renderToText_enclose f.bare bound renders
  · rw [hnone]
    rfl
  · rw [hcolumn]
    exact column.places_place t

end Template

end

/-- A column that is wider than one piece of spaces, for a format and with a hint. -/
def Tag.Form.wide : Tag.Form where
  capture := .stringify
  name := ['n']
  isName := by decide +kernel
  column := some ⟨.left, ['0', '4', '0'], List.all_eq_true.1 (by decide), by decide, by decide⟩
  format := some ⟨['l'], by decide +kernel⟩

/-- Two characters of two bytes each. -/
theorem Template.column_multibyte :
    (parse (Tag.enclose ['n', ':', 'l'])).renderToText
        (fun _ => some (Scalar.text ['ä', 'ö']).toValue) none = .ok ['ä', 'ö'] ∧
      ∃ shown, (parse (Tag.enclose Tag.Form.wide.content)).renderToText
          (fun _ => some (Scalar.text ['ä', 'ö']).toValue) none = .ok shown ∧
        shown = ['ä', 'ö'] ++ List.replicate 38 ' ' ∧ shown.length = 40 := by
  have hrenders : ((Scalar.text ['ä', 'ö']).toValue.render (some ['l']) none).text? =
      some ['ä', 'ö'] := rfl
  obtain ⟨hplain, shown, hshown, -, -, -, hcolumn⟩ := @renderToText_column
    (fun _ => some (Scalar.text ['ä', 'ö']).toValue) none _ _ .wide rfl hrenders
  have hplaces := hcolumn _ rfl
  have hleft := hplaces.of_left rfl (by decide)
  have hwidth := hplaces.length_eq
  exact ⟨hplain, shown, hshown, hleft, hwidth⟩

end MessageTemplate
