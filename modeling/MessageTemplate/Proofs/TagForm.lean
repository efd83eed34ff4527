import MessageTemplate.Tag

/-!
# The written forms of tags

What may stand between the braces of a tag, said by how it is put together: a hint, a name, a comma
and a column, a colon and a format. Reading accepts exactly these contents.

* `Alignment.Form`, `Tag.Form`: the parts of a tag as they are written. The bounds on the parts are
  fields, so every form is well-formed.
* **`Tag.ofContent?_eq_some_iff`**: the contents that are read, and what is read off them.
* **`Tag.Form.content_injective`**: a content comes from one form only.
* `Tag.Form.isTag_of_mem_content`, `Tag.Form.head?_content_ne_opening`: a content fits between two
  braces, and no brace before it is doubled.
-/

namespace MessageTemplate

/-! ## Columns -/

/-- What stands in front of a width: a minus sign for the left side. -/
def Side.sign : Side → Text
  | left => ['-']
  | right => []

namespace Alignment

/-- A column as it is written: decimal digits, with any number of leading zeros. -/
structure Form where
  side : Side
  digits : Text
  isDigit_of_mem : ∀ c ∈ digits, c.isDigit = true
  width_pos : 0 < Numeral.value digits
  width_le : Numeral.value digits ≤ maxWidth

namespace Form

/-- A column as it is written. -/
def written (f : Form) : Text := f.side.sign ++ f.digits

/-- The column that is meant. -/
def alignment (f : Form) : Alignment := ⟨f.side, Numeral.value f.digits⟩

theorem notMem_digits (f : Form) {c : Char} (hc : c.isDigit = false) : c ∉ f.digits := by
  intro h
  rw [f.isDigit_of_mem c h] at hc
  cases hc

theorem notMem_written (f : Form) {c : Char} (hc : c.isDigit = false) (hm : c ≠ '-') :
    c ∉ f.written := by
  rw [written, List.mem_append, not_or]
  refine ⟨?_, f.notMem_digits hc⟩
  cases f.side with
  | left => simpa [Side.sign] using hm
  | right => simp [Side.sign]

theorem isAlignment_of_mem_written (f : Form) {c : Char} (h : c ∈ f.written) :
    CharClass.isAlignment c = true := by
  rw [CharClass.isAlignment, Bool.or_eq_true, beq_iff_eq]
  by_cases hm : c = '-'
  · exact Or.inr hm
  · refine Or.inl ?_
    rw [← Bool.not_eq_false]
    exact fun hd => f.notMem_written hd hm h

theorem written_injective {f g : Form} (h : f.written = g.written) : f = g := by
  have hf := f.notMem_digits (c := '-') (by decide)
  have hg := g.notMem_digits (c := '-') (by decide)
  obtain ⟨s, ds, _, _, _⟩ := f
  obtain ⟨s', ds', _, _, _⟩ := g
  simp only [written] at h hf hg
  cases s <;> cases s' <;> simp only [Side.sign, List.nil_append, List.cons_append] at h
  · cases h
    rfl
  · exact absurd (h ▸ List.mem_cons_self) hg
  · exact absurd (h ▸ List.mem_cons_self) hf
  · cases h
    rfl

end Form

theorem width?_eq_some_iff {ds : Text} {n : Nat} :
    width? ds = some n ↔
      (∀ c ∈ ds, c.isDigit = true) ∧ Numeral.value ds = n ∧ 0 < n ∧ n ≤ maxWidth := by
  rw [width?, Numeral.readUpTo?_eq, Option.filter_eq_some_iff, Option.filter_eq_some_iff,
    Numeral.read?_eq_some_iff, decide_eq_true_eq, decide_eq_true_eq]
  constructor
  · rintro ⟨⟨⟨_, hd, hv⟩, hle⟩, hpos⟩
    exact ⟨hd, hv, hpos, hle⟩
  · rintro ⟨hd, hv, hpos, hle⟩
    refine ⟨⟨⟨?_, hd, hv⟩, hle⟩, hpos⟩
    rintro rfl
    rw [← hv] at hpos
    exact absurd hpos (by decide)

theorem ofText?_written (f : Form) : ofText? f.written = some f.alignment := by
  have hw : width? f.digits = some (Numeral.value f.digits) :=
    width?_eq_some_iff.2 ⟨f.isDigit_of_mem, rfl, f.width_pos, f.width_le⟩
  obtain ⟨s, ds, hd, _, _⟩ := f
  cases s with
  | left => rw [Form.written, Side.sign, List.singleton_append, ofText?, hw]; rfl
  | right =>
    rw [Form.written, Side.sign, List.nil_append, ofText?, hw]
    · rfl
    · rintro ds' rfl
      exact absurd (hd '-' List.mem_cons_self) (by decide)

/-- **A text is read as a column exactly if it is a sign and a width.** -/
theorem ofText?_eq_some_iff {t : Text} {a : Alignment} :
    ofText? t = some a ↔ ∃ f : Form, f.written = t ∧ f.alignment = a := by
  constructor
  · intro h
    have main : ∀ (s : Side) (ds : Text), (width? ds).map (Alignment.mk s ·) = some a →
        ∃ f : Form, f.written = s.sign ++ ds ∧ f.alignment = a := by
      intro s ds hw
      obtain ⟨n, hn, rfl⟩ := Option.map_eq_some_iff.1 hw
      obtain ⟨hd, rfl, hpos, hle⟩ := width?_eq_some_iff.1 hn
      exact ⟨⟨s, ds, hd, hpos, hle⟩, rfl, rfl⟩
    unfold ofText? at h
    split at h
    · exact main .left _ h
    · exact main .right _ h
  · rintro ⟨f, rfl, rfl⟩
    exact ofText?_written f

end Alignment

/-! ## Contents of tags -/

/-- The mark for a way of capturing. -/
def Capture.hint : Capture → Text
  | default => []
  | destructure => ['@']
  | stringify => ['$']

namespace Tag

/-- A tag as it is written between its braces. -/
structure Form where
  capture : Capture
  name : Text
  isName : IsName name
  column : Option Alignment.Form
  format : Option {t : Text // IsFormat t}

namespace Form

/-- The hint and the name. -/
def hinted (f : Form) : Text := f.capture.hint ++ f.name

/-- What stands before the format. -/
def head (f : Form) : Text := f.hinted ++ f.column.elim [] (',' :: ·.written)

/-- What stands between the braces. -/
def content (f : Form) : Text := f.head ++ f.format.elim [] (':' :: ·.val)

/-- The tag that is meant. -/
def tag (f : Form) : Tag :=
  ⟨f.name, f.capture, f.column.map Alignment.Form.alignment, f.format.map Subtype.val,
    enclose f.content⟩

end Form

end Tag

namespace Capture

theorem hint_append_ofHint (t : Text) : (ofHint t).1.hint ++ (ofHint t).2 = t := by
  unfold ofHint
  split <;> rfl

theorem ofHint_hint_append (k : Capture) {name : Text} (h : Tag.IsName name) :
    ofHint (k.hint ++ name) = (k, name) := by
  cases k with
  | destructure => rfl
  | stringify => rfl
  | default =>
    rw [hint, List.nil_append]
    unfold ofHint
    split
    · exact absurd (h.2 '@' List.mem_cons_self) (by decide +kernel)
    · exact absurd (h.2 '$' List.mem_cons_self) (by decide +kernel)
    · rfl

theorem notMem_hint (k : Capture) {c : Char} (hc : CharClass.isHint c = false) : c ∉ k.hint := by
  cases k <;> simp_all [hint, CharClass.isHint]

end Capture

namespace Tag.Form

theorem notMem_name (f : Form) {c : Char} (hc : CharClass.isName c = false) : c ∉ f.name := by
  intro h
  rw [f.isName.2 c h] at hc
  cases hc

theorem notMem_hinted (f : Form) {c : Char} (hn : CharClass.isName c = false)
    (hh : CharClass.isHint c = false) : c ∉ f.hinted := by
  rw [hinted, List.mem_append, not_or]
  exact ⟨f.capture.notMem_hint hh, f.notMem_name hn⟩

theorem colon_notMem_head (f : Form) : ':' ∉ f.head := by
  rw [head, List.mem_append, not_or]
  refine ⟨f.notMem_hinted (by decide +kernel) (by decide), ?_⟩
  cases f.column with
  | none => exact List.not_mem_nil
  | some a =>
    rw [Option.elim_some, List.mem_cons, not_or]
    exact ⟨by decide, a.notMem_written (by decide) (by decide)⟩

/-! The three steps of reading, each on what is written for it. -/

theorem splitFirst_content (f : Form) :
    Text.splitFirst ':' f.content = (f.head, f.format.map Subtype.val) := by
  rw [content]
  cases f.format with
  | none =>
    rw [Option.elim_none, List.append_nil, Text.splitFirst_of_notMem f.colon_notMem_head]
    rfl
  | some t =>
    rw [Option.elim_some, Text.splitFirst_append_cons f.colon_notMem_head]
    rfl

theorem splitFirst_head (f : Form) :
    Text.splitFirst ',' f.head = (f.hinted, f.column.map Alignment.Form.written) := by
  have hc : ',' ∉ f.hinted := f.notMem_hinted (by decide +kernel) (by decide)
  rw [head]
  cases f.column with
  | none => rw [Option.elim_none, List.append_nil, Text.splitFirst_of_notMem hc]; rfl
  | some a => rw [Option.elim_some, Text.splitFirst_append_cons hc]; rfl

theorem ofHint_hinted (f : Form) : Capture.ofHint f.hinted = (f.capture, f.name) :=
  f.capture.ofHint_hint_append f.isName

/-- **A content comes from one form only.** -/
theorem content_injective {f g : Form} (h : f.content = g.content) : f = g := by
  have h₁ := f.splitFirst_content
  rw [h, g.splitFirst_content, Prod.mk.injEq] at h₁
  have h₂ := f.splitFirst_head
  rw [← h₁.1, g.splitFirst_head, Prod.mk.injEq] at h₂
  have h₃ := f.ofHint_hinted
  rw [← h₂.1, g.ofHint_hinted, Prod.mk.injEq] at h₃
  have hcolumn := Option.map_injective (fun _ _ => Alignment.Form.written_injective) h₂.2
  have hformat := Option.map_injective (fun _ _ => Subtype.ext) h₁.2
  obtain ⟨_, _, _, _, _⟩ := f
  obtain ⟨_, _, _, _, _⟩ := g
  cases h₃.1
  cases h₃.2
  cases hcolumn
  cases hformat
  rfl

/-! ## Reading -/

theorem ofContent?_content (f : Form) : ofContent? f.content = some f.tag := by
  have hf : format? (f.format.map Subtype.val) = some (f.format.map Subtype.val) := by
    cases f.format with
    | none => rfl
    | some t => rw [Option.map_some, format?, if_pos t.2]
  have ha : alignment? (f.column.map Alignment.Form.written) =
      some (f.column.map Alignment.Form.alignment) := by
    cases f.column with
    | none => rfl
    | some a => rw [Option.map_some, alignment?, Alignment.ofText?_written]; rfl
  simp only [ofContent?, f.splitFirst_content, f.splitFirst_head, f.ofHint_hinted, hf, ha,
    Option.bind_eq_bind, Option.bind_some, if_pos f.isName]
  rfl

end Form

theorem exists_column {o : Option Text} {a : Option Alignment} (h : alignment? o = some a) :
    ∃ c : Option Alignment.Form, o = c.map Alignment.Form.written ∧
      a = c.map Alignment.Form.alignment := by
  cases o with
  | none => exact ⟨none, rfl, (Option.some.inj h).symm⟩
  | some t =>
    obtain ⟨b, hb, rfl⟩ := Option.map_eq_some_iff.1 h
    obtain ⟨f, rfl, rfl⟩ := Alignment.ofText?_eq_some_iff.1 hb
    exact ⟨some f, rfl, rfl⟩

theorem exists_format {o a : Option Text} (h : format? o = some a) :
    a = o ∧ ∃ t : Option {t : Text // IsFormat t}, o = t.map Subtype.val := by
  cases o with
  | none => exact ⟨(Option.some.inj h).symm, none, rfl⟩
  | some t =>
    rw [format?] at h
    split at h
    · rename_i ht
      exact ⟨(Option.some.inj h).symm, some ⟨t, ht⟩, rfl⟩
    · cases h

theorem exists_form_of_ofContent? {content : Text} {t : Tag} (h : ofContent? content = some t) :
    ∃ f : Form, f.content = content ∧ f.tag = t := by
  -- the three splits go apart from the front, and are put together again from the back
  rcases hcolon : Text.splitFirst ':' content with ⟨head, afterColon⟩
  rcases hcomma : Text.splitFirst ',' head with ⟨hinted, afterComma⟩
  simp only [ofContent?, hcolon, hcomma, Option.bind_eq_bind, Option.bind_eq_some_iff] at h
  obtain ⟨_, hformat, _, hcolumn, h⟩ := h
  obtain ⟨rfl, format, rfl⟩ := exists_format hformat
  obtain ⟨column, rfl, rfl⟩ := exists_column hcolumn
  split at h
  · rename_i hname
    let f : Form := ⟨(Capture.ofHint hinted).1, (Capture.ofHint hinted).2, hname, column, format⟩
    have hhinted : f.hinted = hinted := Capture.hint_append_ofHint hinted
    have hhead : f.head = head := by
      rw [Form.head, hhinted]
      show hinted ++ column.elim [] _ = head
      cases column with
      | none => rw [Option.elim_none, List.append_nil, (Text.splitFirst_none hcomma).1]
      | some a => rw [Option.elim_some, (Text.splitFirst_some hcomma).1]
    have hcontent : f.content = content := by
      rw [Form.content, hhead]
      show head ++ format.elim [] _ = content
      cases format with
      | none => rw [Option.elim_none, List.append_nil, (Text.splitFirst_none hcolon).1]
      | some t => rw [Option.elim_some, (Text.splitFirst_some hcolon).1]
    refine ⟨f, hcontent, ?_⟩
    rw [← Option.some.inj h, Form.tag, hcontent]
  · cases h

/-- **A content is read exactly if it is that of a form.** -/
theorem ofContent?_eq_some_iff {content : Text} {t : Tag} :
    ofContent? content = some t ↔ ∃ f : Form, f.content = content ∧ f.tag = t := by
  constructor
  · exact exists_form_of_ofContent?
  · rintro ⟨f, rfl, rfl⟩
    exact f.ofContent?_content

theorem ofContent?_eq_none_iff {content : Text} :
    ofContent? content = none ↔ ∀ f : Form, f.content ≠ content := by
  constructor
  · rintro h f rfl
    rw [f.ofContent?_content] at h
    cases h
  · intro h
    rw [Option.eq_none_iff_forall_ne_some]
    intro t ht
    obtain ⟨f, hf, _⟩ := exists_form_of_ofContent? ht
    exact h f hf

namespace Form

/-! ## Contents between braces -/

theorem isTag_of_mem_hinted (f : Form) {c : Char} (h : c ∈ f.hinted) :
    CharClass.isTag c = true := by
  rw [hinted, List.mem_append] at h
  rcases h with h | h
  · have : CharClass.isHint c = true := by
      rw [← Bool.not_eq_false]
      exact fun hc => f.capture.notMem_hint hc h
    simp [CharClass.isTag, this]
  · exact CharClass.isTag_of_isFormat (CharClass.isFormat_of_isName (f.isName.2 c h))

theorem isTag_of_mem_content (f : Form) {c : Char} (h : c ∈ f.content) :
    CharClass.isTag c = true := by
  rw [content, head, List.mem_append, List.mem_append] at h
  rcases h with (h | h) | h
  · exact f.isTag_of_mem_hinted h
  · revert h
    cases f.column with
    | none => simp
    | some a =>
      intro h
      rcases List.mem_cons.1 h with rfl | h
      · decide +kernel
      · simp [CharClass.isTag, a.isAlignment_of_mem_written h]
  · revert h
    cases f.format with
    | none => simp
    | some t =>
      intro h
      rcases List.mem_cons.1 h with rfl | h
      · decide +kernel
      · exact CharClass.isTag_of_isFormat (t.2.2 c h)

theorem hinted_ne_nil (f : Form) : f.hinted ≠ [] := by
  rw [hinted, ne_eq, List.append_eq_nil_iff, not_and]
  exact fun _ => f.isName.1

/-- The first character is that of a hint or a name, so it opens no tag. -/
theorem head?_content_ne_opening (f : Form) : f.content.head? ≠ some '{' := by
  obtain ⟨c, cs, hc⟩ := List.exists_cons_of_ne_nil f.hinted_ne_nil
  have hmem : c ∈ f.hinted := by
    rw [hc]
    exact List.mem_cons_self
  have hne : c ≠ '{' := by
    rintro rfl
    exact f.notMem_hinted (by decide +kernel) (by decide) hmem
  rw [content, head, hc]
  simpa using hne

theorem head?_content_append_ne_opening (f : Form) (r : Text) :
    (f.content ++ '}' :: r).head? ≠ some '{' := by
  have h := f.head?_content_ne_opening
  cases hc : f.content with
  | nil => simp
  | cons c cs =>
    rw [hc] at h
    exact h

/-- A tag whose format holds a colon, a comma and an opening brace. -/
def braced : Form where
  capture := .destructure
  name := ['0', '7']
  isName := by decide +kernel
  column := some ⟨.left, ['0', '9'], List.all_eq_true.1 (by decide), by decide, by decide⟩
  format := some ⟨[':', ',', '{'], by decide +kernel⟩

example : braced.content = ['@', '0', '7', ',', '-', '0', '9', ':', ':', ',', '{'] := rfl

end Form

end Tag

end MessageTemplate
