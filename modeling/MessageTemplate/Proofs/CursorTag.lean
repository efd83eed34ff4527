import MessageTemplate.Cursor.Tag
import MessageTemplate.Proofs.TagForm

/-!
# Tags read by offsets

Taking the content of a tag apart at offsets never cuts a character in two, and gives the tag that
the content is read as.

* `Cursor.takeHint_eq`, `Cursor.readAlignment_eq`, `Cursor.readParts_eq`: the parts of a tag.
* `Cursor.splitContent_plain`, `Cursor.splitContent_comma`, `Cursor.splitContent_colon`,
  `Cursor.splitContent_both`: the layouts that a content can have.
* **`Cursor.readTag_eq`**: both ways of reading agree.
-/

namespace MessageTemplate.Cursor

/-! ## Parts -/

theorem sliceFrom_one {c : Char} (h : c.toNat < 128) (t : Text) :
    Text.sliceFrom (c :: t) 1 = .ok t :=
  Text.sliceFrom_append (a := [c]) (Text.byteLength_singleton h).symm

theorem takeHint_eq (name : Text) : takeHint name = .ok (Capture.ofHint name) := by
  cases name with
  | nil => rfl
  | cons c t =>
    by_cases h₁ : c = '@'
    · subst h₁
      rw [takeHint, List.head?_cons]
      show (do return (Capture.destructure, ← Text.sliceFrom ('@' :: t) 1)) = _
      rw [sliceFrom_one (by decide)]
      rfl
    · by_cases h₂ : c = '$'
      · subst h₂
        rw [takeHint, List.head?_cons]
        show (do return (Capture.stringify, ← Text.sliceFrom ('$' :: t) 1)) = _
        rw [sliceFrom_one (by decide), ok_bind]
        rfl
      · have hnone : captureOf? c = none := by
          unfold captureOf?
          split <;> simp_all
        have hof : Capture.ofHint (c :: t) = (.default, c :: t) := by
          unfold Capture.ofHint
          split <;> simp_all
        rw [takeHint, List.head?_cons, Option.bind_some, hnone, hof]
        rfl

theorem column?_eq {ds : Text} (h : ∀ c ∈ ds, c.isDigit = true) (s : Side) :
    column? s ds = (Alignment.width? ds).map (⟨s, ·⟩) := by
  have hsign : Written.sign ds = (false, ds) := by
    unfold Written.sign
    split
    · exact absurd (h '-' List.mem_cons_self) (by decide)
    · exact absurd (h '+' List.mem_cons_self) (by decide)
    · rfl
  rw [column?, int32?, hsign, Alignment.width?, Numeral.readUpTo?_eq]
  ext a
  simp only [Option.map_eq_some_iff, Option.filter_eq_some_iff, decide_eq_true_eq]
  constructor
  · rintro ⟨_, ⟨⟨⟨n, hn, rfl⟩, hr⟩, hp⟩, rfl⟩
    simp only [Written.signed, Bool.false_eq_true, if_false] at hr hp ⊢
    refine ⟨n, ⟨⟨hn, ?_⟩, by omega⟩, rfl⟩
    show n ≤ 2147483647
    omega
  · rintro ⟨n, ⟨⟨hn, hle⟩, hp⟩, rfl⟩
    have hle' : n ≤ 2147483647 := hle
    refine ⟨n, ⟨⟨⟨n, hn, rfl⟩, by omega⟩, by omega⟩, rfl⟩

theorem ofText?_eq_none {t : Text} (h : ∀ f : Alignment.Form, f.written ≠ t) :
    Alignment.ofText? t = none := by
  rw [Option.eq_none_iff_forall_ne_some]
  intro a ha
  obtain ⟨f, hf, _⟩ := Alignment.ofText?_eq_some_iff.1 ha
  exact h f hf

theorem isDigit_of_isAlignment {c : Char} (h : CharClass.isAlignment c = true) (hm : c ≠ '-') :
    c.isDigit = true := by
  rw [CharClass.isAlignment, Bool.or_eq_true, beq_iff_eq] at h
  exact h.resolve_right hm

theorem beq_eq_false_of_notMem {d : Char} {t : Text} (h : d ∉ t) : ∀ c ∈ t, (c == d) = false := by
  intro c hc
  rw [beq_eq_false_iff_ne]
  rintro rfl
  exact h hc

theorem exists_last {d : Char} {t : Text} (h : d ∈ t) : ∃ a b, t = a ++ d :: b ∧ d ∉ b := by
  obtain ⟨b, a, hba, hb⟩ := List.eq_append_cons_of_mem (List.mem_reverse.2 h)
  refine ⟨a.reverse, b.reverse, ?_, fun hd => hb (List.mem_reverse.1 hd)⟩
  rw [← List.reverse_reverse t, hba, List.reverse_append, List.reverse_cons, List.append_assoc,
    List.singleton_append]

theorem ofText?_append_sign {a : Text} (ha : a ≠ []) (b : Text) :
    Alignment.ofText? (a ++ '-' :: b) = none := by
  refine ofText?_eq_none fun f hf => ?_
  have hdigits := f.notMem_digits (c := '-') (by decide)
  obtain ⟨c, a, rfl⟩ := List.exists_cons_of_ne_nil ha
  have hb : '-' ∈ a ++ '-' :: b := List.mem_append_right _ List.mem_cons_self
  rw [Alignment.Form.written] at hf
  cases hs : f.side with
  | left =>
    rw [hs, Side.sign, List.singleton_append] at hf
    exact hdigits ((List.cons.inj hf).2 ▸ hb)
  | right =>
    rw [hs, Side.sign, List.nil_append] at hf
    exact hdigits (hf ▸ List.mem_cons_of_mem _ hb)

theorem readAlignment_eq (t : Text) : readAlignment t = .ok (Alignment.ofText? t) := by
  rw [readAlignment]
  by_cases hall : t.all CharClass.isAlignment = true
  · rw [if_pos hall]
    rw [List.all_eq_true] at hall
    by_cases hm : '-' ∈ t
    · obtain ⟨a, b, rfl, hb⟩ := exists_last hm
      rw [Text.lastOffset?_append_cons a rfl (beq_eq_false_of_notMem hb)]
      cases a with
      | nil =>
        have hd : ∀ c ∈ b, c.isDigit = true := fun c hc =>
          isDigit_of_isAlignment (hall c (List.mem_cons_of_mem _ hc)) fun e => hb (e ▸ hc)
        show (do return column? .left (← Text.sliceFrom ('-' :: b) 1)) = _
        rw [sliceFrom_one (by decide), ok_bind, column?_eq hd]
        rfl
      | cons c a =>
        have hc := c.utf8Size_pos
        obtain ⟨n, hn⟩ := Nat.exists_eq_succ_of_ne_zero (n := Text.byteLength (c :: a)) (by
          rw [Text.byteLength_cons]
          omega)
        rw [hn, ofText?_append_sign (List.cons_ne_nil c a)]
        rfl
    · have hd : ∀ c ∈ t, c.isDigit = true := fun c hc =>
        isDigit_of_isAlignment (hall c hc) fun e => hm (e ▸ hc)
      have hof : Alignment.ofText? t = (Alignment.width? t).map (⟨.right, ·⟩) := by
        unfold Alignment.ofText?
        split
        · exact absurd List.mem_cons_self hm
        · rfl
      rw [Text.lastOffset?_eq_none (beq_eq_false_of_notMem hm), hof, ← column?_eq hd]
      rfl
  · rw [if_neg hall, ofText?_eq_none]
    · rfl
    · rintro f rfl
      rw [List.all_eq_true] at hall
      exact hall fun c hc => f.isAlignment_of_mem_written hc

/-! ## Checking the parts -/

theorem readAlignment?_eq (o : Option Text) : readAlignment? o = .ok (Tag.alignment? o) := by
  cases o with
  | none => rfl
  | some t => rw [readAlignment?, readAlignment_eq, ok_bind]; rfl

theorem isName_iff (t : Text) : (t.isEmpty || !t.all CharClass.isName) = false ↔ Tag.IsName t := by
  rw [Bool.or_eq_false_iff, Bool.not_eq_false', List.isEmpty_eq_false_iff, List.all_eq_true]
  rfl

theorem format?_eq {o : Option Text} (h : o ≠ some []) :
    Tag.format? o = if o.any fun f => !f.all CharClass.isFormat then none else some o := by
  cases o with
  | none => rfl
  | some t =>
    have ht : t ≠ [] := fun e => h (by rw [e])
    have hiff : Tag.IsFormat t ↔ t.all CharClass.isFormat = true := by
      rw [List.all_eq_true]
      exact and_iff_right ht
    rw [Tag.format?, Option.any_some]
    cases hf : t.all CharClass.isFormat with
    | true =>
      rw [if_pos (hiff.2 hf)]
      rfl
    | false =>
      rw [if_neg fun e => Bool.false_ne_true (hf.symm.trans (hiff.1 e))]
      rfl

/-- What is left to be read once the content of a tag has been taken apart. -/
def ofParts? (written : Text) (parts : Parts) : Option Tag := do
  let (capture, name) := Capture.ofHint parts.name
  let format ← Tag.format? parts.format
  let alignment ← Tag.alignment? parts.alignment
  if Tag.IsName name then some ⟨name, capture, alignment, format, written⟩ else none

theorem readParts_eq (written : Text) {parts : Parts} (h : parts.format ≠ some []) :
    readParts written parts = .ok (ofParts? written parts) := by
  rw [readParts, takeHint_eq, ok_bind, ofParts?, format?_eq h]
  rcases Capture.ofHint parts.name with ⟨capture, name⟩
  dsimp only
  by_cases hn : Tag.IsName name
  · rw [(isName_iff name).2 hn, if_neg Bool.false_ne_true]
    cases parts.format.any fun f => !f.all CharClass.isFormat with
    | true => rfl
    | false =>
      rw [if_neg Bool.false_ne_true, if_neg Bool.false_ne_true, readAlignment?_eq, ok_bind]
      cases Tag.alignment? parts.alignment with
      | none => rfl
      | some a => simp only [Option.bind_eq_bind, Option.bind_some, if_pos hn]; rfl
  · have hn' : (name.isEmpty || !name.all CharClass.isName) = true := by
      rw [← Bool.not_eq_false, isName_iff]
      exact hn
    rw [hn', if_pos rfl]
    simp only [if_neg hn, Option.bind_eq_bind, Option.bind_fun_none]
    rfl

/-! ## Taking a content apart -/

theorem splitContent_plain {content : Text} (h₁ : ',' ∉ content) (h₂ : ':' ∉ content) :
    splitContent content = .ok (some ⟨content, none, none⟩) := by
  rw [splitContent, Text.firstOffset?_eq_none (beq_eq_false_of_notMem h₁),
    Text.firstOffset?_eq_none (beq_eq_false_of_notMem h₂)]
  rfl

theorem slices_append_cons {d : Char} (hd : d.toNat < 128) (a b : Text) :
    Text.slice (a ++ d :: b) 0 (Text.byteLength a) = .ok a ∧
      Text.sliceFrom (a ++ d :: b) (Text.byteLength a + 1) = .ok b := by
  constructor
  · exact Text.slice_append (a := []) rfl (Nat.zero_add _).symm
  · have h := Text.sliceFrom_append (a := a ++ [d]) (b := b) rfl
    rwa [Text.byteLength_append, Text.byteLength_singleton hd, List.append_assoc,
      List.singleton_append] at h

theorem splitAtColon_eq (name format : Text) :
    splitAtColon (name ++ ':' :: format) (Text.byteLength name) =
      .ok ((segment format).map fun f => ⟨name, some f, none⟩) := by
  obtain ⟨h₁, h₂⟩ := slices_append_cons (d := ':') (by decide) name format
  rw [splitAtColon, h₁, ok_bind, h₂]
  rfl

theorem splitContent_comma {name alignment : Text} (h₁ : ',' ∉ name)
    (h₂ : ':' ∉ name ++ ',' :: alignment) :
    splitContent (name ++ ',' :: alignment) =
      .ok ((segment alignment).map fun a => ⟨name, none, some a⟩) := by
  obtain ⟨h₃, h₄⟩ := slices_append_cons (d := ',') (by decide) name alignment
  rw [splitContent, Text.firstOffset?_append_cons (beq_eq_false_of_notMem h₁) rfl,
    Text.firstOffset?_eq_none (beq_eq_false_of_notMem h₂)]
  show splitAtComma _ _ = _
  rw [splitAtComma, h₃, ok_bind, h₄]
  rfl

/-- A comma that follows the first colon does not count. -/
theorem splitContent_colon {name : Text} (h₁ : ',' ∉ name) (h₂ : ':' ∉ name) (format : Text) :
    splitContent (name ++ ':' :: format) =
      .ok ((segment format).map fun f => ⟨name, some f, none⟩) := by
  rw [splitContent, Text.firstOffset?_append_cons (beq_eq_false_of_notMem h₂) rfl]
  by_cases hf : ',' ∈ format
  · obtain ⟨a, b, rfl, ha⟩ := List.eq_append_cons_of_mem hf
    have hcomma : ',' ∉ name ++ ':' :: a := by
      simp [h₁, ha]
    have heq : name ++ ':' :: (a ++ ',' :: b) = (name ++ ':' :: a) ++ ',' :: b := by
      rw [List.append_assoc, List.cons_append]
    rw [heq, Text.firstOffset?_append_cons (beq_eq_false_of_notMem hcomma) rfl, ← heq]
    show (if _ then _ else _) = _
    rw [if_pos, splitAtColon_eq]
    rw [Text.byteLength_append, Text.byteLength_cons]
    have := Char.utf8Size_pos ':'
    omega
  · have hcomma : ',' ∉ name ++ ':' :: format := by
      simp [h₁, hf]
    rw [Text.firstOffset?_eq_none (beq_eq_false_of_notMem hcomma)]
    exact splitAtColon_eq name format

theorem splitContent_both {name alignment : Text} (h₁ : ',' ∉ name)
    (h₂ : ':' ∉ name ++ ',' :: alignment) (format : Text) :
    splitContent (name ++ ',' :: alignment ++ ':' :: format) =
      .ok ((segment format).bind fun f => (segment alignment).map fun a =>
        ⟨name, some f, some a⟩) := by
  have hcomma : name ++ ',' :: alignment ++ ':' :: format =
      name ++ ',' :: (alignment ++ ':' :: format) := by
    rw [List.append_assoc, List.cons_append]
  obtain ⟨hname, _⟩ := slices_append_cons (d := ',') (by decide) name (alignment ++ ':' :: format)
  obtain ⟨_, hformat⟩ := slices_append_cons (d := ':') (by decide) (name ++ ',' :: alignment) format
  have hlen : Text.byteLength (name ++ ',' :: alignment) =
      Text.byteLength name + 1 + Text.byteLength alignment := by
    rw [Text.byteLength_append, Text.byteLength_cons, Text.utf8Size_eq_one (by decide),
      Nat.add_assoc]
  have halignment : Text.slice (name ++ ',' :: alignment ++ ':' :: format)
      (Text.byteLength name + 1) (Text.byteLength (name ++ ',' :: alignment)) = .ok alignment := by
    have h := Text.slice_append (a := name ++ [',']) (b := alignment) (c := ':' :: format) rfl rfl
    rwa [Text.byteLength_append, Text.byteLength_singleton (by decide), ← hlen, List.append_assoc,
      List.singleton_append, ← hcomma] at h
  rw [← hcomma] at hname
  rw [splitContent, Text.firstOffset?_append_cons (beq_eq_false_of_notMem h₂) rfl, hcomma,
    Text.firstOffset?_append_cons (beq_eq_false_of_notMem h₁) rfl, ← hcomma]
  show (if _ then _ else _) = _
  rw [if_neg (by omega), splitAtBoth, hname, ok_bind, hformat, ok_bind, halignment, ok_bind]
  rfl

/-- The parts, unless one of those behind a delimiter is empty. -/
def parts? (name : Text) (format alignment : Option Text) : Option Parts :=
  if format = some [] ∨ alignment = some [] then none else some ⟨name, format, alignment⟩

/-- **The offsets of the first comma and the first colon take a content apart like two splits.** -/
theorem splitContent_eq {content head hinted : Text} {afterColon afterComma : Option Text}
    (hcolon : Text.splitFirst ':' content = (head, afterColon))
    (hcomma : Text.splitFirst ',' head = (hinted, afterComma)) :
    splitContent content = .ok (parts? hinted afterColon afterComma) := by
  cases afterColon with
  | none =>
    obtain ⟨rfl, h₂⟩ := Text.splitFirst_none hcolon
    cases afterComma with
    | none =>
      obtain ⟨rfl, h₁⟩ := Text.splitFirst_none hcomma
      rw [splitContent_plain h₁ h₂]
      rfl
    | some alignment =>
      obtain ⟨rfl, h₁⟩ := Text.splitFirst_some hcomma
      rw [splitContent_comma h₁ h₂]
      cases alignment <;> rfl
  | some format =>
    obtain ⟨rfl, h₂⟩ := Text.splitFirst_some hcolon
    cases afterComma with
    | none =>
      obtain ⟨rfl, h₁⟩ := Text.splitFirst_none hcomma
      rw [splitContent_colon h₁ h₂]
      cases format <;> rfl
    | some alignment =>
      obtain ⟨rfl, h₁⟩ := Text.splitFirst_some hcomma
      rw [splitContent_both h₁ h₂]
      cases format <;> cases alignment <;> rfl

theorem ofParts?_eq_none {written name : Text} {format alignment : Option Text}
    (h : format = some [] ∨ alignment = some []) :
    ofParts? written ⟨name, format, alignment⟩ = none := by
  rw [ofParts?]
  rcases Capture.ofHint name with ⟨capture, rest⟩
  rcases h with rfl | rfl
  · rfl
  · cases Tag.format? format <;> rfl

/-- **Reading a tag by offsets never fails, and gives the tag of its content.** -/
theorem readTag_eq (content : Text) :
    readTag (Tag.enclose content) content = .ok (Tag.ofContent? content) := by
  rcases hcolon : Text.splitFirst ':' content with ⟨head, afterColon⟩
  rcases hcomma : Text.splitFirst ',' head with ⟨hinted, afterComma⟩
  have hof : Tag.ofContent? content =
      ofParts? (Tag.enclose content) ⟨hinted, afterColon, afterComma⟩ := by
    rw [Tag.ofContent?, hcolon]
    dsimp only
    rw [hcomma]
    rfl
  cases content with
  | nil => rfl
  | cons c cs =>
    rw [readTag, if_neg (by simp), splitContent_eq hcolon hcomma, ok_bind, hof, parts?]
    by_cases h : afterColon = some [] ∨ afterComma = some []
    · rw [if_pos h, ofParts?_eq_none h]
      rfl
    · rw [if_neg h]
      exact readParts_eq _ fun e => h (Or.inl e)

end MessageTemplate.Cursor
