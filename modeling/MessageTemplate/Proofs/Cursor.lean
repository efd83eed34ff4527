import MessageTemplate.Cursor
import MessageTemplate.Proofs.CursorTag
import MessageTemplate.Proofs.Pieces

/-!
# Templates read by offsets

Reading a template by the offsets of its braces gives the same tokens as reading it character by
character. The invariant: the cursor stands at the number of bytes of the characters that have been
read, so every offset takes the text apart between two characters.

* `Cursor.nextBrace?_append`, `Cursor.byteAt?_zero_eq_iff`: braces among the bytes.
* `Cursor.readText_eq`, `Cursor.nextText_eq`, `Cursor.nextTag_eq`: one step.
* **`Cursor.tokens_eq`**: the whole text.
* **`Cursor.tokens_pieces`**: the tokens are those of the pieces of the text.
-/

namespace MessageTemplate.Cursor

/-! ## Braces among the bytes -/

/-- A text without braces. -/
def Plain (w : Text) : Prop := ∀ c ∈ w, c ≠ '{' ∧ c ≠ '}'

theorem isBraceByte_iff {b : UInt8} : isBraceByte b = true ↔ b = openingByte ∨ b = closingByte := by
  rw [isBraceByte, Bool.or_eq_true, beq_iff_eq, beq_iff_eq]

theorem findIdx?_plain {w : Text} (h : Plain w) : (Text.utf8 w).findIdx? isBraceByte = none := by
  rw [List.findIdx?_eq_none_iff]
  intro b hb
  rw [← Bool.not_eq_true, isBraceByte_iff]
  rintro (rfl | rfl)
  · exact Text.notMem_utf8 (b := openingByte) (by decide)
      (fun c hc e => (h c hc).1 (Char.toNat_inj.1 e)) hb
  · exact Text.notMem_utf8 (b := closingByte) (by decide)
      (fun c hc e => (h c hc).2 (Char.toNat_inj.1 e)) hb

theorem nextBrace?_plain (a : Text) {w : Text} (h : Plain w) :
    nextBrace? (a ++ w) (Text.byteLength a) = none := by
  rw [nextBrace?, Text.drop_utf8_append, findIdx?_plain h]
  rfl

theorem nextBrace?_append (a : Text) {w : Text} (h : Plain w) {c : Char} (hc : c = '{' ∨ c = '}')
    (b : Text) : nextBrace? (a ++ (w ++ c :: b)) (Text.byteLength a) =
      some (Text.byteLength a + Text.byteLength w) := by
  have hfirst : (Text.utf8 (c :: b)).findIdx? isBraceByte = some 0 := by
    rcases hc with rfl | rfl <;> rfl
  rw [nextBrace?, Text.drop_utf8_append, Text.utf8_append, List.findIdx?_append, findIdx?_plain h,
    hfirst, Option.none_or, Option.map_some, Option.map_some, Nat.zero_add]
  rfl

theorem byteAt?_zero_eq_iff {d : Char} (hd : d.toNat < 128) {t : Text} :
    Text.byteAt? t 0 = some (UInt8.ofNat d.toNat) ↔ t.head? = some d := by
  have hn : (UInt8.ofNat d.toNat).toNat = d.toNat := by
    rw [UInt8.toNat_ofNat']
    omega
  cases t with
  | nil => simp [Text.byteAt?]
  | cons c t =>
    rw [List.head?_cons, Option.some.injEq]
    constructor
    · intro h
      have hlt : 0 < (String.utf8EncodeChar c).length := by
        rw [String.length_utf8EncodeChar]
        exact c.utf8Size_pos
      rw [Text.byteAt?, Text.utf8, List.flatMap_cons, List.getElem?_append_left hlt] at h
      have := Text.toNat_eq_of_mem_utf8EncodeChar (by omega) (List.mem_of_getElem? h)
      exact Char.toNat_inj.1 (this.trans hn)
    · rintro rfl
      have hv : c.val.toNat ≤ 127 := Nat.le_of_lt_succ hd
      rw [Text.byteAt?, Text.utf8, List.flatMap_cons, String.utf8EncodeChar, if_pos hv]
      rfl

theorem byteAt?_add_one_iff {d : Char} (hd : d.toNat < 128) {a b : Text} {i : Nat}
    (hi : i = Text.byteLength a) : Text.byteAt? (a ++ d :: b) (i + 1) = some (UInt8.ofNat d.toNat) ↔
      b.head? = some d := by
  have h := Text.byteAt?_append (a ++ [d]) b 0
  rw [Text.byteLength_append, Text.byteLength_singleton hd, List.append_assoc,
    List.singleton_append, Nat.add_zero, ← hi] at h
  rw [h, byteAt?_zero_eq_iff hd]

theorem byteAt?_eq {d : Char} (hd : d.toNat < 128) {a : Text} (b : Text) {i : Nat}
    (hi : i = Text.byteLength a) : Text.byteAt? (a ++ d :: b) i = some (UInt8.ofNat d.toNat) := by
  have h := Text.byteAt?_append a (d :: b) 0
  rw [Nat.add_zero, ← hi] at h
  rw [h, byteAt?_zero_eq_iff hd, List.head?_cons]

/-! ## Literal text -/

theorem exists_plain (t : Text) : ∃ w r, t = w ++ r ∧ Plain w ∧
    (r = [] ∨ ∃ c b, r = c :: b ∧ (c = '{' ∨ c = '}')) := by
  induction t with
  | nil => exact ⟨[], [], rfl, by simp [Plain], Or.inl rfl⟩
  | cons c t ih =>
    by_cases hc : c = '{' ∨ c = '}'
    · exact ⟨[], c :: t, rfl, by simp [Plain], Or.inr ⟨c, t, rfl, hc⟩⟩
    · obtain ⟨w, r, rfl, hw, hr⟩ := ih
      exact ⟨c :: w, r, rfl, List.forall_mem_cons.2 ⟨not_or.1 hc, hw⟩, hr⟩

theorem span_plain_append {w : Text} (h : Plain w) (r : Text) :
    Literal.span (w ++ r) = (w ++ (Literal.span r).1, (Literal.span r).2) := by
  induction w with
  | nil => rfl
  | cons c w ih =>
    obtain ⟨hc, hw⟩ := List.forall_mem_cons.1 h
    rw [List.cons_append, Literal.span_cons hc.1, ih hw]
    rfl

theorem unescape_plain_append {w : Text} (h : Plain w) (r : Text) :
    Literal.unescape (w ++ r) = w ++ Literal.unescape r := by
  induction w with
  | nil => rfl
  | cons c w ih =>
    obtain ⟨hc, hw⟩ := List.forall_mem_cons.1 h
    rw [List.cons_append, Literal.unescape_cons hc.1 (Or.inl hc.2), ih hw]
    rfl

theorem head?_span_ne {t : Text} {d : Char} (h : t.head? ≠ some d) :
    (Literal.span t).1.head? ≠ some d := by
  intro hd
  obtain ⟨cs, hcs⟩ := List.head?_eq_some_iff.1 hd
  refine h ?_
  rw [← Literal.span_append t, hcs]
  rfl

/-- What the literal text at the front of `t` is read as: what it stands for, after `text`, and
where it ends if it starts at `pos`. -/
def textResult (text t : Text) (pos : Nat) : Text × Nat :=
  (text ++ Literal.unescape (Literal.span t).1, pos + Text.byteLength (Literal.span t).1)

theorem readText_none {t : Text} {pos : Nat} (h : nextBrace? t pos = none) (runStart : Nat)
    (text : Text) : readText t pos runStart text =
      do return (text ++ (← t.sliceFrom runStart), t.byteLength) := by
  rw [readText]
  split
  · rfl
  · rename_i h'
    rw [h] at h'
    cases h'

/-- One round of the loop: characters without braces, and a brace. -/
theorem readText_brace (done text : Text) {w : Text} (hw : Plain w) {c : Char}
    (hc : c = '{' ∨ c = '}') (b : Text) {pos : Nat} (hpos : pos = Text.byteLength done) :
    readText (done ++ (w ++ c :: b)) pos pos text =
      let brace := Text.byteLength (done ++ w)
      if b.head? = some c then
        readText (done ++ (w ++ c :: b)) (brace + 2) (brace + 2) (text ++ w ++ [c])
      else if c = '{' then .ok (text ++ w, brace)
      else readText (done ++ (w ++ c :: b)) (brace + 1) (brace + 1) (text ++ w ++ [c]) := by
  have hascii : c.toNat < 128 := by
    rcases hc with rfl | rfl <;> decide
  have hbyte : Char.ofNat (UInt8.ofNat c.toNat).toNat = c := by
    rcases hc with rfl | rfl <;> rfl
  have hopening : UInt8.ofNat c.toNat = openingByte ↔ c = '{' := by
    rcases hc with rfl | rfl <;> decide
  have hnext := nextBrace?_append done hw hc b
  have hslice := Text.slice_append (c := c :: b) hpos
    (rfl : Text.byteLength done + Text.byteLength w = _)
  rw [← Text.byteLength_append] at hnext hslice
  rw [← hpos] at hnext
  have hhere := byteAt?_eq hascii b (rfl : Text.byteLength (done ++ w) = _)
  have hthere := byteAt?_add_one_iff hascii (b := b) (rfl : Text.byteLength (done ++ w) = _)
  rw [List.append_assoc] at hhere hthere
  conv_lhs => rw [readText]
  split
  · rename_i h
    rw [hnext] at h
    cases h
  · rename_i brace h
    rw [hnext] at h
    cases h
    rw [hslice, ok_bind]
    simp only [hhere, hthere, hbyte, hopening]
    rfl

theorem textResult_append {text m w t t' : Text} (pos : Nat)
    (hspan : Literal.span t = (w ++ (Literal.span t').1, (Literal.span t').2))
    (hmeaning : Literal.unescape (w ++ (Literal.span t').1) =
      m ++ Literal.unescape (Literal.span t').1) :
    textResult text t pos = textResult (text ++ m) t' (pos + Text.byteLength w) := by
  simp only [textResult, hspan, hmeaning, Text.byteLength_append, List.append_assoc, Nat.add_assoc]

theorem textResult_plain {w : Text} (hw : Plain w) (text t : Text) (pos : Nat) :
    textResult text (w ++ t) pos = textResult (text ++ w) t (pos + Text.byteLength w) :=
  textResult_append pos (span_plain_append hw t) (unescape_plain_append hw _)

theorem textResult_doubled {c : Char} (hc : c = '{' ∨ c = '}') (text t : Text) (pos : Nat) :
    textResult text (c :: c :: t) pos = textResult (text ++ [c]) t (pos + 2) := by
  rcases hc with rfl | rfl
  · refine textResult_append pos (w := ['{', '{']) ?_ ?_
    · rw [Literal.span]
      rfl
    · rw [List.cons_append, List.singleton_append, Literal.unescape]
      rfl
  · refine textResult_append pos (w := ['}', '}']) ?_ ?_
    · rw [Literal.span_cons (by decide), Literal.span_cons (by decide)]
      rfl
    · rw [List.cons_append, List.singleton_append, Literal.unescape]
      rfl

theorem textResult_lone {t : Text} (ht : t.head? ≠ some '}') (text : Text) (pos : Nat) :
    textResult text ('}' :: t) pos = textResult (text ++ ['}']) t (pos + 1) := by
  refine textResult_append pos (w := ['}']) ?_ ?_
  · rw [Literal.span_cons (by decide)]
    rfl
  · rw [List.singleton_append, Literal.unescape_cons (by decide) (Or.inr (head?_span_ne ht))]
    rfl

theorem textResult_stops {t : Text} (ht : Literal.Stops t) (text : Text) (pos : Nat) :
    textResult text t pos = (text, pos) := by
  rw [textResult, Literal.span_of_stops ht, Literal.unescape, List.append_nil, Text.byteLength_nil,
    Nat.add_zero]

theorem readText_eq (done rest text : Text) :
    readText (done ++ rest) (Text.byteLength done) (Text.byteLength done) text =
      .ok (textResult text rest (Text.byteLength done)) := by
  -- each round of the loop takes some of what is left
  induction hn : rest.length using Nat.strongRecOn generalizing done rest text with
  | _ n ih =>
    obtain ⟨w, r, rfl, hw, rfl | ⟨c, b, rfl, hc⟩⟩ := exists_plain rest
    · have hnone := nextBrace?_plain done hw
      rw [textResult_plain hw, textResult_stops (Or.inl rfl), List.append_nil, readText_none hnone,
        Text.sliceFrom_append rfl, ok_bind, Text.byteLength_append]
      rfl
    · have hascii : c.toNat < 128 := by
        rcases hc with rfl | rfl <;> decide
      -- the next round, after the characters `u`
      have next : ∀ u b text : Text, b.length < n →
          readText (done ++ (w ++ (u ++ b))) (Text.byteLength (done ++ w) + Text.byteLength u)
            (Text.byteLength (done ++ w) + Text.byteLength u) text =
          .ok (textResult text b (Text.byteLength (done ++ w) + Text.byteLength u)) := by
        intro u b text hlen
        have h := ih _ hlen (done ++ w ++ u) b text rfl
        rwa [Text.byteLength_append _ u, List.append_assoc, List.append_assoc] at h
      have hlt : b.length < n := by
        rw [← hn, List.length_append, List.length_cons]
        omega
      rw [textResult_plain hw, readText_brace done text hw hc b rfl, ← Text.byteLength_append]
      dsimp only
      split
      · -- a doubled brace
        rename_i hd
        obtain ⟨b, rfl⟩ := List.head?_eq_some_iff.1 hd
        rw [List.length_cons] at hlt
        have hsize : Text.byteLength [c, c] = 2 := by
          rw [Text.byteLength_cons, Text.byteLength_singleton hascii, Text.utf8Size_eq_one hascii]
        have h := next [c, c] b (text ++ w ++ [c]) (by omega)
        rw [hsize] at h
        rw [textResult_doubled hc]
        exact h
      · rename_i hd
        split
        · -- the end of the literal text
          rename_i ho
          subst ho
          rw [textResult_stops (Or.inr ⟨b, rfl, hd⟩)]
        · -- a closing brace that stands alone
          rename_i ho
          obtain rfl : c = '}' := hc.resolve_left ho
          have h := next ['}'] b (text ++ w ++ ['}']) hlt
          rw [Text.byteLength_singleton hascii] at h
          rw [textResult_lone hd]
          exact h

theorem textToken_eq (m w : Text) : textToken m w = .text m w := by
  rw [textToken, Token.keptForm]
  split
  · rename_i h
    rw [h]
    rfl
  · rfl

theorem nextText_eq (done t : Text) : ∃ text?,
    nextText (done ++ t) (Text.byteLength done) =
      .ok (text?, Text.byteLength (done ++ (Literal.span t).1)) ∧
    text?.toList = Template.front t := by
  rw [nextText, readText_eq, ok_bind, textResult, Text.byteLength_append, Template.front]
  dsimp only
  by_cases hw : (Literal.span t).1 = []
  · rw [hw, if_pos (by simp), if_pos (by simp)]
    exact ⟨none, rfl, rfl⟩
  · have hpos : Text.byteLength (Literal.span t).1 ≠ 0 := mt Text.byteLength_eq_zero_iff.1 hw
    have hslice := Text.slice_append (a := done) (c := (Literal.span t).2) rfl
      (rfl : Text.byteLength done + Text.byteLength (Literal.span t).1 = _)
    rw [Literal.span_append] at hslice
    rw [if_neg (by omega), if_neg (by simpa using hw), hslice, ok_bind, textToken_eq]
    exact ⟨some _, rfl, rfl⟩

/-! ## Tags -/

theorem scanned_eq (cs : Text) (first n : Nat) (hn : n = first + Text.byteLength cs) :
    ((cs.firstOffset? (!CharClass.isTag ·)).map (first + ·)).getD n =
      first + Text.byteLength (cs.takeWhile CharClass.isTag) := by
  have hcs := List.takeWhile_append_dropWhile (p := CharClass.isTag) (l := cs)
  have htag : ∀ c ∈ cs.takeWhile CharClass.isTag, (!CharClass.isTag c) = false := by
    intro c hc
    rw [List.mem_takeWhile_imp hc]
    rfl
  have hstop := List.head?_dropWhile_not CharClass.isTag cs
  cases hd : cs.dropWhile CharClass.isTag with
  | nil =>
    rw [hd, List.append_nil] at hcs
    rw [hcs] at htag ⊢
    rw [Text.firstOffset?_eq_none htag, hn]
    rfl
  | cons c r =>
    rw [hd] at hcs hstop
    have h := Text.firstOffset?_append_cons htag (by simpa using hstop) r
    rw [hcs] at h
    rw [h]
    rfl

section

variable (done content r : Text)

theorem byteLength_append_opening : Text.byteLength (done ++ '{' :: content) =
    Text.byteLength done + 1 + Text.byteLength content := by
  rw [Text.byteLength_append, Text.byteLength_cons, Text.utf8Size_eq_one (by decide),
    Nat.add_assoc]

theorem byteLength_append_enclose : Text.byteLength (done ++ Tag.enclose content) =
    Text.byteLength done + 1 + Text.byteLength content + 1 := by
  rw [Tag.enclose, byteLength_append_opening, Text.byteLength_append,
    Text.byteLength_singleton (by decide), ← Nat.add_assoc]

theorem sliceFrom_opening :
    Text.sliceFrom (done ++ '{' :: content) (Text.byteLength done + 1) = .ok content := by
  have h := Text.sliceFrom_append (a := done ++ ['{']) (b := content) rfl
  rwa [List.append_assoc, List.singleton_append, byteLength_append_opening,
    Text.byteLength_nil] at h

theorem byteAt?_scanned : Text.byteAt? (done ++ '{' :: (content ++ r))
    (Text.byteLength done + 1 + Text.byteLength content) = Text.byteAt? r 0 := by
  have h := Text.byteAt?_append (done ++ '{' :: content) r 0
  rwa [byteLength_append_opening, Nat.add_zero, List.append_assoc, List.cons_append] at h

theorem slice_content : Text.slice (done ++ '{' :: (content ++ r)) (Text.byteLength done + 1)
    (Text.byteLength done + 1 + Text.byteLength content) = .ok content := by
  have h := Text.slice_append (a := done ++ ['{']) (b := content) (c := r) rfl rfl
  rwa [byteLength_append_opening, Text.byteLength_nil, Nat.add_zero, List.append_assoc,
    List.singleton_append] at h

theorem slice_unclosed : Text.slice (done ++ '{' :: (content ++ r)) (Text.byteLength done)
    (Text.byteLength done + 1 + Text.byteLength content) = .ok ('{' :: content) := by
  have h := Text.slice_append (a := done) (b := '{' :: content) (c := r) rfl rfl
  rwa [← Text.byteLength_append, byteLength_append_opening, List.cons_append] at h

theorem slice_closed : Text.slice (done ++ '{' :: (content ++ '}' :: r)) (Text.byteLength done)
    (Text.byteLength done + 1 + Text.byteLength content + 1) = .ok (Tag.enclose content) := by
  have h := Text.slice_append (a := done) (b := Tag.enclose content) (c := r) rfl rfl
  rwa [← Text.byteLength_append, byteLength_append_enclose, Tag.enclose, List.cons_append,
    List.append_assoc, List.singleton_append, ← Tag.enclose] at h

end

theorem nextTag_eq (done cs : Text) :
    nextTag (done ++ '{' :: cs) (Text.byteLength done) =
      .ok ((Template.scanTag cs).1, Text.byteLength (done ++ (Template.scanTag cs).1.written)) := by
  have hcs := List.takeWhile_append_dropWhile (p := CharClass.isTag) (l := cs)
  have hscanned := scanned_eq cs (Text.byteLength done + 1) _ (byteLength_append_opening done cs)
  rw [nextTag, sliceFrom_opening, ok_bind]
  dsimp only
  rw [hscanned, Template.scanTag]
  generalize cs.takeWhile CharClass.isTag = content at hcs ⊢
  generalize cs.dropWhile CharClass.isTag = r at hcs ⊢
  subst hcs
  rw [byteAt?_scanned]
  split
  · -- the tag is closed
    rename_i h
    obtain ⟨r, rfl⟩ := List.head?_eq_some_iff.1 ((byteAt?_zero_eq_iff (d := '}') (by decide)).1 h)
    show _ = Except.ok (Token.ofContent content,
      Text.byteLength (done ++ (Token.ofContent content).written))
    rw [slice_closed, ok_bind, slice_content, ok_bind, readTag_eq, ok_bind,
      Token.written_ofContent, byteLength_append_enclose, Token.ofContent]
    cases Tag.ofContent? content <;> rfl
  · -- the tag is not closed
    rename_i h
    rw [slice_unclosed, ok_bind]
    split
    · exact absurd ((byteAt?_zero_eq_iff (d := '}') (by decide)).2 rfl) h
    · rw [Token.verbatim, Token.written, byteLength_append_opening]
      rfl

/-! ## All tokens -/

theorem tokensFrom_end {t : Text} {pos : Nat} (h : ¬pos < t.byteLength) :
    tokensFrom t pos = .ok [] := by
  rw [tokensFrom, dif_neg h]
  rfl

theorem tokensFrom_text {t : Text} {pos middle : Nat} {text? : Option Token}
    (hpos : pos < t.byteLength) (htext : nextText t pos = .ok (text?, middle))
    (hend : t.byteLength ≤ middle) : tokensFrom t pos = .ok text?.toList := by
  rw [tokensFrom, dif_pos hpos]
  split
  · rename_i h
    rw [htext] at h
    cases h
  · rename_i h
    rw [htext] at h
    cases h
    rw [if_pos hend]
    rfl

theorem tokensFrom_tag {t : Text} {pos middle next : Nat} {text? : Option Token} {token : Token}
    {ts : List Token} (hpos : pos < t.byteLength) (htext : nextText t pos = .ok (text?, middle))
    (hend : ¬t.byteLength ≤ middle) (htag : nextTag t middle = .ok (token, next))
    (hrest : tokensFrom t next = .ok ts) :
    tokensFrom t pos = .ok (text?.toList ++ token :: ts) := by
  rw [tokensFrom, dif_pos hpos]
  split
  · rename_i h
    rw [htext] at h
    cases h
  · rename_i h
    rw [htext] at h
    cases h
    rw [if_neg hend]
    split
    · rename_i h
      rw [htag] at h
      cases h
    · rename_i h
      rw [htag] at h
      cases h
      rw [hrest]
      rfl

theorem byteLength_lt_append {t : Text} (done : Text) (h : t ≠ []) :
    Text.byteLength done < Text.byteLength (done ++ t) := by
  have := mt Text.byteLength_eq_zero_iff.1 h
  rw [Text.byteLength_append]
  omega

theorem tokensFrom_eq (done t : Text) :
    tokensFrom (done ++ t) (Text.byteLength done) = .ok (Template.scan t) := by
  fun_induction Template.scan t generalizing done with
  | case1 t h =>
    have hspan := Literal.span_append t
    rw [h, List.append_nil] at hspan
    by_cases ht : t = []
    · subst ht
      rw [List.append_nil, tokensFrom_end (Nat.lt_irrefl _)]
      rfl
    · obtain ⟨text?, htext, hfront⟩ := nextText_eq done t
      rw [hspan] at htext
      rw [tokensFrom_text (byteLength_lt_append done ht) htext (Nat.le_refl _), hfront]
  | case2 t b cs h ih =>
    have hspan := Literal.span_append t
    have ht : t ≠ [] := by
      rintro rfl
      cases h
    obtain ⟨text?, htext, hfront⟩ := nextText_eq done t
    obtain rfl : b = '{' := by
      rcases Literal.span_snd t with h' | ⟨_, h'⟩
      · cases h.symm.trans h'
      · exact (List.cons.inj (h.symm.trans h')).1
    -- the text up to the brace, and up to the end of the tag
    have hmiddle : done ++ t = done ++ (Literal.span t).1 ++ '{' :: cs := by
      rw [List.append_assoc, ← h, hspan]
    have htag := nextTag_eq (done ++ (Literal.span t).1) cs
    have hrest := ih (done ++ (Literal.span t).1 ++ (Template.scanTag cs).1.written)
    rw [List.append_assoc _ (Token.written _), Template.written_scanTag, ← hmiddle] at hrest
    rw [← hmiddle] at htag
    have hend : ¬Text.byteLength (done ++ t) ≤ Text.byteLength (done ++ (Literal.span t).1) := by
      rw [hmiddle, Nat.not_le]
      exact byteLength_lt_append _ (List.cons_ne_nil _ _)
    rw [tokensFrom_tag (byteLength_lt_append done ht) htext hend htag hrest, hfront]

/-- **Reading by offsets agrees with reading by characters.** -/
theorem tokens_eq (t : Text) : tokens t = .ok (Template.parse t).tokens := by
  rw [tokens, Template.parse]
  split
  · rfl
  · exact tokensFrom_eq [] t

/-- **The tokens are those of the pieces.** A text that is not empty has one sequence of pieces.
They make up the text, none of them is empty, and no run stands next to another. Reading by offsets
never meets a bad offset, and gives the token of each piece in turn. -/
theorem tokens_pieces (t : Text) (ht : t ≠ []) :
    ∃ ps, Template.Pieces t ps ∧ (∀ qs, Template.Pieces t qs → qs = ps) ∧
      ps ≠ [] ∧ (∀ p ∈ ps, p.written ≠ []) ∧
      ps.IsChain (fun p q => ¬(p.isRun = true ∧ q.isRun = true)) ∧
      ps.flatMap Template.Piece.written = t ∧
      (∀ ts, tokens t = .ok ts ↔ List.Forall₂ Template.Piece.Gives ps ts) ∧
      tokens t = .ok (Template.parse t).tokens := by
  obtain ⟨ps, hps⟩ := Template.exists_pieces t
  have hscan : (Template.parse t).tokens = ps.map Template.Piece.token := by
    rw [Template.parse, if_neg (by simpa using ht), hps.scan_eq]
  refine ⟨ps, hps, fun qs hqs => hqs.unique hps, ?_, hps.written_ne_nil, hps.isChain,
    hps.flatMap_written, ?_, tokens_eq t⟩
  · rintro rfl
    exact ht hps.flatMap_written.symm
  · intro ts
    rw [tokens_eq, hscan, Template.Piece.forall₂_gives_iff, Except.ok.injEq, eq_comm]

/-- Rows of braces, a tag with a brace in its format, one not closed, and one without a name. -/
def mixed : Text :=
  ['}', '}', '}', 'é', '{', '{', '{', '@', '0', '7', ',', '-', '0', '9', ':', ':', ',',
    '{', '}', '{', 'b', '<', '{', ':', '}']

theorem tokens_mixed : mixed ≠ [] ∧
    tokens mixed =
      .ok [.text ['}', '}', 'é', '{'] ['}', '}', '}', 'é', '{', '{'],
        .tag { name := ['0', '7'], capture := .destructure, alignment := some ⟨.left, 9⟩,
               format := some [':', ',', '{'],
               written := ['{', '@', '0', '7', ',', '-', '0', '9', ':', ':', ',', '{', '}'] },
        .verbatim ['{', 'b'], .text ['<'] ['<'], .verbatim ['{', ':', '}']] := by
  have hne : mixed ≠ [] := by decide
  refine ⟨hne, ?_⟩
  obtain ⟨ps, -, hunique, -, -, -, -, htokens, -⟩ := tokens_pieces mixed hne
  have hpieces : Template.Pieces mixed
      [.run ['}', '}', 'é', '{'] ['}', '}', '}', 'é', '{', '{'], .closed Tag.Form.braced.content,
        .unclosed ['b'], .run ['<'] ['<'], .closed [':']] := by
    refine .cons (.run rfl (by decide) ?_ (Or.inr ⟨_, rfl, by decide⟩)) <|
      .cons (.closed rfl (by decide) (List.all_eq_true.1 (by decide +kernel))) <|
      .cons (.unclosed rfl (by decide) (List.all_eq_true.1 (by decide +kernel)) ?_) <|
      .cons (.run rfl (by decide) (.char (by decide) (by decide) .nil)
        (Or.inr ⟨_, rfl, by decide⟩)) <|
      .cons (.closed rfl (by decide) (List.all_eq_true.1 (by decide +kernel))) .nil
    · exact .closing (.lone (by decide) (.char (by decide) (by decide) (.opening .nil)))
    · rintro c ⟨⟩
      exact ⟨by decide +kernel, by decide⟩
  rw [htokens, ← hunique _ hpieces]
  exact .cons .run <| .cons (.tag .braced) <| .cons .unclosed <| .cons .run <|
    .cons (.noTag (Tag.ofContent?_eq_none_iff.1 rfl)) .nil

end MessageTemplate.Cursor
