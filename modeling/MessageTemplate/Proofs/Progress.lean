import MessageTemplate.Proofs.Cursor

/-!
# Progress of the cursor

A template is read in rounds: literal text, and the tag after it. Every round moves the cursor
forward, and none moves it beyond the end. A round that reads a tag gives two tokens at most and has
read an opening brace, and only the last round reads none. So the opening braces tell in advance how
many tokens there are at most.

* `Template.round`: the tokens of one round, and what follows them. `Template.length_round_le`: how
  many there are.
* `Cursor.round`: one round by offsets. `Cursor.tokensFrom_eq_round`: reading is one round after
  another. `Cursor.round_eq`: a round by offsets agrees with one by characters.
* `Cursor.Reads`: the tokens and the cursor at the beginning of every round.
* `Cursor.Stands`: the invariant of the rounds. **`Cursor.Stands.round`**: a round moves the cursor
  forward and preserves it.
* `Cursor.capacity`: the room for tokens that is made in advance.
* **`Cursor.reads_progress`**: every round moves forward, and the room is never used up.
-/

namespace MessageTemplate

/-! ## One round by characters -/

namespace Template

/-- The literal text at the front and the tag after it, as far as there are any, and what follows. -/
def round (t : Text) : List Token × Text :=
  match (Literal.span t).2 with
  | [] => (front t, [])
  | _ :: cs => (front t ++ [(scanTag cs).1], (scanTag cs).2)

variable {t cs : Text}

theorem round_of_end (h : (Literal.span t).2 = []) : round t = (front t, []) := by
  rw [round, h]

theorem round_of_tag (h : (Literal.span t).2 = '{' :: cs) :
    round t = (front t ++ [(scanTag cs).1], (scanTag cs).2) := by
  rw [round, h]

theorem span_fst_of_end (h : (Literal.span t).2 = []) : (Literal.span t).1 = t := by
  have hspan := Literal.span_append t
  rwa [h, List.append_nil] at hspan

theorem opening_mem_written_scanTag (cs : Text) : '{' ∈ (scanTag cs).1.written := by
  unfold scanTag
  split
  · rw [Token.written_ofContent]
    exact List.mem_cons_self
  · exact List.mem_cons_self

theorem length_front_le (t : Text) : (front t).length ≤ 1 := by
  rw [front]
  split
  · exact Nat.zero_le 1
  · exact Nat.le_refl 1

theorem written_ne_nil_of_mem_front {token : Token} (h : token ∈ front t) : token.written ≠ [] := by
  rw [front] at h
  split at h
  · cases h
  · rename_i hspan
    rw [List.mem_singleton.1 h, Token.literal, Token.written]
    simpa using hspan

/-- **A round loses nothing.** -/
theorem written_round (t : Text) : (round t).1.flatMap Token.written ++ (round t).2 = t := by
  rcases Literal.span_snd t with h | ⟨cs, h⟩
  · rw [round_of_end h, written_front, List.append_nil, span_fst_of_end h]
  · rw [round_of_tag h, List.flatMap_append, written_front, List.flatMap_singleton,
      List.append_assoc, written_scanTag, ← h, Literal.span_append]

theorem written_ne_nil_of_mem_round {token : Token} (h : token ∈ (round t).1) :
    token.written ≠ [] := by
  rcases Literal.span_snd t with hend | ⟨cs, htag⟩
  · rw [round_of_end hend] at h
    exact written_ne_nil_of_mem_front h
  · rw [round_of_tag htag] at h
    rcases List.mem_append.1 h with h | h
    · exact written_ne_nil_of_mem_front h
    · rw [List.mem_singleton.1 h]
      exact List.ne_nil_of_mem (opening_mem_written_scanTag cs)

theorem written_round_ne_nil (h : t ≠ []) : (round t).1.flatMap Token.written ≠ [] := by
  rcases Literal.span_snd t with hend | ⟨cs, htag⟩
  · rw [round_of_end hend, written_front, span_fst_of_end hend]
    exact h
  · rw [round_of_tag htag, List.flatMap_append, List.flatMap_singleton]
    exact List.append_ne_nil_of_right_ne_nil _
      (List.ne_nil_of_mem (opening_mem_written_scanTag cs))

/-- **A round gives two tokens at most for an opening brace**, and the last one may give one more. -/
theorem length_round_le (t : Text) : (round t).1.length ≤
    2 * ((round t).1.flatMap Token.written).count '{' + if (round t).2 = [] then 1 else 0 := by
  have hfront := length_front_le t
  rcases Literal.span_snd t with hend | ⟨cs, htag⟩
  · rw [round_of_end hend, if_pos rfl]
    exact Nat.le_add_left_of_le hfront
  · have hbrace := List.count_pos_iff.2 (opening_mem_written_scanTag cs)
    rw [round_of_tag htag, List.length_append, List.length_singleton, List.flatMap_append,
      List.flatMap_singleton, List.count_append]
    omega

end Template

/-! ## One round by offsets -/

namespace Cursor

/-- Read literal text, and the tag after it unless the text has come to its end. -/
def round (t : Text) (pos : Nat) : Except BadOffset (List Token × Nat) := do
  let (text?, middle) ← nextText t pos
  if t.byteLength ≤ middle then return (text?.toList, middle)
  else
    let (token, next) ← nextTag t middle
    return (text?.toList ++ [token], next)

/-- **Reading is one round after another.** -/
theorem tokensFrom_eq_round (t : Text) (pos : Nat) : tokensFrom t pos =
    if pos < t.byteLength then do
      let (ts, next) ← round t pos
      return ts ++ (← tokensFrom t next)
    else return [] := by
  by_cases hpos : pos < t.byteLength
  · rw [if_pos hpos, round]
    conv_lhs => rw [tokensFrom, dif_pos hpos]
    split
    · rename_i h
      rw [h]
      rfl
    · rename_i text? middle h
      rw [h, ok_bind]
      dsimp only
      split
      · rename_i hend
        rw [pure_bind, tokensFrom_end (Nat.not_lt.2 hend), ok_bind, List.append_nil]
      · split
        · rename_i h
          rw [h]
          rfl
        · rename_i token next h
          rw [h, ok_bind, pure_bind]
          dsimp only
          simp only [List.append_assoc, List.singleton_append]
  · rw [if_neg hpos, tokensFrom_end hpos]
    rfl

/-- **A round by offsets agrees with one by characters.** -/
theorem round_eq (done t : Text) : round (done ++ t) (Text.byteLength done) =
    .ok ((Template.round t).1,
      Text.byteLength (done ++ (Template.round t).1.flatMap Token.written)) := by
  have hspan := Literal.span_append t
  obtain ⟨text?, htext, hfront⟩ := nextText_eq done t
  rw [round, htext, ok_bind]
  dsimp only
  rcases Literal.span_snd t with hend | ⟨cs, htag⟩
  · rw [Template.round_of_end hend, Template.written_front, Template.span_fst_of_end hend,
      if_pos (Nat.le_refl _), hfront]
    rfl
  · have hmiddle : done ++ t = done ++ (Literal.span t).1 ++ '{' :: cs := by
      rw [List.append_assoc, ← htag, hspan]
    have hlt := byteLength_lt_append (done ++ (Literal.span t).1) (List.cons_ne_nil '{' cs)
    rw [← hmiddle] at hlt
    rw [if_neg (Nat.not_le.2 hlt), hmiddle, nextTag_eq, ok_bind, Template.round_of_tag htag,
      List.flatMap_append, Template.written_front, List.flatMap_singleton, ← List.append_assoc,
      hfront]
    rfl

/-! ## All rounds -/

/-- `Reads t ts pos`: at the beginning of a round, or after the last one, the tokens `ts` have been
read from `t`, and the cursor stands at `pos`. -/
inductive Reads (t : Text) : List Token → Nat → Prop
  | start : Reads t [] 0
  | round {ts us : List Token} {pos next : Nat} : Reads t ts pos → pos < t.byteLength →
      round t pos = .ok (us, next) → Reads t (ts ++ us) next

theorem Reads.tokensFrom_eq {t : Text} {ts us : List Token} {pos : Nat} (h : Reads t ts pos)
    (hrest : tokensFrom t pos = .ok us) : tokensFrom t 0 = .ok (ts ++ us) := by
  induction h generalizing us with
  | start => exact hrest
  | @round ts vs pos next _ hpos hround ih =>
    rw [List.append_assoc]
    refine ih ?_
    rw [tokensFrom_eq_round, if_pos hpos, hround, ok_bind]
    dsimp only
    rw [hrest]
    rfl

/-- What holds at the beginning of every round, with `rest` still to be read. The tokens are counted
against the opening braces in what has been read. -/
structure Stands (t : Text) (ts : List Token) (pos : Nat) (rest : Text) : Prop where
  written_append : ts.flatMap Token.written ++ rest = t
  pos_eq : pos = Text.byteLength (ts.flatMap Token.written)
  written_ne_nil : ∀ token ∈ ts, token.written ≠ []
  length_le : ts.length ≤
    2 * (ts.flatMap Token.written).count '{' + if rest = [] then 1 else 0

theorem stands_start (t : Text) : Stands t [] 0 t where
  written_append := rfl
  pos_eq := rfl
  written_ne_nil := by simp
  length_le := Nat.zero_le _

namespace Stands

variable {t rest : Text} {ts : List Token} {pos : Nat}

theorem le_byteLength (h : Stands t ts pos rest) : pos ≤ t.byteLength := by
  rw [h.pos_eq, ← h.written_append, Text.byteLength_append]
  exact Nat.le_add_right _ _

theorem lt_byteLength_iff (h : Stands t ts pos rest) : pos < t.byteLength ↔ rest ≠ [] := by
  rw [h.pos_eq, ← h.written_append, Text.byteLength_append, Nat.lt_add_right_iff_pos,
    Nat.pos_iff_ne_zero, ne_eq, Text.byteLength_eq_zero_iff]

theorem length_le_count (h : Stands t ts pos rest) : ts.length ≤ 1 + 2 * t.count '{' := by
  have hle := h.length_le
  rw [← h.written_append, List.count_append]
  split at hle <;> omega

/-- **A round moves the cursor forward**, not beyond the end, and preserves the invariant. -/
theorem round (h : Stands t ts pos rest) (hpos : pos < t.byteLength) :
    ∃ us next rest', Cursor.round t pos = .ok (us, next) ∧ pos < next ∧
      Stands t (ts ++ us) next rest' := by
  have hrest := h.lt_byteLength_iff.1 hpos
  have hround := round_eq (ts.flatMap Token.written) rest
  have hmoved := byteLength_lt_append (ts.flatMap Token.written)
    (Template.written_round_ne_nil hrest)
  rw [h.written_append, ← h.pos_eq] at hround
  rw [← h.pos_eq] at hmoved
  refine ⟨_, _, (Template.round rest).2, hround, hmoved, ?_, ?_, ?_, ?_⟩
  · rw [List.flatMap_append, List.append_assoc, Template.written_round, h.written_append]
  · rw [List.flatMap_append]
  · intro token htoken
    rcases List.mem_append.1 htoken with htoken | htoken
    · exact h.written_ne_nil token htoken
    · exact Template.written_ne_nil_of_mem_round htoken
  · -- as something was left to be read, no token has been counted beyond the braces so far
    have hbefore := h.length_le
    have hthis := Template.length_round_le rest
    rw [if_neg hrest] at hbefore
    rw [List.length_append, List.flatMap_append, List.count_append]
    omega

end Stands

section

variable {t : Text} {ts : List Token} {pos : Nat}

/-- The invariant holds at the beginning of every round. -/
theorem Reads.exists_stands (h : Reads t ts pos) : ∃ rest, Stands t ts pos rest := by
  induction h with
  | start => exact ⟨t, stands_start t⟩
  | round _ hpos hround ih =>
    obtain ⟨rest, hstands⟩ := ih
    obtain ⟨us, next, rest', hround', -, hnext⟩ := hstands.round hpos
    obtain ⟨rfl, rfl⟩ := Prod.mk.inj (Except.ok.inj (hround.symm.trans hround'))
    exact ⟨rest', hnext⟩

/-- As every round moves forward, the last one comes to the end. -/
theorem Reads.exists_end (h : Reads t ts pos) : ∃ us, Reads t us t.byteLength := by
  induction hn : t.byteLength - pos using Nat.strongRecOn generalizing ts pos with
  | _ n ih =>
    obtain ⟨rest, hstands⟩ := h.exists_stands
    rcases Nat.lt_or_eq_of_le hstands.le_byteLength with hpos | rfl
    · obtain ⟨us, next, rest', hround, hlt, hnext⟩ := hstands.round hpos
      exact ih (t.byteLength - next) (by omega) (.round h hpos hround) rfl
    · exact ⟨ts, h⟩

theorem reads_tokens (ht : t ≠ []) : Reads t (Template.parse t).tokens t.byteLength := by
  obtain ⟨us, hus⟩ := Reads.start.exists_end (t := t)
  have htokens := hus.tokensFrom_eq (tokensFrom_end (Nat.lt_irrefl _))
  have hparse := tokens_eq t
  rw [tokens, if_neg (by simpa using ht), htokens, List.append_nil] at hparse
  rwa [← Except.ok.inj hparse]

end

/-! ## The room for tokens -/

/-- The number of tokens that room is made for in advance, by the bytes of the text. -/
def capacity (t : Text) : Nat := 1 + (Text.utf8 t).count openingByte * 2

theorem count_openingByte (t : Text) : (Text.utf8 t).count openingByte = t.count '{' := by
  induction t with
  | nil => rfl
  | cons c t ih =>
    have hcons : Text.utf8 (c :: t) = Text.utf8 [c] ++ Text.utf8 t := Text.utf8_append [c] t
    rw [hcons, List.count_append, ih, List.count_cons, Nat.add_comm]
    congr 1
    by_cases hc : c = '{'
    · rw [hc]
      rfl
    · have hbyte : openingByte ∉ Text.utf8 [c] := by
        refine Text.notMem_utf8 (by decide) fun d hd e => hc ?_
        rw [← List.mem_singleton.1 hd]
        exact Char.toNat_inj.1 e
      rw [List.count_eq_zero_of_not_mem hbyte, if_neg (by simpa using hc)]

theorem capacity_eq (t : Text) : capacity t = 1 + 2 * t.count '{' := by
  rw [capacity, count_openingByte, Nat.mul_comm]

/-- **Every round moves the cursor forward, and the room for tokens is never used up.** A round
before the end meets no bad offset, and the cursor stands further on after it, but not beyond the
end. The tokens that have been read find room at any time. In the end they are the tokens of the
text, and each of them has been read from some characters, unless the text is empty. -/
theorem reads_progress (t : Text) :
    (∀ ts pos, Reads t ts pos →
      ts.length ≤ capacity t ∧ pos ≤ t.byteLength ∧
        (pos < t.byteLength → ∃ us next, round t pos = .ok (us, next) ∧
          pos < next ∧ next ≤ t.byteLength)) ∧
    tokens t = .ok (Template.parse t).tokens ∧
    (t ≠ [] → Reads t (Template.parse t).tokens t.byteLength ∧
      ∀ token ∈ (Template.parse t).tokens, token.written ≠ []) ∧
    (Template.parse t).tokens.length ≤ 1 + 2 * t.count '{' ∧
    capacity t = 1 + 2 * t.count '{' := by
  refine ⟨?_, tokens_eq t, ?_, ?_, capacity_eq t⟩
  · intro ts pos h
    obtain ⟨rest, hstands⟩ := h.exists_stands
    refine ⟨capacity_eq t ▸ hstands.length_le_count, hstands.le_byteLength, fun hpos => ?_⟩
    obtain ⟨us, next, rest', hround, hlt, hnext⟩ := hstands.round hpos
    exact ⟨us, next, hround, hlt, hnext.le_byteLength⟩
  · intro ht
    obtain ⟨rest, hstands⟩ := (reads_tokens ht).exists_stands
    exact ⟨reads_tokens ht, hstands.written_ne_nil⟩
  · by_cases ht : t = []
    · rw [ht]
      decide
    · obtain ⟨rest, hstands⟩ := (reads_tokens ht).exists_stands
      exact hstands.length_le_count

/-- A tag and an opening brace that is not closed, with text around each of them. -/
def tight : Text := ['é', '{', 'b', '}', '\n', '{', 'c', '\n']

theorem pieces_tight : Template.Pieces tight
    [.run ['é'] ['é'], .closed ['b'], .run ['\n'] ['\n'], .unclosed ['c'],
      .run ['\n'] ['\n']] := by
  have hb : ∀ c ∈ ['b'], CharClass.isTag c = true := List.all_eq_true.1 (by decide +kernel)
  have hc : ∀ c ∈ ['c'], CharClass.isTag c = true := List.all_eq_true.1 (by decide +kernel)
  refine .cons (.run rfl (by decide) (.char (by decide) (by decide) .nil)
      (Or.inr ⟨_, rfl, by decide⟩)) <| .cons (.closed rfl (by decide) hb) <|
    .cons (.run rfl (by decide) (.char (by decide) (by decide) .nil)
      (Or.inr ⟨_, rfl, by decide⟩)) <| .cons (.unclosed rfl (by decide) hc ?_) <|
    .cons (.run rfl (by decide) (.char (by decide) (by decide) .nil) (Or.inl rfl)) .nil
  rintro c ⟨⟩
  exact ⟨by decide +kernel, by decide⟩

theorem reads_tight : Reads tight [.text ['é'] ['é'], .ofContent ['b']] 5 := by
  have hb : ∀ c ∈ ['b'], CharClass.isTag c = true := List.all_eq_true.1 (by decide +kernel)
  have hspan : Literal.span tight = (['é'], '{' :: (['b'] ++ '}' :: ['\n', '{', 'c', '\n'])) := by
    decide
  have hfirst : Template.round tight =
      ([.text ['é'] ['é'], .ofContent ['b']], ['\n', '{', 'c', '\n']) := by
    rw [Template.round_of_tag (congrArg Prod.snd hspan), Template.front, hspan,
      Template.scanTag_closed hb, if_neg (by decide), Token.literal,
      Literal.unescape_cons (by decide) (.inl (by decide)), Literal.unescape, List.singleton_append]
  have hround := round_eq [] tight
  rw [hfirst, List.flatMap_cons, List.flatMap_singleton, Token.written_ofContent] at hround
  exact .round .start (by decide +kernel) hround

/-- The room is used up to the last place. -/
theorem progress_tight : tight ≠ [] ∧ Reads tight [.text ['é'] ['é'], .ofContent ['b']] 5 ∧
    5 < tight.byteLength ∧
    (∃ us next, round tight 5 = .ok (us, next) ∧ 5 < next ∧ next ≤ tight.byteLength) ∧
    tokens tight = .ok [.text ['é'] ['é'], .ofContent ['b'], .text ['\n'] ['\n'],
      .verbatim ['{', 'c'], .text ['\n'] ['\n']] ∧ capacity tight = 5 := by
  have hne : tight ≠ [] := by decide
  have hmiddle : 5 < tight.byteLength := by decide +kernel
  obtain ⟨hrounds, htokens, hend, -, hcapacity⟩ := reads_progress tight
  have hscan : (Template.parse tight).tokens = [.text ['é'] ['é'], .ofContent ['b'],
      .text ['\n'] ['\n'], .verbatim ['{', 'c'], .text ['\n'] ['\n']] := pieces_tight.scan_eq
  rw [hscan] at htokens
  exact ⟨hne, reads_tight, hmiddle, (hrounds _ _ reads_tight).2.2 hmiddle, htokens, hcapacity⟩

end Cursor

end MessageTemplate
