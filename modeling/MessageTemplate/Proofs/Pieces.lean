import Mathlib.Data.List.Chain
import Mathlib.Data.List.TakeWhile
import MessageTemplate.Proofs.TagForm
import MessageTemplate.Template

/-!
# The pieces of a template

Where the tokens of a template begin and end, said of its characters alone. Read from the left, a
template falls into runs of literal text and pieces that begin with a single opening brace.

* `Literal.Units`: a row of units of literal text. `Literal.Stops`: where such a row cannot go on.
* `Template.Piece`, `Template.First`, `Template.Pieces`: a piece, the first piece of a text, and the
  pieces of a text.
* `Template.First.unique`, `Template.exists_first`: each text that is not empty has one first piece.
* `Template.First.isRun_eq_false`: no run follows a run.
* **`Template.Pieces.scan_eq`**, `Template.exists_pieces`, `Template.Pieces.unique`: scanning gives
  one token for each piece.
* `Template.Piece.Gives`: the token of a piece, by the forms of tags. `Template.Piece.gives_iff`.
-/

namespace MessageTemplate

/-! ## Literal text -/

namespace Literal

/-- `Units m w r`: in front of `r`, the text `w` is a row of units, and it stands for `m`. A unit is
a character that is no brace, a doubled brace, or a closing brace that no closing brace follows. -/
inductive Units : Text → Text → Text → Prop
  | nil {r : Text} : Units [] [] r
  | char {c : Char} {m w r : Text} : c ≠ '{' → c ≠ '}' → Units m w r → Units (c :: m) (c :: w) r
  | opening {m w r : Text} : Units m w r → Units ('{' :: m) ('{' :: '{' :: w) r
  | closing {m w r : Text} : Units m w r → Units ('}' :: m) ('}' :: '}' :: w) r
  | lone {m w r : Text} : (w ++ r).head? ≠ some '}' → Units m w r → Units ('}' :: m) ('}' :: w) r

/-- No unit begins here: this is the end, or an opening brace that is not doubled. -/
def Stops (r : Text) : Prop := r = [] ∨ ∃ cs, r = '{' :: cs ∧ cs.head? ≠ some '{'

theorem span_of_stops {r : Text} (h : Stops r) : span r = ([], r) := by
  rcases h with rfl | ⟨cs, rfl, hcs⟩
  · rfl
  · cases cs with
    | nil => rfl
    | cons c cs =>
      have hc : c ≠ '{' := fun e => hcs (by rw [e, List.head?_cons])
      rw [span]
      simpa using hc

theorem span_cons {c : Char} (h : c ≠ '{') (t : Text) :
    span (c :: t) = (c :: (span t).1, (span t).2) := by
  rw [span] <;> simp [h]

theorem unescape_cons {c : Char} {t : Text} (h₁ : c ≠ '{')
    (h₂ : c ≠ '}' ∨ t.head? ≠ some '}') : unescape (c :: t) = c :: unescape t := by
  rw [unescape]
  · rintro cs rfl _
    exact h₁ rfl
  · rintro cs rfl rfl
    simp at h₂

theorem Units.span_append {m w r : Text} (h : Units m w r) (hr : Stops r) :
    span (w ++ r) = (w, r) := by
  induction h with
  | nil => exact span_of_stops hr
  | char h₁ _ _ ih => rw [List.cons_append, span_cons h₁, ih hr]
  | opening _ ih => rw [List.cons_append, List.cons_append, span, ih hr]
  | closing _ ih =>
    rw [List.cons_append, List.cons_append, span_cons (by decide), span_cons (by decide), ih hr]
  | lone _ _ ih => rw [List.cons_append, span_cons (by decide), ih hr]

theorem Units.unescape_eq {m w r : Text} (h : Units m w r) : unescape w = m := by
  induction h with
  | nil => rfl
  | char h₁ h₂ _ ih => rw [unescape_cons h₁ (Or.inl h₂), ih]
  | opening _ ih => rw [unescape, ih]
  | closing _ ih => rw [unescape, ih]
  | @lone m w r h _ ih =>
    rw [unescape_cons (by decide) (Or.inr ?_), ih]
    cases w with
    | nil => simp
    | cons c w => exact h

theorem stops_span (t : Text) : Stops (span t).2 := by
  fun_induction span t with
  | case1 cs ih => exact ih
  | case2 cs h =>
    refine Or.inr ⟨cs, rfl, ?_⟩
    cases cs with
    | nil => simp
    | cons c cs => simpa using fun e : c = '{' => h cs (by rw [e])
  | case3 c cs _ _ ih => exact ih
  | case4 => exact Or.inl rfl

theorem exists_units : ∀ t : Text, ∃ m, Units m (span t).1 (span t).2
  | [] => ⟨[], .nil⟩
  | [c] => by
    by_cases h₁ : c = '{'
    · subst h₁
      exact ⟨[], .nil⟩
    · by_cases h₂ : c = '}'
      · subst h₂
        exact ⟨['}'], .lone (by simp [span]) .nil⟩
      · refine ⟨[c], ?_⟩
        rw [span_cons h₁]
        exact .char h₁ h₂ .nil
  | c :: d :: t => by
    by_cases h₁ : c = '{'
    · subst h₁
      by_cases hd : d = '{'
      · subst hd
        obtain ⟨m, hm⟩ := exists_units t
        exact ⟨'{' :: m, .opening hm⟩
      · refine ⟨[], ?_⟩
        rw [span_of_stops (Or.inr ⟨d :: t, rfl, by simpa using hd⟩)]
        exact .nil
    · rw [span_cons h₁]
      by_cases h₂ : c = '}'
      · subst h₂
        by_cases hd : d = '}'
        · subst hd
          obtain ⟨m, hm⟩ := exists_units t
          rw [span_cons (by decide)]
          exact ⟨'}' :: m, .closing hm⟩
        · obtain ⟨m, hm⟩ := exists_units (d :: t)
          refine ⟨'}' :: m, .lone ?_ hm⟩
          rw [span_append]
          simpa using hd
      · obtain ⟨m, hm⟩ := exists_units (d :: t)
        exact ⟨c :: m, .char h₁ h₂ hm⟩

theorem Units.eq_nil_of_stops {m w r : Text} (h : Units m w r) (hs : Stops (w ++ r)) : w = [] := by
  rcases hs with hs | ⟨cs, hs, hcs⟩
  · exact (List.append_eq_nil_iff.1 hs).1
  · cases h with
    | nil => rfl
    | char h₁ => exact absurd (List.cons.inj hs).1 h₁
    | opening =>
      obtain ⟨_, rfl⟩ := List.cons.inj hs
      exact absurd rfl hcs
    | closing => exact absurd (List.cons.inj hs).1 (by decide)
    | lone => exact absurd (List.cons.inj hs).1 (by decide)

end Literal

namespace Template

/-! ## Pieces -/

/-- A piece of a template as it is written. -/
inductive Piece where
  /-- A run of literal text, and what it stands for. -/
  | run (meaning written : Text)
  /-- The characters between an opening brace and a closing one. -/
  | closed (content : Text)
  /-- The characters after an opening brace that is not closed. -/
  | unclosed (content : Text)

namespace Piece

/-- A piece as it stands in the text. -/
def written : Piece → Text
  | run _ w => w
  | closed content => Tag.enclose content
  | unclosed content => '{' :: content

/-- Whether a piece is a run of literal text. -/
def isRun : Piece → Bool
  | run .. => true
  | _ => false

/-- What token a piece stands for, told by the forms of tags. -/
inductive Gives : Piece → Token → Prop
  | run {m w : Text} : Gives (run m w) (.text m w)
  | tag (f : Tag.Form) : Gives (closed f.content) (.tag f.tag)
  | noTag {content : Text} : (∀ f : Tag.Form, f.content ≠ content) →
      Gives (closed content) (.verbatim (Tag.enclose content))
  | unclosed {content : Text} : Gives (unclosed content) (.verbatim ('{' :: content))

/-- The token that a piece stands for. -/
def token : Piece → Token
  | run m w => .text m w
  | closed content => .ofContent content
  | unclosed content => .verbatim ('{' :: content)

theorem gives_iff {p : Piece} {t : Token} : p.Gives t ↔ t = p.token := by
  constructor
  · rintro (_ | f | h | _)
    · rfl
    · rw [token, Token.ofContent, f.ofContent?_content]
    · rw [token, Token.ofContent, Tag.ofContent?_eq_none_iff.2 h]
    · rfl
  · rintro rfl
    cases p with
    | run m w => exact .run
    | unclosed content => exact .unclosed
    | closed content =>
      rw [token, Token.ofContent]
      cases h : Tag.ofContent? content with
      | none => exact .noTag (Tag.ofContent?_eq_none_iff.1 h)
      | some t =>
        obtain ⟨f, rfl, rfl⟩ := Tag.ofContent?_eq_some_iff.1 h
        exact .tag f

theorem forall₂_gives_iff {ps : List Piece} {ts : List Token} :
    List.Forall₂ Gives ps ts ↔ ts = ps.map token := by
  constructor
  · intro h
    induction h with
    | nil => rfl
    | cons hp _ ih => rw [List.map_cons, ← gives_iff.1 hp, ← ih]
  · rintro rfl
    induction ps with
    | nil => exact .nil
    | cons p ps ih => exact .cons (gives_iff.2 rfl) ih

theorem written_token (p : Piece) : p.token.written = p.written := by
  cases p with
  | closed content => exact Token.written_ofContent content
  | _ => rfl

end Piece

/-- `First t p r`: the text `t` begins with the piece `p`, and `r` follows it. At a single opening
brace, the piece goes as far as characters may stand in a tag, and further over a closing brace. -/
inductive First : Text → Piece → Text → Prop
  | run {t m w r : Text} : w ++ r = t → w ≠ [] → Literal.Units m w r → Literal.Stops r →
      First t (.run m w) r
  | closed {t content r : Text} : '{' :: (content ++ '}' :: r) = t →
      (content ++ '}' :: r).head? ≠ some '{' → (∀ c ∈ content, CharClass.isTag c = true) →
      First t (.closed content) r
  | unclosed {t content r : Text} : '{' :: (content ++ r) = t →
      (content ++ r).head? ≠ some '{' → (∀ c ∈ content, CharClass.isTag c = true) →
      (∀ c, r.head? = some c → CharClass.isTag c = false ∧ c ≠ '}') → First t (.unclosed content) r

/-- The pieces of a text, one after another up to its end. -/
inductive Pieces : Text → List Piece → Prop
  | nil : Pieces [] []
  | cons {t r : Text} {p : Piece} {ps : List Piece} : First t p r → Pieces r ps → Pieces t (p :: ps)

/-! ## The stretch after an opening brace -/

theorem head?_cons_closing {r : Text} :
    ∀ c, ('}' :: r).head? = some c → CharClass.isTag c = false := by
  rintro c ⟨⟩
  exact CharClass.not_tag_closing

theorem stretch_unique {a b r s : Text} (ha : ∀ c ∈ a, CharClass.isTag c = true)
    (hr : ∀ c, r.head? = some c → CharClass.isTag c = false)
    (hb : ∀ c ∈ b, CharClass.isTag c = true)
    (hs : ∀ c, s.head? = some c → CharClass.isTag c = false) (h : a ++ r = b ++ s) :
    a = b ∧ r = s := by
  constructor
  · rw [← Text.takeWhile_append ha hr, h, Text.takeWhile_append hb hs]
  · rw [← Text.dropWhile_append ha hr, h, Text.dropWhile_append hb hs]

theorem scanTag_closed {content : Text} (h : ∀ c ∈ content, CharClass.isTag c = true) (r : Text) :
    scanTag (content ++ '}' :: r) = (.ofContent content, r) := by
  rw [scanTag, Text.takeWhile_append h head?_cons_closing,
    Text.dropWhile_append h head?_cons_closing]
  rfl

theorem scanTag_unclosed {content r : Text} (h : ∀ c ∈ content, CharClass.isTag c = true)
    (hr : ∀ c, r.head? = some c → CharClass.isTag c = false ∧ c ≠ '}') :
    scanTag (content ++ r) = (.verbatim ('{' :: content), r) := by
  have hr' : ∀ c, r.head? = some c → CharClass.isTag c = false := fun c hc => (hr c hc).1
  rw [scanTag, Text.takeWhile_append h hr', Text.dropWhile_append h hr']
  split
  · exact absurd rfl (hr '}' rfl).2
  · rfl

/-! ## One step -/

theorem front_of_stops {r : Text} (h : Literal.Stops r) : front r = [] := by
  rw [front, Literal.span_of_stops h]
  rfl

theorem scan_eq_front_append (t : Text) : scan t = front t ++ scan (Literal.span t).2 := by
  have hs := Literal.stops_span t
  have hr := Literal.span_of_stops hs
  rw [scan]
  split
  · rename_i h
    rw [h, scan]
    simp [front, Literal.span]
  · rename_i b cs h
    conv_rhs => rw [scan]
    split
    · rename_i h'
      rw [hr, h] at h'
      cases h'
    · rename_i b' cs' h'
      rw [hr, h] at h'
      cases h'
      rw [front_of_stops hs, List.nil_append]

theorem scan_opening {cs : Text} (h : cs.head? ≠ some '{') :
    scan ('{' :: cs) = (scanTag cs).1 :: scan (scanTag cs).2 := by
  have hs : Literal.Stops ('{' :: cs) := Or.inr ⟨cs, rfl, h⟩
  rw [scan]
  split
  · rename_i h'
    rw [Literal.span_of_stops hs] at h'
    cases h'
  · rename_i b' cs' h'
    rw [Literal.span_of_stops hs] at h'
    cases h'
    rw [front_of_stops hs, List.nil_append]

namespace First

variable {t r : Text} {p : Piece}

theorem written_append (h : First t p r) : p.written ++ r = t := by
  cases h with
  | run ht => exact ht
  | closed ht => rw [← ht, Piece.written, Tag.enclose, List.cons_append, List.append_assoc]; rfl
  | unclosed ht => exact ht

theorem written_ne_nil (h : First t p r) : p.written ≠ [] := by
  cases h with
  | run _ hw => exact hw
  | closed => exact List.cons_ne_nil _ _
  | unclosed => exact List.cons_ne_nil _ _

theorem length_lt (h : First t p r) : r.length < t.length := by
  have hlen := congrArg List.length h.written_append
  have hpos := List.length_pos_iff.2 h.written_ne_nil
  rw [List.length_append] at hlen
  omega

theorem form (f : Tag.Form) (r : Text) :
    First (Tag.enclose f.content ++ r) (.closed f.content) r := by
  refine .closed ?_ (f.head?_content_append_ne_opening r) fun c => f.isTag_of_mem_content
  rw [Tag.enclose, List.cons_append, List.append_assoc]
  rfl

theorem span_eq (h : First t p r) :
    Literal.span t = if p.isRun then (p.written, r) else ([], t) := by
  cases h with
  | run ht _ hu hr => rw [← ht, hu.span_append hr]; rfl
  | closed ht hs => rw [← ht, Literal.span_of_stops (Or.inr ⟨_, rfl, hs⟩)]; rfl
  | unclosed ht hs => rw [← ht, Literal.span_of_stops (Or.inr ⟨_, rfl, hs⟩)]; rfl

/-- **A text has at most one first piece.** -/
theorem unique {q : Piece} {s : Text} (h : First t p r) (h' : First t q s) : p = q ∧ r = s := by
  have hspan := h.span_eq.symm.trans h'.span_eq
  cases h with
  | @run m w _ _ hw hu =>
    cases h' with
    | @run m' w' _ _ _ hu' =>
      obtain ⟨hww, rfl⟩ : w = w' ∧ r = s := Prod.mk.inj hspan
      subst hww
      obtain rfl : m = m' := hu.unescape_eq.symm.trans hu'.unescape_eq
      exact ⟨rfl, rfl⟩
    | closed => exact absurd (Prod.mk.inj hspan).1 hw
    | unclosed => exact absurd (Prod.mk.inj hspan).1 hw
  | closed ht _ hc =>
    cases h' with
    | run _ hw' => exact absurd (Prod.mk.inj hspan).1.symm hw'
    | closed ht' _ hc' =>
      have hcs := (List.cons.inj (ht.trans ht'.symm)).2
      obtain ⟨rfl, hrs⟩ := stretch_unique hc head?_cons_closing hc' head?_cons_closing hcs
      exact ⟨rfl, (List.cons.inj hrs).2⟩
    | unclosed ht' _ hc' hs =>
      have hcs := (List.cons.inj (ht.trans ht'.symm)).2
      obtain ⟨_, rfl⟩ := stretch_unique hc head?_cons_closing hc' (fun c h => (hs c h).1) hcs
      exact absurd rfl (hs '}' rfl).2
  | unclosed ht _ hc hr =>
    cases h' with
    | run _ hw' => exact absurd (Prod.mk.inj hspan).1.symm hw'
    | closed ht' _ hc' =>
      have hcs := (List.cons.inj (ht.trans ht'.symm)).2
      obtain ⟨_, rfl⟩ := stretch_unique hc (fun c h => (hr c h).1) hc' head?_cons_closing hcs
      exact absurd rfl (hr '}' rfl).2
    | unclosed ht' _ hc' hs =>
      have hcs := (List.cons.inj (ht.trans ht'.symm)).2
      obtain ⟨rfl, rfl⟩ :=
        stretch_unique hc (fun c h => (hr c h).1) hc' (fun c h => (hs c h).1) hcs
      exact ⟨rfl, rfl⟩

/-- **No run follows a run**: the first one has gone as far as units can be read. -/
theorem isRun_eq_false {q : Piece} {s : Text} (h : First t p r) (h' : First r q s)
    (hp : p.isRun = true) : q.isRun = false := by
  cases h with
  | closed => cases hp
  | unclosed => cases hp
  | run _ _ _ hr =>
    cases h' with
    | closed => rfl
    | unclosed => rfl
    | run ht' hw' hu' => exact absurd (hu'.eq_nil_of_stops (ht' ▸ hr)) hw'

theorem scan_eq (h : First t p r) : scan t = p.token :: scan r := by
  cases h with
  | @run m w _ ht hw hu hr =>
    have hspan := hu.span_append hr
    rw [ht] at hspan
    rw [scan_eq_front_append, front, hspan, if_neg (by simpa using hw), Token.literal,
      hu.unescape_eq]
    rfl
  | closed ht hs hc => rw [← ht, scan_opening hs, scanTag_closed hc]; rfl
  | unclosed ht hs hc hr => rw [← ht, scan_opening hs, scanTag_unclosed hc hr]; rfl

end First

theorem exists_first_opening {cs : Text} (h : cs.head? ≠ some '{') :
    ∃ p r, First ('{' :: cs) p r := by
  have hcs := List.takeWhile_append_dropWhile (p := CharClass.isTag) (l := cs)
  have htag : ∀ c ∈ cs.takeWhile CharClass.isTag, CharClass.isTag c = true :=
    fun c hc => List.mem_takeWhile_imp hc
  have hstop := List.head?_dropWhile_not CharClass.isTag cs
  cases hd : cs.dropWhile CharClass.isTag with
  | nil =>
    rw [hd] at hcs
    refine ⟨_, [], .unclosed (congrArg _ hcs) (by rwa [hcs]) htag ?_⟩
    rintro c ⟨⟩
  | cons c r =>
    rw [hd] at hcs hstop
    by_cases hc : c = '}'
    · subst hc
      exact ⟨_, r, .closed (congrArg _ hcs) (by rwa [hcs]) htag⟩
    · refine ⟨_, c :: r, .unclosed (congrArg _ hcs) (by rwa [hcs]) htag ?_⟩
      rintro c' ⟨⟩
      exact ⟨by simpa using hstop, hc⟩

/-- **A text that is not empty begins with a piece.** -/
theorem exists_first {t : Text} (ht : t ≠ []) : ∃ p r, First t p r := by
  have hs := Literal.stops_span t
  have happ := Literal.span_append t
  by_cases hw : (Literal.span t).1 = []
  · rw [hw, List.nil_append] at happ
    rw [happ] at hs
    rcases hs with rfl | ⟨cs, rfl, hcs⟩
    · exact absurd rfl ht
    · exact exists_first_opening hcs
  · obtain ⟨m, hm⟩ := Literal.exists_units t
    exact ⟨.run m _, _, .run happ hw hm hs⟩

/-! ## All pieces -/

theorem exists_pieces (t : Text) : ∃ ps, Pieces t ps := by
  induction h : t.length using Nat.strongRecOn generalizing t with
  | _ n ih =>
    by_cases ht : t = []
    · subst ht
      exact ⟨[], .nil⟩
    · obtain ⟨p, r, hp⟩ := exists_first ht
      obtain ⟨ps, hps⟩ := ih r.length (h ▸ hp.length_lt) r rfl
      exact ⟨p :: ps, .cons hp hps⟩

namespace Pieces

variable {t : Text} {ps : List Piece}

theorem flatMap_written (h : Pieces t ps) : ps.flatMap Piece.written = t := by
  induction h with
  | nil => rfl
  | cons hp _ ih => rw [List.flatMap_cons, ih, hp.written_append]

theorem written_ne_nil (h : Pieces t ps) : ∀ p ∈ ps, p.written ≠ [] := by
  induction h with
  | nil => simp
  | cons hp _ ih => exact List.forall_mem_cons.2 ⟨hp.written_ne_nil, ih⟩

/-- **No two runs stand side by side.** -/
theorem isChain (h : Pieces t ps) :
    ps.IsChain fun p q => ¬(p.isRun = true ∧ q.isRun = true) := by
  induction h with
  | nil => exact .nil
  | cons hp h ih =>
    cases h with
    | nil => exact .singleton _
    | cons hq =>
      refine ih.cons_cons ?_
      rintro ⟨hpr, hqr⟩
      rw [hp.isRun_eq_false hq hpr] at hqr
      cases hqr

/-- **A text has one sequence of pieces.** -/
theorem unique {qs : List Piece} (h : Pieces t ps) (h' : Pieces t qs) : ps = qs := by
  induction h generalizing qs with
  | nil =>
    cases h' with
    | nil => rfl
    | cons hq => exact absurd hq.length_lt (Nat.not_lt_zero _)
  | cons hp _ ih =>
    cases h' with
    | nil => exact absurd hp.length_lt (Nat.not_lt_zero _)
    | cons hq hqs =>
      obtain ⟨rfl, rfl⟩ := hp.unique hq
      rw [ih hqs]

/-- **Scanning gives the tokens of the pieces.** -/
theorem scan_eq (h : Pieces t ps) : scan t = ps.map Piece.token := by
  induction h with
  | nil =>
    rw [scan]
    rfl
  | cons hp _ ih => rw [hp.scan_eq, ih, List.map_cons]

end Pieces

/-- The tokens of every text make it up, those of the empty text too. -/
theorem written_parse (t : Text) : (parse t).tokens.flatMap Token.written = t := by
  rw [parse]
  by_cases ht : t = []
  · rw [ht]
    rfl
  · rw [if_neg (by simpa using ht), written_scan]

end Template

end MessageTemplate
