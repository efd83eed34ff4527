import MessageTemplate.Scalar.Rendering

/-!
# Where quoted texts end

Between two quotes a backslash takes the character after it as it is, so the first quote without a
backslash is the last character of a quoted text. No text can end itself early, whatever quotes and
backslashes it holds, and what follows the closing quote is never mistaken for a part of it.

* `Quoted.unescape?`, `Quoted.decode?`: reading up to the closing quote, and reading both quotes.
* **`Quoted.decode?_encode_append`**: a quoted text reads back, whatever follows it.
* `Quoted.encode_append_inj`: so a quoted text cannot be taken for another one.
* `Scalar.Quotes`: the scalars that are written between quotes.
* **`Scalar.render_quoted`**: they read back, and they can be told from one another.
-/

namespace MessageTemplate

namespace Quoted

/-- The text up to the closing quote, in which a character after a backslash counts as it is, and
what follows the quote. -/
def unescape? (quote : Char) : Text → Option (Text × Text)
  | [] => none
  | '\\' :: c :: t => (unescape? quote t).map (Prod.map (c :: ·) id)
  | c :: t =>
    if c = quote then some ([], t) else (unescape? quote t).map (Prod.map (c :: ·) id)

/-- The text between two quotes, and what follows the second one. -/
def decode? (quote : Char) : Text → Option (Text × Text)
  | [] => none
  | c :: t => if c = quote then unescape? quote t else none

theorem unescape?_cons {c : Char} (h : c ≠ '\\') (quote : Char) (t : Text) :
    unescape? quote (c :: t) =
      if c = quote then some ([], t) else (unescape? quote t).map (Prod.map (c :: ·) id) := by
  rw [unescape?]
  exact fun _ _ hc _ => h hc

section Append

variable {quote : Char} (hquote : quote ≠ '\\')
include hquote

/-- The quotes of the text are behind backslashes, so reading goes on up to the closing one. -/
theorem unescape?_escape_append (t r : Text) :
    unescape? quote (escape quote t ++ quote :: r) = some (t, r) := by
  induction t with
  | nil => rw [escape, List.nil_append, unescape?_cons hquote, if_pos rfl]
  | cons c t ih =>
    rw [escape]
    split
    · rw [List.cons_append, List.cons_append, unescape?, ih]
      rfl
    · rename_i hplain
      rw [not_or] at hplain
      rw [List.cons_append, unescape?_cons hplain.2, if_neg hplain.1, ih]
      rfl

/-- **A quoted text reads back**, and what follows it is left. -/
theorem decode?_encode_append (t r : Text) : decode? quote (encode quote t ++ r) = some (t, r) := by
  rw [encode, List.cons_append, decode?, if_pos rfl, List.append_assoc]
  exact unescape?_escape_append hquote t r

theorem encode_append_inj {t u r r' : Text} (h : encode quote t ++ r = encode quote u ++ r') :
    t = u ∧ r = r' := by
  have hread := decode?_encode_append hquote t r
  rw [h, decode?_encode_append hquote] at hread
  exact Prod.mk.inj (Option.some.inj hread.symm)

end Append

end Quoted

namespace Scalar

/-- A scalar that is written between quotes, the quotes, and the text between them. -/
inductive Quotes : Scalar → Char → Text → Prop where
  | text (t : Text) : Quotes (.text t) '"' t
  | char (c : Char) : Quotes (.char c) '\'' [c]

namespace Quotes

variable {s s' : Scalar} {quote : Char} {t t' : Text}

theorem quote_ne (h : s.Quotes quote t) : quote ≠ '\\' := by
  cases h <;> decide

theorem scalar_eq (h : s.Quotes quote t) (h' : s'.Quotes quote t') (ht : t' = t) : s' = s := by
  subst ht
  cases h <;> cases h' <;> rfl

theorem text?_render (h : s.Quotes quote t) {fmt : Option Text} (quoted : ∀ f ∈ fmt, 'l' ∉ f)
    {culture : Option Culture} (plain : ∀ c ∈ culture, c.override s fmt = none) :
    (s.render fmt culture).text? = some (Quoted.encode quote t) := by
  have hquoted : literal fmt = false := by
    cases fmt with
    | none => rfl
    | some f => simpa [literal] using quoted f rfl
  rw [Scalar.text?_render, write_eq_format plain]
  cases h with
  | text t => rw [Scalar.format, hquoted]; rfl
  | char c => rw [Scalar.format, hquoted]; rfl

end Quotes

/-- **Quoted texts end where they say.** In a format without the letter `l`, a text or a character
stands between quotes. Reading from the opening quote to the first one without a backslash gives it
back and leaves what follows. So if two of them with something behind them look the same, they are
the same, and so is what is behind them. -/
theorem render_quoted {s : Scalar} {quote : Char} {t : Text} (quotes : s.Quotes quote t)
    {fmt : Option Text} (quoted : ∀ f ∈ fmt, 'l' ∉ f) {culture : Option Culture}
    (plain : ∀ c ∈ culture, c.override s fmt = none) :
    ∃ written, (s.render fmt culture).text? = some written ∧
      (∀ r, Quoted.decode? quote (written ++ r) = some (t, r)) ∧
      ∀ s' t' fmt' culture' written', s'.Quotes quote t' → (∀ f ∈ fmt', 'l' ∉ f) →
        (∀ c ∈ culture', c.override s' fmt' = none) →
          (s'.render fmt' culture').text? = some written' →
            ∀ r r', written ++ r = written' ++ r' → s' = s ∧ t' = t ∧ r' = r := by
  refine ⟨_, quotes.text?_render quoted plain, Quoted.decode?_encode_append quotes.quote_ne t, ?_⟩
  intro s' t' fmt' culture' written' quotes' quoted' plain' hwritten' r r' happend
  rw [quotes'.text?_render quoted' plain', Option.some.injEq] at hwritten'
  rw [← hwritten'] at happend
  obtain ⟨rfl, rfl⟩ := Quoted.encode_append_inj quotes.quote_ne happend
  exact ⟨quotes.scalar_eq quotes' rfl, rfl, rfl⟩

/-- A text that ends in a quote and a backslash, in front of a quote. -/
theorem quoted_forging : ∃ written,
    ((text ['a', '"', '\\']).render none none).text? = some written ∧
      Quoted.decode? '"' (written ++ ['"', 'b']) = some (['a', '"', '\\'], ['"', 'b']) ∧
      ∀ written', ((text ['a']).render (some ['x']) (some {})).text? = some written' →
        written' ++ ['\\', '"'] ≠ written := by
  obtain ⟨written, hwritten, hread, hunique⟩ :=
    @render_quoted _ _ _ (.text ['a', '"', '\\']) none nofun none nofun
  refine ⟨written, hwritten, hread _, fun written' hwritten' heq => ?_⟩
  have h := hunique _ _ (some ['x']) (some {}) written' (.text ['a']) (fun | _, rfl => by decide)
    (fun | _, rfl => rfl) hwritten' [] ['\\', '"'] (by rw [List.append_nil, heq])
  exact absurd h.2.2 (by decide)

end Scalar

end MessageTemplate
