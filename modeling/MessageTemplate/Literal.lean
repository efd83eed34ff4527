import MessageTemplate.Text.Basic

/-!
# Literal text

Between the tags a template holds literal text, in which `{{` stands for `{` and `}}` for `}`. A
`}` that is not doubled stands for itself, and a `{` that is not doubled ends the literal text.

* `Literal.escape`: the written form of a text.
* `Literal.unescape`: the text that a written form stands for.
* `Literal.span`: the literal text at the front of a template, as written, and what follows it.
* **`Literal.unescape_escape`**: an escaped text stands for that text.
-/

namespace MessageTemplate.Literal

/-- Double the braces, so that they stand for themselves. -/
def escape : Text → Text
  | [] => []
  | c :: cs => if c = '{' ∨ c = '}' then c :: c :: escape cs else c :: escape cs

/-- Read a doubled brace as one brace, and everything else as it is. -/
def unescape : Text → Text
  | '{' :: '{' :: cs => '{' :: unescape cs
  | '}' :: '}' :: cs => '}' :: unescape cs
  | c :: cs => c :: unescape cs
  | [] => []

/-- Split off the literal text at the front: it ends before a `{` that is not doubled. -/
def span : Text → Text × Text
  | '{' :: '{' :: cs => ('{' :: '{' :: (span cs).1, (span cs).2)
  | '{' :: cs => ([], '{' :: cs)
  | c :: cs => (c :: (span cs).1, (span cs).2)
  | [] => ([], [])

/-- **An escaped text stands for that text.** -/
theorem unescape_escape (t : Text) : unescape (escape t) = t := by
  induction t with
  | nil => rfl
  | cons c t ih =>
    by_cases h₁ : c = '{'
    · simp [escape, unescape, h₁, ih]
    · by_cases h₂ : c = '}'
      · simp [escape, unescape, h₂, ih]
      · simp [escape, unescape, h₁, h₂, ih]

theorem span_append (t : Text) : (span t).1 ++ (span t).2 = t := by
  fun_induction span t <;> simp_all

/-- What follows is the end, or a brace that opens a tag. -/
theorem span_snd (t : Text) : (span t).2 = [] ∨ ∃ cs, (span t).2 = '{' :: cs := by
  fun_induction span t <;> simp_all

theorem length_span_snd_le (t : Text) : (span t).2.length ≤ t.length := by
  have := congrArg List.length (span_append t)
  simp at this
  omega

end MessageTemplate.Literal
