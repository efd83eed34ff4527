import MessageTemplate.Cache.Limits
import MessageTemplate.Template
import Std.Data.HashMap

/-!
# The template cache

A cache hands out the same instance for the same template text. Instances are numbered in the order
in which they are made. A cache never forgets a single template: when a new one is to be kept and
the cache holds as many as it may, it forgets all of them. A template that is too long is never
kept.

* `Cache.get?`: the instance that is kept for a text.
* `Cache.getOrParse`: the instance that is kept for a text, or a new one.
  `Cache.getOrParse_cases`: what it may come to.
* `Cache.clear`: forgetting all instances.
* `Cache.Event`: what a cache reports about a step.
* **`Cache.isCacheable_iff`**: the limit for templates counts characters.
-/

namespace MessageTemplate

/-- A template with the number of its instance. -/
structure Instance where
  id : Nat
  template : Template
  deriving Repr

/-- Limits, the instances that are kept by their texts, and the number of the next instance. -/
structure Cache where
  limits : Limits := {}
  kept : Std.HashMap Text Instance := ∅
  next : Nat := 0

namespace Cache

/-- What a cache reports. -/
inductive Event where
  /-- A template is too long to be kept; `bytes` is its length in UTF-8. -/
  | tooLong (bytes : Nat)
  /-- The cache was full and forgot `evicted` templates. -/
  | flushed (evicted maxItems : Nat)
  deriving Repr, DecidableEq

/-- How many templates are kept. -/
def size (c : Cache) : Nat := c.kept.size

/-- Whether a template is short enough to be kept. The limit counts characters, and these are
counted only if there are more bytes than the limit allows characters. -/
def isCacheable (c : Cache) (t : Text) : Bool :=
  Text.byteLength t ≤ c.limits.maxTemplateLength || t.length ≤ c.limits.maxTemplateLength

/-- The instance that is kept for a text. -/
def get? (c : Cache) (t : Text) : Option Instance := c.kept.get? t

/-- A new instance, which is not kept. -/
def make (c : Cache) (t : Text) : Instance × Cache :=
  (⟨c.next, Template.parse t⟩, { c with next := c.next + 1 })

/-- Forget all instances. The numbers go on. -/
def clear (c : Cache) : Cache := { c with kept := ∅ }

/-- Keep an instance. If the cache is full it forgets all others first. -/
def keep (c : Cache) (t : Text) (i : Instance) : Cache × List Event :=
  if c.limits.maxItems ≤ c.size then
    ({ c with kept := (∅ : Std.HashMap Text Instance).insert t i },
      [.flushed c.size c.limits.maxItems])
  else ({ c with kept := c.kept.insert t i }, [])

/-- The instance that is kept for a text; if there is none a new one, which is kept from now on if
it is short enough. -/
def getOrParse (c : Cache) (t : Text) : Instance × Cache × List Event :=
  if c.isCacheable t then
    match c.get? t with
    | some i => (i, c, [])
    | none =>
      let (i, c) := c.make t
      (i, c.keep t i)
  else
    let (i, c) := c.make t
    (i, c, [.tooLong (Text.byteLength t)])

/-- **The limit counts characters**, however many bytes they have. -/
theorem isCacheable_iff {c : Cache} {t : Text} :
    c.isCacheable t = true ↔ t.length ≤ c.limits.maxTemplateLength := by
  have hle := Text.length_le_byteLength t
  simp only [isCacheable, Bool.or_eq_true, decide_eq_true_iff]
  omega

/-- A text is too long, or its instance is kept, or a new one is kept from now on. -/
theorem getOrParse_cases (c : Cache) (t : Text) :
    (c.limits.maxTemplateLength < t.length ∧
      c.getOrParse t = ((c.make t).1, (c.make t).2, [.tooLong (Text.byteLength t)])) ∨
    (t.length ≤ c.limits.maxTemplateLength ∧ ∃ i, c.get? t = some i ∧
      c.getOrParse t = (i, c, [])) ∨
    (t.length ≤ c.limits.maxTemplateLength ∧ c.get? t = none ∧
      c.getOrParse t = ((c.make t).1, (c.make t).2.keep t (c.make t).1)) := by
  by_cases h : c.isCacheable t = true
  · refine Or.inr ?_
    have hle := isCacheable_iff.1 h
    cases hget : c.get? t with
    | some i => exact Or.inl ⟨hle, i, rfl, by simp only [getOrParse, if_pos h, hget]⟩
    | none => exact Or.inr ⟨hle, rfl, by simp only [getOrParse, if_pos h, hget]⟩
  · refine Or.inl ⟨?_, by simp only [getOrParse, if_neg h]⟩
    rw [isCacheable_iff] at h
    omega

/-! ## What is kept -/

@[simp] theorem get?_clear (c : Cache) (t : Text) : c.clear.get? t = none := by
  simp [clear, get?]

@[simp] theorem size_clear (c : Cache) : c.clear.size = 0 := by
  simp [clear, size]

@[simp] theorem limits_clear (c : Cache) : c.clear.limits = c.limits := rfl

@[simp] theorem next_clear (c : Cache) : c.clear.next = c.next := rfl

@[simp] theorem limits_keep (c : Cache) (t : Text) (i : Instance) :
    (c.keep t i).1.limits = c.limits := by
  unfold keep
  split <;> rfl

@[simp] theorem next_keep (c : Cache) (t : Text) (i : Instance) :
    (c.keep t i).1.next = c.next := by
  unfold keep
  split <;> rfl

theorem events_keep (c : Cache) (t : Text) (i : Instance) :
    (c.keep t i).2 =
      if c.limits.maxItems ≤ c.size then [.flushed c.size c.limits.maxItems] else [] := by
  unfold keep
  split <;> rfl

theorem get?_keep (c : Cache) (t u : Text) (i : Instance) :
    (c.keep t i).1.get? u =
      if t = u then some i else if c.limits.maxItems ≤ c.size then none else c.get? u := by
  unfold keep
  split <;> simp [get?, Std.HashMap.getElem?_insert]

theorem get?_getOrParse {c : Cache} {t : Text} (h : t.length ≤ c.limits.maxTemplateLength) :
    (c.getOrParse t).2.1.get? t = some (c.getOrParse t).1 := by
  rcases c.getOrParse_cases t with ⟨hlt, -⟩ | ⟨-, i, hi, ht⟩ | ⟨-, -, ht⟩
  · exact absurd h (Nat.not_le_of_lt hlt)
  · rw [ht]
    exact hi
  · rw [ht, get?_keep, if_pos rfl]

theorem size_keep {c : Cache} {t : Text} (h : c.get? t = none) (i : Instance) :
    (c.keep t i).1.size = if c.limits.maxItems ≤ c.size then 1 else c.size + 1 := by
  have ht : t ∉ c.kept := by
    simpa [get?] using h
  unfold keep
  split
  · simp [size, Std.HashMap.size_insert]
  · simp [size, Std.HashMap.size_insert, ht]

end Cache

end MessageTemplate
