import MessageTemplate.Cache

/-!
# Runs of a cache

A cache is used by one request after another, and each request is answered by the cache that the
requests before it have left.

* `Cache.Request`, `Cache.Call`: a request, and a request with what came of it.
* `Cache.serve`: one request. `Cache.run`: one request after another.
  `Cache.map_request_run`: each request is answered in turn.
* **`Cache.run_concat`**: a run that is one request longer.
-/

namespace MessageTemplate.Cache

/-- What a cache is asked for. -/
inductive Request where
  /-- The instance that is kept for a text, or a new one. -/
  | getOrParse (t : Text)
  /-- The instance that is kept for a text, if there is one. -/
  | get (t : Text)
  /-- To forget all instances. -/
  | clear
  deriving Repr, DecidableEq

/-- A request with what came of it. -/
structure Call where
  request : Request
  /-- The instance that was handed out. -/
  answer : Option Instance
  /-- What was reported. -/
  events : List Event
  deriving Repr

/-- Answer a request. -/
def serve (c : Cache) : Request → Call × Cache
  | .getOrParse t =>
    let r := c.getOrParse t
    (⟨.getOrParse t, some r.1, r.2.2⟩, r.2.1)
  | .get t => (⟨.get t, c.get? t, []⟩, c)
  | .clear => (⟨.clear, none, []⟩, c.clear)

/-- Answer one request after another. -/
def run (c : Cache) : List Request → List Call × Cache
  | [] => ([], c)
  | r :: rs =>
    let s := c.serve r
    let rest := run s.2 rs
    (s.1 :: rest.1, rest.2)

@[simp] theorem request_serve (c : Cache) (r : Request) : (c.serve r).1.request = r := by
  cases r <;> rfl

@[simp] theorem limits_serve (c : Cache) (r : Request) : (c.serve r).2.limits = c.limits := by
  cases r with
  | getOrParse t =>
    rcases c.getOrParse_cases t with ⟨-, ht⟩ | ⟨-, i, -, ht⟩ | ⟨-, -, ht⟩
    · simp only [serve, ht]
      rfl
    · simp only [serve, ht]
    · simp only [serve, ht, limits_keep]
      rfl
  | get t => rfl
  | clear => rfl

@[simp] theorem limits_run (c : Cache) (rs : List Request) : (c.run rs).2.limits = c.limits := by
  induction rs generalizing c with
  | nil => rfl
  | cons r rs ih => exact (ih _).trans (limits_serve c r)

theorem map_request_run (c : Cache) (rs : List Request) : (c.run rs).1.map Call.request = rs := by
  induction rs generalizing c with
  | nil => rfl
  | cons r rs ih => simp only [run, List.map_cons, request_serve, ih]

theorem run_append (c : Cache) (rs ss : List Request) :
    c.run (rs ++ ss) = ((c.run rs).1 ++ ((c.run rs).2.run ss).1, ((c.run rs).2.run ss).2) := by
  induction rs generalizing c with
  | nil => rfl
  | cons r rs ih => simp only [List.cons_append, run, ih]

/-- **A run that is one request longer.** -/
theorem run_concat (c : Cache) (rs : List Request) (r : Request) :
    c.run (rs ++ [r]) =
      ((c.run rs).1 ++ [((c.run rs).2.serve r).1], ((c.run rs).2.serve r).2) := by
  rw [run_append]
  rfl

end MessageTemplate.Cache
