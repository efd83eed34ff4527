import MessageTemplate.Number.Binary64
import MessageTemplate.Number.Decimal

/-!
# The shortest decimal that reads back

Of the decimals that round to a number, the ones on the coarsest grid are shortest, and of these
the nearest is taken. On any grid one of the two neighbours of the number rounds to it if any point
of the grid does, so only the neighbours are tried, on one grid after another.

* `Shortest.onGrid?`: the neighbour on the grid `10 ^ g`, if there is one that rounds to the number;
  of two equally near ones the upper. `Shortest.roundsTo_of_onGrid?`: it rounds to the number.
* `Shortest.search`: the grids from `10 ^ (k - 1074)` down to `10 ^ -1074`, on which every number
  lies.
  `Shortest.exists_onGrid?_search`: the search ends on the first grid that there is a decimal on.
* `Shortest.start`: the grid to begin with.
* `Binary64.shortest`: the shortest decimal.
-/

namespace MessageTemplate

namespace Shortest

/-- The nearer of the neighbours on the grid `10 ^ g` that round to `x`. The points of the grid are
the multiples of `unit / parts`. -/
def onGrid? (x : Binary64) (g : Int) : Option Decimal :=
  let unit := Nat.pow 10 g.toNat
  let parts := Nat.pow 10 (-g).toNat
  let below := x.numerator * parts / (x.denominator * unit)
  let lower := x.RoundsTo (below * unit) parts
  let upper := x.RoundsTo ((below + 1) * unit) parts
  let upperIsNearer := (2 * below + 1) * (x.denominator * unit) ≤ 2 * (x.numerator * parts)
  if upper ∧ (lower → upperIsNearer) then some ⟨below + 1, g⟩
  else if lower then some ⟨below, g⟩
  else none

/-- Try the grids from `10 ^ (k - 1074)` downwards. -/
def search (x : Binary64) : Nat → Decimal
  | 0 => ⟨x.numerator * Nat.pow 10 1074 / x.denominator, -1074⟩
  | k + 1 => (onGrid? x ((k + 1 : Nat) - 1074)).getD (search x k)

/-- Where the search starts: `10 ^ (start x - 1074)` is beyond everything that rounds to `x`, which
is less than `2 ^ b` if `b` bits stand before the point. -/
def start (x : Binary64) : Nat :=
  let b : Int := x.significand.log2 + 1 + x.exponent
  (1074 + (b * 3 / 10 + 2)).toNat

theorem exponent_of_onGrid? {x : Binary64} {g : Int} {d : Decimal} (h : onGrid? x g = some d) :
    d.exponent = g := by
  unfold onGrid? at h
  dsimp only at h
  split at h
  · cases h
    rfl
  · split at h
    · cases h
      rfl
    · cases h

theorem roundsTo_of_onGrid? {x : Binary64} {g : Int} {d : Decimal} (h : onGrid? x g = some d) :
    x.RoundsTo d.numerator d.denominator := by
  unfold onGrid? at h
  dsimp only at h
  split at h
  · rename_i hupper
    cases h
    exact hupper.1
  · split at h
    · rename_i hlower
      cases h
      exact hlower
    · cases h

/-- The search ends on a grid with a decimal that rounds to the number, or earlier. -/
theorem exists_onGrid?_search {x : Binary64} {k : Nat}
    (h : (onGrid? x ((k + 1 : Nat) - 1074)).isSome = true) {n : Nat} (hn : k < n) :
    ∃ g : Int, (k + 1 : Nat) - 1074 ≤ g ∧ onGrid? x g = some (search x n) := by
  induction n with
  | zero => omega
  | succ n ih =>
    rw [search]
    cases hfound : onGrid? x ((n + 1 : Nat) - 1074) with
    | some d => exact ⟨_, by omega, hfound⟩
    | none =>
      have hne : k ≠ n := by
        rintro rfl
        rw [hfound] at h
        cases h
      exact ih (by omega)

end Shortest

/-- The shortest decimal that rounds to the magnitude of a finite number. -/
def Binary64.shortest (x : Binary64) : Decimal :=
  if x.significand = 0 then ⟨0, 0⟩ else Shortest.search x (Shortest.start x)

end MessageTemplate
