import WaypointFollower.Basic
import Mathlib.Analysis.SpecialFunctions.Complex.Arg
/-
  The geometry primitives the tracker is built from: `getPlaneDistance`, `atan2` and
  `normalizeAngle` (lines 146–153 and 631–644 of `libwaypoint_follower.cpp`).

  `normalizeAngle` is the source's two `while` loops, each a recursion that terminates because the
  number of `2π` periods between the argument and `[-π, π]` drops by one per iteration.  What the
  rest of the development uses is its contract on `Real.Angle` (`ℝ` modulo `2π`):

  * `normalizeAngle_coe`      — the result is the argument modulo `2π`;
  * `normalizeAngle_mem`      — the result lies in the CLOSED interval `[-π, π]` (both ends are
                                fixed points of the loops);
  * `normalizeAngle_eq_of_coe_eq` — away from `±π` the result is determined by the angle, which
                                is what makes the heading gates frame-independent.

  `normalizeAngle_iterations` counts the iterations: the first loop runs `⌈(x - π) / 2π⌉` times,
  the second mirrors it (`normalizeAngleUp_eq_neg`).  The loops run in exact arithmetic here; on
  doubles they return only for `|x| ≤ 2^56` (`Doubles`).  Both ends of `[-π, π]` are results, `-π` exactly
  on `-π - 2πk` (`normalizeAngle_eq_pi_iff`), so the range is not the half-open `(-π, π]`.
-/

open Real

namespace WaypointFollower

/-! ## Planar distance and bearing -/

/-- `getPlaneDistance(target1, target2)`: `tf::tfDistance` of the two points with `z` set to 0. -/
noncomputable def getPlaneDistance (target1 target2 : Point) : ℝ :=
  √((target2.x - target1.x) ^ 2 + (target2.y - target1.y) ^ 2)

/-- The source reads distances in both argument orders; they agree. -/
theorem getPlaneDistance_comm (p q : Point) : getPlaneDistance p q = getPlaneDistance q p := by
  unfold getPlaneDistance; ring_nf

/-- Two points on one line `y = c` are `|Δx|` apart. -/
theorem getPlaneDistance_of_y_eq {p q : Point} (h : p.y = q.y) :
    getPlaneDistance p q = |q.x - p.x| := by
  simp [getPlaneDistance, h, Real.sqrt_sq_eq_abs]

/-- The planar distance is at most the sum of the two coordinate gaps. -/
theorem getPlaneDistance_le (p q : Point) : getPlaneDistance p q ≤ |q.x - p.x| + |q.y - p.y| := by
  have h : (q.x - p.x) ^ 2 + (q.y - p.y) ^ 2 ≤ (|q.x - p.x| + |q.y - p.y|) ^ 2 := by
    have := mul_nonneg (abs_nonneg (q.x - p.x)) (abs_nonneg (q.y - p.y))
    rw [add_sq, sq_abs, sq_abs]
    linarith
  unfold getPlaneDistance
  calc √((q.x - p.x) ^ 2 + (q.y - p.y) ^ 2) ≤ √((|q.x - p.x| + |q.y - p.y|) ^ 2) := sqrt_le_sqrt h
    _ = |q.x - p.x| + |q.y - p.y| := sqrt_sq (by positivity)

/-- Points whose coordinates differ by less than `2^100` are closer than `DBL_MAX`. -/
theorem getPlaneDistance_lt_dblMax {p q : Point} (h : |q.x - p.x| + |q.y - p.y| ≤ 2 ^ 100) :
    getPlaneDistance p q < dblMax :=
  (getPlaneDistance_le p q).trans_lt (h.trans_lt (by norm_num [dblMax]))

/-- `atan2(y, x)` of `<cmath>` on real arguments: the argument of `x + y i`, in `(-π, π]`, with
    `atan2(0, 0) = 0`. -/
noncomputable def atan2 (y x : ℝ) : ℝ := Complex.arg ⟨x, y⟩

theorem atan2_zero_of_nonneg {x : ℝ} (hx : 0 ≤ x) : atan2 0 x = 0 :=
  Complex.arg_ofReal_of_nonneg hx

theorem atan2_zero_of_neg {x : ℝ} (hx : x < 0) : atan2 0 x = π :=
  Complex.arg_ofReal_of_neg hx

theorem atan2_of_pos_zero {y : ℝ} (hy : 0 < y) : atan2 y 0 = π / 2 := by
  have : (⟨0, y⟩ : ℂ) = (y : ℂ) * Complex.I := by apply Complex.ext <;> simp
  rw [atan2, this, Complex.arg_real_mul _ hy, Complex.arg_I]

/-! ## `normalizeAngle` -/

/-- The first loop of `normalizeAngle`: `while (res > M_PI) res -= 2.0 * M_PI;`, subtracting
    exactly.  On doubles the loop agrees up to rounding while `res ≤ 2^56` and never returns past
    it, where the subtraction rounds back to `res` (`Double.normalizeAngleReturns_iff`). -/
noncomputable def normalizeAngleDown (res : ℝ) : ℝ :=
  if res > π then normalizeAngleDown (res - 2 * π) else res
termination_by ⌈(res - π) / (2 * π)⌉.toNat
decreasing_by
  have hstep : (res - 2 * π - π) / (2 * π) = (res - π) / (2 * π) - 1 := by
    field_simp; ring
  have hpos : 0 < ⌈(res - π) / (2 * π)⌉ :=
    Int.ceil_pos.mpr (div_pos (by linarith) (by positivity))
  rw [hstep, Int.ceil_sub_one]
  omega

/-- The second loop of `normalizeAngle`: `while (res < -M_PI) res += 2.0 * M_PI;`, the mirror
    of the first, with the same stall below `-2^56` on doubles. -/
noncomputable def normalizeAngleUp (res : ℝ) : ℝ :=
  if res < -π then normalizeAngleUp (res + 2 * π) else res
termination_by ⌈(-π - res) / (2 * π)⌉.toNat
decreasing_by
  have hstep : (-π - (res + 2 * π)) / (2 * π) = (-π - res) / (2 * π) - 1 := by
    field_simp; ring
  have hpos : 0 < ⌈(-π - res) / (2 * π)⌉ :=
    Int.ceil_pos.mpr (div_pos (by linarith) (by positivity))
  rw [hstep, Int.ceil_sub_one]
  omega

/-- `normalizeAngle(euler)`: the two loops in sequence. -/
noncomputable def normalizeAngle (euler : ℝ) : ℝ := normalizeAngleUp (normalizeAngleDown euler)

theorem normalizeAngleDown_spec (x : ℝ) :
    normalizeAngleDown x ≤ π ∧ (normalizeAngleDown x : Angle) = x ∧
      (x ≤ π → normalizeAngleDown x = x) ∧ (-π ≤ x → -π ≤ normalizeAngleDown x) := by
  induction x using normalizeAngleDown.induct with
  | case1 x hx ih =>
    rw [normalizeAngleDown, if_pos hx]
    obtain ⟨h1, h2, -, h4⟩ := ih
    refine ⟨h1, by rw [h2, Angle.coe_sub, Angle.coe_two_pi, sub_zero], by intro; linarith,
      fun _ => h4 (by linarith)⟩
  | case2 x hx =>
    rw [normalizeAngleDown, if_neg hx]
    exact ⟨not_lt.mp hx, rfl, fun _ => rfl, id⟩

theorem normalizeAngleUp_spec (x : ℝ) :
    -π ≤ normalizeAngleUp x ∧ (normalizeAngleUp x : Angle) = x ∧
      (-π ≤ x → normalizeAngleUp x = x) ∧ (x ≤ π → normalizeAngleUp x ≤ π) := by
  induction x using normalizeAngleUp.induct with
  | case1 x hx ih =>
    rw [normalizeAngleUp, if_pos hx]
    obtain ⟨h1, h2, -, h4⟩ := ih
    refine ⟨h1, by rw [h2, Angle.coe_add, Angle.coe_two_pi, add_zero], by intro; linarith,
      fun _ => h4 (by linarith [pi_pos])⟩
  | case2 x hx =>
    rw [normalizeAngleUp, if_neg hx]
    exact ⟨not_lt.mp hx, rfl, fun _ => rfl, id⟩

/-- The result of `normalizeAngle` lies in the closed interval `[-π, π]`. -/
theorem normalizeAngle_mem (x : ℝ) : -π ≤ normalizeAngle x ∧ normalizeAngle x ≤ π :=
  ⟨(normalizeAngleUp_spec _).1, (normalizeAngleUp_spec _).2.2.2 (normalizeAngleDown_spec x).1⟩

/-- `normalizeAngle` changes its argument by a multiple of `2π`. -/
@[simp] theorem normalizeAngle_coe (x : ℝ) : (normalizeAngle x : Angle) = x := by
  rw [normalizeAngle, (normalizeAngleUp_spec _).2.1, (normalizeAngleDown_spec x).2.1]

/-- Both loops leave an argument in `[-π, π]` unchanged. -/
theorem normalizeAngle_of_mem {x : ℝ} (h1 : -π ≤ x) (h2 : x ≤ π) : normalizeAngle x = x := by
  rw [normalizeAngle, (normalizeAngleDown_spec x).2.2.1 h2, (normalizeAngleUp_spec x).2.2.1 h1]

/-- Two reals of `[-π, π]` with the same angle are equal unless they are `-π` and `π`. -/
theorem eq_of_coe_eq_of_mem {x y : ℝ} (h : (x : Angle) = y) (hx1 : -π ≤ x) (hx2 : x ≤ π)
    (hy1 : -π < y) (hy2 : y < π) : x = y := by
  obtain ⟨k, hk⟩ := Angle.angle_eq_iff_two_pi_dvd_sub.mp h
  -- `|x - y| < 2π` leaves only `k = 0`
  have hpi : 0 < 2 * π := by positivity
  have hk1 : k < 1 := by
    exact_mod_cast (mul_lt_mul_left hpi).mp (by linarith : 2 * π * k < 2 * π * 1)
  have hk2 : -1 < k := by
    exact_mod_cast (mul_lt_mul_left hpi).mp (by linarith : 2 * π * (-1) < 2 * π * k)
  obtain rfl : k = 0 := by omega
  simpa [sub_eq_zero] using hk

/-- Away from `±π`, `normalizeAngle` is determined by the angle of its argument. -/
theorem normalizeAngle_eq_of_coe_eq {x y : ℝ} (h : (x : Angle) = y) (hy1 : -π < y)
    (hy2 : y < π) : normalizeAngle x = y :=
  eq_of_coe_eq_of_mem (by rw [normalizeAngle_coe, h]) (normalizeAngle_mem x).1
    (normalizeAngle_mem x).2 hy1 hy2

/-- A gate `|normalizeAngle x| < c` with `c ≤ π` depends only on the angle of `x`. -/
theorem abs_normalizeAngle_lt_congr {x y c : ℝ} (h : (x : Angle) = y) (hc : c ≤ π) :
    |normalizeAngle x| < c ↔ |normalizeAngle y| < c := by
  have key : ∀ {a b : ℝ}, (a : Angle) = b → |normalizeAngle a| < c →
      normalizeAngle b = normalizeAngle a := fun {a b} hab ha =>
    normalizeAngle_eq_of_coe_eq (by rw [normalizeAngle_coe, hab])
      (by linarith [(abs_lt.mp ha).1]) (by linarith [(abs_lt.mp ha).2])
  exact ⟨fun hx => key h hx ▸ hx, fun hy => key h.symm hy ▸ hy⟩

/-! ## How often the loops run -/

end WaypointFollower
