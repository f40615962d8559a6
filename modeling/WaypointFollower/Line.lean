import WaypointFollower.Geometry
/-
  Distances to a line: `getLinearEquation` and `getDistanceBetweenLineAndPoint` (lines 462–489)
  and `calcLateralError2D` (lines 546–554).

  `getLinearEquation` writes the line through `start` and `end` as `a x + b y + c = 0` through
  three out-parameters and returns `false` (writing nothing) when the two points are closer than
  `10^-5` in both coordinates; here it returns `some (a, b, c)` or `none`.  When it succeeds the
  line passes through both points (`getLinearEquation_spec`), and the distance
  `getDistanceBetweenLineAndPoint` measures from it is the magnitude of the signed lateral error
  `calcLateralError2D` computes from a cross product (`getDistanceBetweenLineAndPoint_eq`).
-/

open Real

namespace WaypointFollower

/-- `getLinearEquation(start, end, &a, &b, &c)` with `end` written `finish`: `some (a, b, c)`
    when it returns `true`. -/
noncomputable def getLinearEquation (start finish : Point) : Option (ℝ × ℝ × ℝ) :=
  let sub_x := |start.x - finish.x|
  let sub_y := |start.y - finish.y|
  let error := (10 : ℝ) ^ (-5 : ℤ)
  if sub_x < error ∧ sub_y < error then none
  else some (finish.y - start.y, (-1) * (finish.x - start.x),
    (-1) * (finish.y - start.y) * start.x + (finish.x - start.x) * start.y)

/-- `getDistanceBetweenLineAndPoint(point, a, b, c)`. -/
noncomputable def getDistanceBetweenLineAndPoint (point : Point) (a b c : ℝ) : ℝ :=
  |a * point.x + b * point.y + c| / √(a ^ 2 + b ^ 2)

/-- `calcLateralError2D(line_s, line_e, point)`: the `z` of `a_vec × b_vec` over `|a_vec|`, or `0`
    on a degenerate segment. -/
noncomputable def calcLateralError2D (line_s line_e point : Point) : ℝ :=
  let a_vec : Point := ⟨line_e.x - line_s.x, line_e.y - line_s.y, 0⟩
  let b_vec : Point := ⟨point.x - line_s.x, point.y - line_s.y, 0⟩
  let length := √(a_vec.x ^ 2 + a_vec.y ^ 2 + a_vec.z ^ 2)
  if length > 0 then (a_vec.x * b_vec.y - a_vec.y * b_vec.x) / length else 0

/-- What `getLinearEquation` returns: `none` exactly when the points are within `10^-5` in both
    coordinates, and otherwise a line through both points with `(a, b) ≠ 0`. -/
theorem getLinearEquation_spec (start finish : Point) :
    (getLinearEquation start finish = none ↔
      |start.x - finish.x| < (10 : ℝ) ^ (-5 : ℤ) ∧ |start.y - finish.y| < (10 : ℝ) ^ (-5 : ℤ)) ∧
    ∀ a b c, getLinearEquation start finish = some (a, b, c) →
      a * start.x + b * start.y + c = 0 ∧ a * finish.x + b * finish.y + c = 0 ∧
        (a ≠ 0 ∨ b ≠ 0) := by
  simp only [getLinearEquation]
  split_ifs with h
  · exact ⟨iff_of_true rfl h, fun _ _ _ h' => absurd h' (by simp)⟩
  refine ⟨iff_of_false (by simp) h, fun a b c habc => ?_⟩
  simp only [Option.some.injEq, Prod.mk.injEq] at habc
  obtain ⟨rfl, rfl, rfl⟩ := habc
  refine ⟨by ring, by ring, ?_⟩
  by_contra! h0
  have hx : start.x - finish.x = 0 := by linarith [h0.2]
  have hy : start.y - finish.y = 0 := by linarith [h0.1]
  have hpos : (0 : ℝ) < 10 ^ (-5 : ℤ) := zpow_pos (by norm_num) _
  exact h ⟨by rw [hx, abs_zero]; exact hpos, by rw [hy, abs_zero]; exact hpos⟩

/-- **Two measures of the distance to a line agree.**  When `getLinearEquation` succeeds, the
    distance `getDistanceBetweenLineAndPoint` measures from its line is the magnitude of the
    signed lateral error `calcLateralError2D`. -/
theorem getDistanceBetweenLineAndPoint_eq (line_s line_e point : Point) {a b c : ℝ}
    (h : getLinearEquation line_s line_e = some (a, b, c)) :
    getDistanceBetweenLineAndPoint point a b c = |calcLateralError2D line_s line_e point| := by
  obtain ⟨-, hline⟩ := getLinearEquation_spec line_s line_e
  have hab := (hline a b c h).2.2
  simp only [getLinearEquation] at h
  split_ifs at h
  simp only [Option.some.injEq, Prod.mk.injEq] at h
  obtain ⟨rfl, rfl, rfl⟩ := h
  -- the segment has positive length, and `(a, b)` is its normal
  have hlen : √((line_e.x - line_s.x) ^ 2 + (line_e.y - line_s.y) ^ 2 + (0 : ℝ) ^ 2) =
      √((line_e.y - line_s.y) ^ 2 + ((-1) * (line_e.x - line_s.x)) ^ 2) := by
    congr 1; ring
  have hpos : 0 < √((line_e.y - line_s.y) ^ 2 + ((-1) * (line_e.x - line_s.x)) ^ 2) := by
    apply Real.sqrt_pos.mpr
    rcases hab with h | h <;> positivity
  simp only [calcLateralError2D, getDistanceBetweenLineAndPoint, hlen, if_pos hpos, abs_div,
    abs_of_pos hpos]
  congr 1
  rw [← abs_neg]
  congr 1
  ring

/-- The point `(0, 1)` is at distance `1` from the `x` axis, both ways. -/
theorem xAxis_distance :
    getDistanceBetweenLineAndPoint ⟨0, 1, 0⟩ 0 (-1) 0 =
      |calcLateralError2D ⟨0, 0, 0⟩ ⟨1, 0, 0⟩ ⟨0, 1, 0⟩| :=
  getDistanceBetweenLineAndPoint_eq _ _ _ (by norm_num [getLinearEquation])

end WaypointFollower
