import WaypointFollower.ClosestPose
import WaypointFollower.Transform2D
/-
  The pure-pursuit arc: `calcRadius` and `calcCurvature` (lines 524–537 and 555–566), and the
  speed command `decelerateVelocity` (lines 99–113).

  `calcRadius` divides the squared planar distance to the target, taken in the map frame, by
  twice the target's lateral offset `y_rel`, taken in the vehicle frame by
  `transformToRelativeCoordinate2D`.  The turn by the vehicle's yaw keeps lengths
  (`transformToRelativeCoordinate2D_sq`), whatever the orientation, so the squared distance is
  `x_rel² + y_rel²` and `R = (x_rel² + y_rel²) / 2y_rel` is the signed radius of the circle through
  the vehicle, tangent to its heading, and through the target (`calcCurvature_arc`).  Both `1e9`
  fallbacks are for a target straight ahead or behind, `y_rel = 0`.

  `decelerateVelocity` caps the previous speed by `√(2 a d)`, the speed from which braking at
  `a = decel_ms` stops within the distance `d`.  A negative distance makes the square root NaN,
  which loses every comparison, so the previous speed comes back.
-/

open Real

namespace WaypointFollower

/-- `calcRadius(target, current_pose)`. -/
noncomputable def calcRadius (target : Point) (current_pose : Pose) : ℝ :=
  let RADIUS_MAX : ℝ := 1e9
  let denominator := 2 * (transformToRelativeCoordinate2D target current_pose).y
  let numerator := calcDistSquared2D target current_pose.position
  if |denominator| > 0 then numerator / denominator else RADIUS_MAX

/-- `calcCurvature(target, curr_pose)`. -/
noncomputable def calcCurvature (target : Point) (curr_pose : Pose) : ℝ :=
  let KAPPA_MAX : ℝ := 1e9
  let radius := calcRadius target curr_pose
  if |radius| > 0 then 1 / radius else KAPPA_MAX

/-- The turn by the yaw keeps lengths: the target's offset in the vehicle frame has the squared
    length of its offset in the map frame. -/
theorem transformToRelativeCoordinate2D_sq (target : Point) (pose : Pose) :
    (transformToRelativeCoordinate2D target pose).x ^ 2 +
        (transformToRelativeCoordinate2D target pose).y ^ 2 =
      calcDistSquared2D target pose.position := by
  have h := sin_sq_add_cos_sq (Tf2.getYaw pose.orientation)
  simp only [transformToRelativeCoordinate2D, calcDistSquared2D]
  linear_combination ((target.x - pose.position.x) ^ 2 + (target.y - pose.position.y) ^ 2) * h

theorem calcRadius_of_ne {target : Point} {pose : Pose}
    (hy : (transformToRelativeCoordinate2D target pose).y ≠ 0) :
    calcRadius target pose =
      calcDistSquared2D target pose.position / (2 * (transformToRelativeCoordinate2D target pose).y) :=
  if_pos (abs_pos.mpr (mul_ne_zero two_ne_zero hy))

/-- **The pure-pursuit arc.**  For a target off the vehicle's heading line (`y_rel ≠ 0`), the
    circle with centre `(0, R)` in the vehicle frame, `R = calcRadius`, passes through the target;
    the curvature is `1 / R`, positive exactly when the target lies to the vehicle's left. -/
theorem calcCurvature_arc (target : Point) (current_pose : Pose)
    (hy : (transformToRelativeCoordinate2D target current_pose).y ≠ 0) :
    let x_rel := (transformToRelativeCoordinate2D target current_pose).x
    let y_rel := (transformToRelativeCoordinate2D target current_pose).y
    let R := calcRadius target current_pose
    x_rel ^ 2 + (y_rel - R) ^ 2 = R ^ 2 ∧ calcCurvature target current_pose = 1 / R ∧
      (0 < calcCurvature target current_pose ↔ 0 < y_rel) := by
  intro x_rel y_rel R
  have hD : x_rel ^ 2 + y_rel ^ 2 = calcDistSquared2D target current_pose.position :=
    transformToRelativeCoordinate2D_sq target current_pose
  have hR : R = (x_rel ^ 2 + y_rel ^ 2) / (2 * y_rel) := by rw [hD]; exact calcRadius_of_ne hy
  have hDpos : 0 < x_rel ^ 2 + y_rel ^ 2 := by positivity
  have hRne : R ≠ 0 := by rw [hR]; exact div_ne_zero hDpos.ne' (mul_ne_zero two_ne_zero hy)
  have hK : calcCurvature target current_pose = 1 / R := if_pos (abs_pos.mpr hRne)
  refine ⟨?_, hK, ?_⟩
  · -- `x² + y² - 2yR = 0` for `R = (x² + y²) / 2y`
    rw [hR]; field_simp; ring
  · rw [hK, one_div_pos, hR, div_pos_iff_of_pos_left hDpos]
    constructor <;> intro h <;> linarith

theorem originPose_calcCurvature_arc :
    (transformToRelativeCoordinate2D ⟨1, 1, 0⟩ originPose).y ≠ 0 ∧
      let x_rel := (transformToRelativeCoordinate2D ⟨1, 1, 0⟩ originPose).x
      let y_rel := (transformToRelativeCoordinate2D ⟨1, 1, 0⟩ originPose).y
      let R := calcRadius ⟨1, 1, 0⟩ originPose
      x_rel ^ 2 + (y_rel - R) ^ 2 = R ^ 2 ∧ calcCurvature ⟨1, 1, 0⟩ originPose = 1 / R ∧
        (0 < calcCurvature ⟨1, 1, 0⟩ originPose ↔ 0 < y_rel) := by
  have hy : (transformToRelativeCoordinate2D ⟨1, 1, 0⟩ originPose).y ≠ 0 := by
    have ho : originPose.orientation = getQuaternionFromYaw 0 := by simp [originPose]
    simp only [transformToRelativeCoordinate2D, ho, cos_getYaw_getQuaternionFromYaw,
      sin_getYaw_getQuaternionFromYaw]
    simp [originPose]
  exact ⟨hy, calcCurvature_arc _ _ hy⟩

/-! ## Slowing down -/

/-- `DecelerateVelocity(distance, prev_velocity)`, without its log line.  `std::sqrt` of a
    negative number is NaN, and a comparison with NaN is false: the `none` of
    `decel_velocity_ms`. -/
noncomputable def decelerateVelocity (distance prev_velocity : ℝ) : ℝ :=
  let decel_ms : ℝ := 1.0
  let decel_velocity_ms : Option ℝ :=
    if 2 * decel_ms * distance < 0 then none else some √(2 * decel_ms * distance)
  match decel_velocity_ms with
  | some decel_velocity_ms =>
    if decel_velocity_ms < prev_velocity then decel_velocity_ms else prev_velocity
  | none => prev_velocity

end WaypointFollower
