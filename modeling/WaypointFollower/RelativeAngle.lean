import WaypointFollower.Motion
import WaypointFollower.Transform2D
import Mathlib.Analysis.SpecialFunctions.Trigonometric.Inverse
/-
  `getRelativeAngle` (lines 155–168): the angle, in degrees, between the vehicle's heading and
  the waypoint's, measured by carrying the waypoint's unit `x` vector into the vehicle frame.

  The vector the source builds is `Rᵥᵀ h_w`, the waypoint's `x` axis `h_w` (`heading`) seen from
  the vehicle: both positions cancel.  For nonzero quaternions it is a unit vector, so
  `normalize` leaves it alone and `tf::Vector3::angle` is `arccos` of the dot product of the two
  headings (`getRelativeAngle_eq_arccos`).  On pure yaw orientations that dot product is
  `cos (ψ_w - ψ_v)`, and `arccos (cos d) = |normalizeAngle d|`, the quantity the heading gate of
  `findClosestIdxWithDistAngThr` compares (`getRelativeAngle_eq_abs_normalizeAngle`).  A rigid
  motion of the map frame turns both headings alike and keeps the angle
  (`PlaneMotion.getRelativeAngle_pose`).
-/

open Real

namespace WaypointFollower

/-! ## `tf::Vector3` -/

namespace Point

/-- `tf::Vector3::length()`. -/
noncomputable def length (v : Point) : ℝ := √(v.dot v)

/-- `tf::Vector3::normalize()`: `*this /= length()`.  (A zero vector divides by zero in the
    source; here it stays zero.  `getRelativeAngle` never normalizes one.) -/
noncomputable def normalize (v : Point) : Point := ⟨v.x / v.length, v.y / v.length, v.z / v.length⟩

/-- `tf::Vector3::angle(v)`: `acos(dot(v) / sqrt(length2() * v.length2()))`. -/
noncomputable def angle (u v : Point) : ℝ := arccos (u.dot v / √(u.dot u * v.dot v))

theorem normalize_of_dot_self {v : Point} (h : v.dot v = 1) : v.normalize = v := by
  simp only [normalize, length, h, sqrt_one, div_one]

theorem angle_of_dot_self {u v : Point} (hu : u.dot u = 1) (hv : v.dot v = 1) :
    u.angle v = arccos (u.dot v) := by
  rw [angle, hu, hv, mul_one, sqrt_one, div_one]

end Point

/-- `mᵀ` is the adjoint of `m` for the dot product. -/
theorem Matrix3x3.dot_transpose_mulVec (m : Matrix3x3) (a b : Point) :
    (m.transpose.mulVec a).dot b = a.dot (m.mulVec b) := by
  simp only [mulVec, transpose, Point.dot]; ring

/-- A nonzero quaternion's `mᵀ` keeps lengths. -/
theorem ofQuaternion_transpose_mulVec_dot_self {q : Quaternion} (hq : q.length2 ≠ 0) (a : Point) :
    let v := (Matrix3x3.ofQuaternion q).transpose.mulVec a
    v.dot v = a.dot a := by
  intro v
  rw [Matrix3x3.dot_transpose_mulVec, ofQuaternion_mulVec_transpose hq]

/-! ## The model -/

/-- `getRelativeAngle(waypoint_pose, vehicle_pose)`. -/
noncomputable def getRelativeAngle (waypoint_pose vehicle_pose : Pose) : ℝ :=
  let relative_p1 := calcRelativeCoordinate waypoint_pose.position vehicle_pose
  let p2 : Point := ⟨1, 0, 0⟩
  let relative_p2 := calcRelativeCoordinate (calcAbsoluteCoordinate p2 waypoint_pose) vehicle_pose
  let relative_waypoint_v : Point := ⟨relative_p2.x - relative_p1.x,
    relative_p2.y - relative_p1.y, relative_p2.z - relative_p1.z⟩
  let relative_pose_v : Point := ⟨1, 0, 0⟩
  relative_pose_v.angle relative_waypoint_v.normalize * 180 / π

/-- The `x` axis of an orientation in the map frame: the first column of its rotation. -/
noncomputable def heading (q : Quaternion) : Point :=
  ⟨(Matrix3x3.ofQuaternion q).r0.x, (Matrix3x3.ofQuaternion q).r1.x,
    (Matrix3x3.ofQuaternion q).r2.x⟩

theorem heading_dot_self {q : Quaternion} (hq : q.length2 ≠ 0) : (heading q).dot (heading q) = 1 := by
  simp only [heading, Point.dot]
  linear_combination ofQuaternion_col0 hq

@[simp] theorem heading_getQuaternionFromYaw (yaw : ℝ) :
    heading (getQuaternionFromYaw yaw) = ⟨cos yaw, sin yaw, 0⟩ := by
  simp only [heading, ofQuaternion_getQuaternionFromYaw]

/-- The vector the source builds is the waypoint's heading seen from the vehicle; the two
    positions cancel. -/
theorem getRelativeAngle_eq_angle (waypoint_pose vehicle_pose : Pose) :
    getRelativeAngle waypoint_pose vehicle_pose = (⟨1, 0, 0⟩ : Point).angle
      ((Matrix3x3.ofQuaternion vehicle_pose.orientation).transpose.mulVec
        (heading waypoint_pose.orientation)).normalize * 180 / π := by
  simp only [getRelativeAngle, calcRelativeCoordinate, calcAbsoluteCoordinate, Transform.apply,
    Transform.inverse, poseMsgToTF, heading, Matrix3x3.mulVec, Matrix3x3.transpose, Point.dot,
    Point.add, Point.neg]
  congr 5 <;> ring

/-- For nonzero quaternions, `getRelativeAngle` is the angle, in degrees, between the two
    headings. -/
theorem getRelativeAngle_eq_arccos (waypoint_pose vehicle_pose : Pose)
    (hw : waypoint_pose.orientation.length2 ≠ 0) (hv : vehicle_pose.orientation.length2 ≠ 0) :
    getRelativeAngle waypoint_pose vehicle_pose =
      arccos ((heading vehicle_pose.orientation).dot (heading waypoint_pose.orientation)) *
        180 / π := by
  have hunit := ofQuaternion_transpose_mulVec_dot_self hv (heading waypoint_pose.orientation)
  rw [heading_dot_self hw] at hunit
  rw [getRelativeAngle_eq_angle, Point.normalize_of_dot_self hunit,
    Point.angle_of_dot_self (by simp [Point.dot]) hunit]
  simp only [heading, Matrix3x3.mulVec, Matrix3x3.transpose, Point.dot]
  ring_nf

/-! ## Against the heading gates -/

/-- `cos` does not see the normalisation. -/
@[simp] theorem cos_normalizeAngle (x : ℝ) : cos (normalizeAngle x) = cos x := by
  rw [← Angle.cos_coe, normalizeAngle_coe, Angle.cos_coe]

/-- The absolute normalised angle is `arccos ∘ cos`. -/
theorem abs_normalizeAngle_eq_arccos (x : ℝ) : |normalizeAngle x| = arccos (cos x) := by
  obtain ⟨h1, h2⟩ := normalizeAngle_mem x
  rw [← cos_normalizeAngle, ← cos_abs, arccos_cos (abs_nonneg _) (abs_le.mpr ⟨h1, h2⟩)]

/-- **The two heading differences agree.**  For a waypoint and a vehicle whose orientations are
    the unit quaternions of the yaws `ψ_w` and `ψ_v`, `getRelativeAngle` is
    `|normalizeAngle (ψ_w - ψ_v)|` in degrees: the absolute normalised difference of the yaws
    `tf2::getYaw` reads, which the heading gate of `findClosestIdxWithDistAngThr` compares. -/
theorem getRelativeAngle_eq_abs_normalizeAngle (waypoint_pose vehicle_pose : Pose)
    (psi_w psi_v : ℝ) (hw : waypoint_pose.orientation = getQuaternionFromYaw psi_w)
    (hv : vehicle_pose.orientation = getQuaternionFromYaw psi_v) :
    getRelativeAngle waypoint_pose vehicle_pose = |normalizeAngle (psi_w - psi_v)| * 180 / π ∧
      getRelativeAngle waypoint_pose vehicle_pose =
        |normalizeAngle (Tf2.getYaw vehicle_pose.orientation -
          Tf2.getYaw waypoint_pose.orientation)| * 180 / π := by
  have h := getRelativeAngle_eq_arccos waypoint_pose vehicle_pose
    (by rw [hw, length2_getQuaternionFromYaw]; exact one_ne_zero)
    (by rw [hv, length2_getQuaternionFromYaw]; exact one_ne_zero)
  rw [hw, hv] at h
  simp only [heading_getQuaternionFromYaw, Point.dot, mul_zero, add_zero] at h
  rw [h, hw, hv, abs_normalizeAngle_eq_arccos, abs_normalizeAngle_eq_arccos, cos_sub, cos_sub,
    cos_getYaw_getQuaternionFromYaw, cos_getYaw_getQuaternionFromYaw,
    sin_getYaw_getQuaternionFromYaw, sin_getYaw_getQuaternionFromYaw]
  constructor <;> ring_nf

theorem originPose_getRelativeAngle :
    originPose.orientation = getQuaternionFromYaw 0 ∧
      (⟨⟨1, 2, 0⟩, getQuaternionFromYaw (π / 2)⟩ : Pose).orientation =
        getQuaternionFromYaw (π / 2) ∧
      getRelativeAngle originPose ⟨⟨1, 2, 0⟩, getQuaternionFromYaw (π / 2)⟩ =
          |normalizeAngle (0 - π / 2)| * 180 / π ∧
        getRelativeAngle originPose ⟨⟨1, 2, 0⟩, getQuaternionFromYaw (π / 2)⟩ =
          |normalizeAngle (Tf2.getYaw (getQuaternionFromYaw (π / 2)) -
            Tf2.getYaw originPose.orientation)| * 180 / π := by
  have ho : originPose.orientation = getQuaternionFromYaw 0 := by simp [originPose]
  exact ⟨ho, rfl, getRelativeAngle_eq_abs_normalizeAngle _ _ 0 (π / 2) ho rfl⟩

/-! ## Frame independence -/

namespace PlaneMotion

variable (g : PlaneMotion)

/-- A motion turns a heading by `θ` about the vertical axis. -/
theorem heading_quaternion {q : Quaternion} (hq : q.length2 ≠ 0) :
    heading (g.quaternion q) = ⟨cos g.θ * (heading q).x - sin g.θ * (heading q).y,
      sin g.θ * (heading q).x + cos g.θ * (heading q).y, (heading q).z⟩ := by
  obtain ⟨h0, h1, h2⟩ := g.ofQuaternion_quaternion hq
  simp only [heading, h0, h1, h2]

/-- **The relative angle is frame independent**: a rigid motion of the map frame keeps the angle
    between two poses with nonzero quaternions. -/
theorem getRelativeAngle_pose (waypoint_pose vehicle_pose : Pose)
    (hw : waypoint_pose.orientation.length2 ≠ 0) (hv : vehicle_pose.orientation.length2 ≠ 0) :
    getRelativeAngle (g.pose waypoint_pose) (g.pose vehicle_pose) =
      getRelativeAngle waypoint_pose vehicle_pose := by
  rw [getRelativeAngle_eq_arccos _ _ (by rwa [PlaneMotion.pose, g.length2_quaternion])
      (by rwa [PlaneMotion.pose, g.length2_quaternion]),
    getRelativeAngle_eq_arccos _ _ hw hv]
  simp only [PlaneMotion.pose, g.heading_quaternion hw, g.heading_quaternion hv, Point.dot]
  congr 3
  linear_combination ((heading vehicle_pose.orientation).x * (heading waypoint_pose.orientation).x +
    (heading vehicle_pose.orientation).y * (heading waypoint_pose.orientation).y) *
    sin_sq_add_cos_sq g.θ

end PlaneMotion

theorem movedPose_getRelativeAngle_quarterTurn :
    (movedPose.orientation.length2 ≠ 0 ∧ leftPose.orientation.length2 ≠ 0) ∧
      getRelativeAngle (quarterTurn.pose movedPose) (quarterTurn.pose leftPose) =
        getRelativeAngle movedPose leftPose :=
  ⟨⟨movedPose_length2_ne_zero, leftPose_length2_ne_zero⟩,
    PlaneMotion.getRelativeAngle_pose _ _ _ movedPose_length2_ne_zero leftPose_length2_ne_zero⟩

end WaypointFollower
