import WaypointFollower.LaneDirection
import WaypointFollower.Line
import WaypointFollower.RelativePose
/-
  The planar helpers: `rotateUnitVector` and `rotatePoint` (lines 506–522) with
  `amathutils::deg2rad`, `extractPoses` (lines 568–586), `isDirectionForward` (lines 624–629)
  and `calcLateralError2D` (lines 546–554), and the two yaws the library reads, `tf::getYaw` and
  `tf2::getYaw`.

  1. Turns compose: turning by `a` degrees, then by `b`, is turning by `a + b`
     (`rotatePoint_rotatePoint`).  `rotatePoint` is the frame change of
     `transformToAbsoluteCoordinate2D` out of a pose at the origin facing `deg2rad(degree)`
     (`rotatePoint_eq_transformToAbsoluteCoordinate2D`).  `rotateUnitVector` is `rotatePoint`
     followed by `normalize`: its result is a unit vector whenever the input has a nonzero planar
     part, and on a unit vector of the plane, the argument its name asks for, the normalization
     changes nothing (`rotateUnitVector_unit`).
  2. Off tf2's pitch band `|m[2][0]| ≥ 0.99999`, `tf2::getYaw` is the bearing
     `atan2(m[1][0], m[0][0])` of the shadow the heading casts on the ground
     (`Tf2.getYaw_of_abs_lt`), the yaw `tf::getYaw` reads as well.  Inside the band tf2 returns
     `±2 atan2(q.y, q.x)` and tf keeps the bearing until `|m[2][0]| = 1`.
  3. The heading's shadow has length `c = √(m[0][0]² + m[1][0]²)`, and the `x` that
     `transformToRelativeCoordinate2D` computes is the 3D relative `x` without its height term,
     over `c` (`calcRelativeCoordinate_x_shadow`).  So `isDirectionForward` is the 3D forward
     test for poses at one height, and it throws (`none`) exactly on fewer than three poses
     (`isDirectionForward_eq_calc`).  The signed lateral error of `calcLateralError2D` is the `y` of the
     point in the frame of a vehicle at the segment's start facing along it
     (`calcLateralError2D_eq_transformToRelativeCoordinate2D`).
-/

open Real

namespace WaypointFollower

/-! ## Turning by degrees -/

/-- `amathutils::deg2rad(deg)`: `deg * M_PI / 180`. -/
noncomputable def deg2rad (deg : ℝ) : ℝ := deg * π / 180

/-- `rotateUnitVector(unit_vector, degree)`. -/
noncomputable def rotateUnitVector (unit_vector : Point) (degree : ℝ) : Point :=
  let w1 : Point := ⟨cos (deg2rad degree) * unit_vector.x - sin (deg2rad degree) * unit_vector.y,
    sin (deg2rad degree) * unit_vector.x + cos (deg2rad degree) * unit_vector.y, 0⟩
  let unit_w1 := w1.normalize
  unit_w1

/-- `rotatePoint(point, degree)`; `rotate.z` keeps the message's default `0`. -/
noncomputable def rotatePoint (point : Point) (degree : ℝ) : Point :=
  ⟨cos (deg2rad degree) * point.x - sin (deg2rad degree) * point.y,
    sin (deg2rad degree) * point.x + cos (deg2rad degree) * point.y, 0⟩

theorem deg2rad_add (a b : ℝ) : deg2rad (a + b) = deg2rad a + deg2rad b := by
  simp only [deg2rad]; ring

theorem rotateUnitVector_eq_normalize (v : Point) (degree : ℝ) :
    rotateUnitVector v degree = (rotatePoint v degree).normalize :=
  rfl

/-- A turn keeps the planar length. -/
theorem rotatePoint_dot_self (p : Point) (degree : ℝ) :
    (rotatePoint p degree).dot (rotatePoint p degree) = p.x ^ 2 + p.y ^ 2 := by
  simp only [rotatePoint, Point.dot]
  linear_combination (p.x ^ 2 + p.y ^ 2) * sin_sq_add_cos_sq (deg2rad degree)

theorem Point.normalize_dot_self {v : Point} (h : v.dot v ≠ 0) :
    v.normalize.dot v.normalize = 1 := by
  have hpos : 0 < v.dot v := lt_of_le_of_ne (by
    simp only [Point.dot]; linarith [mul_self_nonneg v.x, mul_self_nonneg v.y, mul_self_nonneg v.z])
    (Ne.symm h)
  have hl : v.length ^ 2 = v.dot v := sq_sqrt hpos.le
  calc v.normalize.dot v.normalize = v.dot v / v.length ^ 2 := by
        simp only [Point.normalize, Point.dot]; ring
    _ = 1 := by rw [hl, div_self h]

/-- **Turns compose.**  Turning by `a` degrees, then by `b`, is turning by `a + b`. -/
theorem rotatePoint_rotatePoint (p : Point) (a b : ℝ) :
    rotatePoint (rotatePoint p a) b = rotatePoint p (a + b) := by
  simp only [rotatePoint, deg2rad_add, cos_add, sin_add, Point.mk.injEq, and_true]
  constructor <;> ring

/-- **`rotatePoint` is a planar frame change**: the point, given in the frame of a pose at the
    origin facing `deg2rad(degree)`, carried to the map frame. -/
theorem rotatePoint_eq_transformToAbsoluteCoordinate2D (p : Point) (degree : ℝ) :
    rotatePoint p degree =
      transformToAbsoluteCoordinate2D p ⟨⟨0, 0, 0⟩, getQuaternionFromYaw (deg2rad degree)⟩ := by
  simp only [rotatePoint, transformToAbsoluteCoordinate2D, cos_getYaw_getQuaternionFromYaw,
    sin_getYaw_getQuaternionFromYaw, add_zero, Point.mk.injEq, and_true]
  ring

/-- **`rotateUnitVector` returns a unit vector** whenever the input has a nonzero planar part,
    and on a unit vector of the plane it is `rotatePoint`. -/
theorem rotateUnitVector_unit (v : Point) (degree : ℝ) (hv : v.x ^ 2 + v.y ^ 2 ≠ 0) :
    (rotateUnitVector v degree).dot (rotateUnitVector v degree) = 1 ∧
      (v.x ^ 2 + v.y ^ 2 = 1 → rotateUnitVector v degree = rotatePoint v degree) := by
  rw [rotateUnitVector_eq_normalize]
  refine ⟨Point.normalize_dot_self (by rwa [rotatePoint_dot_self]), fun h1 => ?_⟩
  exact Point.normalize_of_dot_self (by rw [rotatePoint_dot_self, h1])

theorem rotateUnitVector_unit_x :
    ((1 : ℝ) ^ 2 + (0 : ℝ) ^ 2 ≠ 0) ∧
      (rotateUnitVector ⟨1, 0, 0⟩ 90).dot (rotateUnitVector ⟨1, 0, 0⟩ 90) = 1 ∧
      ((1 : ℝ) ^ 2 + (0 : ℝ) ^ 2 = 1 → rotateUnitVector ⟨1, 0, 0⟩ 90 = rotatePoint ⟨1, 0, 0⟩ 90) :=
  ⟨by norm_num, rotateUnitVector_unit ⟨1, 0, 0⟩ 90 (by norm_num)⟩

/-! ## The two yaws -/

/-- `atan2` does not see a positive scale. -/
theorem atan2_mul_left {r : ℝ} (hr : 0 < r) (y x : ℝ) : atan2 (r * y) (r * x) = atan2 y x := by
  have h : (⟨r * x, r * y⟩ : ℂ) = (r : ℂ) * ⟨x, y⟩ := by apply Complex.ext <;> simp
  rw [atan2, atan2, h, Complex.arg_real_mul _ hr]

/-- The cosine and sine of a bearing are its coordinates over its length. -/
theorem cos_sin_atan2 {x y : ℝ} (h : 0 < x ^ 2 + y ^ 2) :
    cos (atan2 y x) = x / √(x ^ 2 + y ^ 2) ∧ sin (atan2 y x) = y / √(x ^ 2 + y ^ 2) := by
  have habs : Complex.abs ⟨x, y⟩ = √(x ^ 2 + y ^ 2) := by
    rw [Complex.abs_apply, Complex.normSq_mk, sq, sq]
  have hz : (⟨x, y⟩ : ℂ) ≠ 0 := fun h0 => by
    rw [← Complex.abs.eq_zero, habs, sqrt_eq_zero h.le] at h0
    exact h.ne' h0
  exact ⟨by rw [atan2, Complex.cos_arg hz, habs], by rw [atan2, Complex.sin_arg, habs]⟩

section
variable {q : Quaternion} (hq : q.length2 ≠ 0)
  (hs : |(Matrix3x3.ofQuaternion q).r2.x| < 0.99999)
include hq hs

/-- Off tf2's pitch band, `tf2::getYaw` is the bearing of the heading's shadow on the ground. -/
theorem Tf2.getYaw_of_abs_lt :
    Tf2.getYaw q = atan2 (Matrix3x3.ofQuaternion q).r1.x (Matrix3x3.ofQuaternion q).r0.x := by
  have hL := Quaternion.length2_pos hq
  rw [ofQuaternion_eq_div hq] at hs ⊢
  obtain ⟨hs1, hs2⟩ := abs_lt.mp hs
  simp only at hs1 hs2 ⊢
  have hsarg : -2 * (q.x * q.z - q.w * q.y) / q.length2 =
      -(2 * (q.x * q.z - q.w * q.y) / q.length2) := by ring
  rw [← atan2_mul_left hL, Tf2.getYaw, hsarg, if_neg (by linarith), if_neg (by linarith)]
  congr 1 <;> field_simp

/-- The heading's shadow on the ground has a positive length off tf2's pitch band. -/
theorem shadow_pos :
    0 < (Matrix3x3.ofQuaternion q).r0.x ^ 2 + (Matrix3x3.ofQuaternion q).r1.x ^ 2 := by
  have h20 := (sq_lt_one_iff_abs_lt_one _).mpr (show |(Matrix3x3.ofQuaternion q).r2.x| < 1 by
    linarith)
  linarith [ofQuaternion_col0 hq]

end

/-- A nonzero quaternion about the vertical axis is off tf2's pitch band. -/
theorem off_band_of_pure {q : Quaternion} (hx : q.x = 0) (hy : q.y = 0) (hq : q.length2 ≠ 0) :
    q.length2 ≠ 0 ∧ |(Matrix3x3.ofQuaternion q).r2.x| < 0.99999 := by
  refine ⟨hq, ?_⟩
  simp only [Matrix3x3.ofQuaternion, rotationOf, hx, hy]
  norm_num

/-! ## The 2D frame change against the 3D one -/

/-- **The heading's shadow.**  The relative `x` of `calcRelativeCoordinate` is the `x` of
    `transformToRelativeCoordinate2D`, scaled by the length of the shadow of the heading, plus the
    height term. -/
theorem calcRelativeCoordinate_x_shadow (p : Point) {pose : Pose}
    (hq : pose.orientation.length2 ≠ 0)
    (hs : |(Matrix3x3.ofQuaternion pose.orientation).r2.x| < 0.99999) :
    (calcRelativeCoordinate p pose).x =
      √((Matrix3x3.ofQuaternion pose.orientation).r0.x ^ 2 +
          (Matrix3x3.ofQuaternion pose.orientation).r1.x ^ 2) *
        (transformToRelativeCoordinate2D p pose).x +
      (Matrix3x3.ofQuaternion pose.orientation).r2.x * (p.z - pose.position.z) := by
  have hc := shadow_pos hq hs
  obtain ⟨hcos, hsin⟩ := cos_sin_atan2 hc
  have hc0 : √((Matrix3x3.ofQuaternion pose.orientation).r0.x ^ 2 +
      (Matrix3x3.ofQuaternion pose.orientation).r1.x ^ 2) ≠ 0 := (sqrt_pos.mpr hc).ne'
  rw [calcRelativeCoordinate_x]
  simp only [transformToRelativeCoordinate2D, Tf2.getYaw_of_abs_lt hq hs, hcos, hsin]
  field_simp

/-- **The lateral error is a planar frame change.**  Off a degenerate segment,
    `calcLateralError2D` is the `y` of the point in the frame of a vehicle standing at the
    segment's start and facing along it, as `transformToRelativeCoordinate2D` computes it. -/
theorem calcLateralError2D_eq_transformToRelativeCoordinate2D (line_s line_e point : Point)
    (h : line_s.x ≠ line_e.x ∨ line_s.y ≠ line_e.y) :
    calcLateralError2D line_s line_e point =
      (transformToRelativeCoordinate2D point
        ⟨line_s, getQuaternionFromYaw (atan2 (line_e.y - line_s.y) (line_e.x - line_s.x))⟩).y := by
  have hpos : 0 < (line_e.x - line_s.x) ^ 2 + (line_e.y - line_s.y) ^ 2 := by
    rcases h with h | h <;> · have := sub_ne_zero.mpr (Ne.symm h); positivity
  obtain ⟨hcos, hsin⟩ := cos_sin_atan2 hpos
  have hlen : √((line_e.x - line_s.x) ^ 2 + (line_e.y - line_s.y) ^ 2 + (0 : ℝ) ^ 2) =
      √((line_e.x - line_s.x) ^ 2 + (line_e.y - line_s.y) ^ 2) := by
    rw [sq (0 : ℝ), mul_zero, add_zero]
  simp only [calcLateralError2D, transformToRelativeCoordinate2D, cos_getYaw_getQuaternionFromYaw,
    sin_getYaw_getQuaternionFromYaw, hcos, hsin, hlen, if_pos (sqrt_pos.mpr hpos)]
  ring

theorem xAxis_calcLateralError2D :
    ((0 : ℝ) ≠ 1 ∨ (0 : ℝ) ≠ 0) ∧
      calcLateralError2D ⟨0, 0, 0⟩ ⟨1, 0, 0⟩ ⟨0, 1, 0⟩ =
        (transformToRelativeCoordinate2D ⟨0, 1, 0⟩
          ⟨⟨0, 0, 0⟩, getQuaternionFromYaw (atan2 (0 - 0) (1 - 0))⟩).y :=
  ⟨.inl zero_ne_one, calcLateralError2D_eq_transformToRelativeCoordinate2D _ _ _ (.inl zero_ne_one)⟩

/-! ## Is the path forward? -/

/-- `extractPoses(lane)`. -/
def Lane.extractPoses (lane : Lane) : List Pose := lane.waypoints.map fun el => el.pose

/-- `extractPoses(wps)`. -/
def extractPoses (wps : List Waypoint) : List Pose := wps.map fun el => el.pose

/-- `isDirectionForward(poses)`: does `poses.at(2)` lie ahead of `poses.at(1)`?  `none` is the
    `out_of_range` throw of `at`. -/
noncomputable def isDirectionForward (poses : List Pose) : Option Bool := do
  let p2 ← poses[2]?
  let p1 ← poses[1]?
  let rel_p := transformToRelativeCoordinate2D p2.position p1
  let is_forward := if rel_p.x > 0 then true else false
  return is_forward

/-- `poses.at(2)` and `poses.at(1)` throw exactly on fewer than three poses. -/
theorem isDirectionForward_eq_none_iff (poses : List Pose) :
    isDirectionForward poses = none ↔ poses.length < 3 := by
  match poses with
  | [] | [_] | [_, _] | _ :: _ :: _ :: _ => simp [isDirectionForward]

/-- **The planar forward test is the 3D one.**  `isDirectionForward` throws exactly on fewer than
    three poses.  From three on, for a middle pose with a nonzero quaternion off tf2's pitch band
    and a next pose at its height, it says whether the next pose lies ahead in the middle pose's
    frame, as `calcRelativeCoordinate` puts it. -/
theorem isDirectionForward_eq_calc (poses : List Pose) :
    (isDirectionForward poses = none ↔ poses.length < 3) ∧
      ∀ p0 p1 p2 rest, poses = p0 :: p1 :: p2 :: rest → p1.orientation.length2 ≠ 0 →
        |(Matrix3x3.ofQuaternion p1.orientation).r2.x| < 0.99999 →
        p2.position.z = p1.position.z →
        isDirectionForward poses = some (decide (0 < (calcRelativeCoordinate p2.position p1).x)) := by
  refine ⟨isDirectionForward_eq_none_iff poses, fun p0 p1 p2 rest hp hq hs hz => ?_⟩
  have hc := sqrt_pos.mpr (shadow_pos hq hs)
  rw [hp, calcRelativeCoordinate_x_shadow _ hq hs, hz, sub_self, mul_zero, add_zero]
  by_cases h : 0 < (transformToRelativeCoordinate2D p2.position p1).x <;>
    simp [isDirectionForward, mul_pos_iff_of_pos_left hc, h]

end WaypointFollower
