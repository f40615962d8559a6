import WaypointFollower.Transform
import Mathlib.Tactic.LinearCombination
/-
  Rigid motions of the map frame: a turn by `θ` about the vertical axis followed by a shift
  `(tx, ty)` of the ground plane.  A motion acts on points, on orientations (the quaternion `q`
  becomes the Hamilton product `qz(θ) ⊗ q` with `qz(θ) = (0, 0, sin (θ/2), cos (θ/2))`), on poses,
  on waypoints (speeds unchanged) and on lanes.

  What a motion does to the quantities the library reads:
  * planar distances are unchanged (`getPlaneDistance_point`);
  * the bearing `atan2(Δy, Δx)` of a segment of nonzero length turns by `θ` modulo `2π`
    (`atan2_point`); a segment of length zero keeps the bearing `atan2(0, 0) = 0`;
  * the first column of `tf::Matrix3x3(q)` turns by `θ` and its last entry is unchanged
    (`ofQuaternion_quaternion`), so the yaw read by `tf::getYaw` turns by `θ` modulo `2π` when
    `q` is nonzero and off the pitch singularity `|m[2][0]| ≥ 1` (`getYaw_quaternion`); at the
    singularity it stays `0`.
-/

open Real

namespace WaypointFollower

/-- A rigid motion of the map frame: turn by `θ` about the vertical axis, then shift by
    `(tx, ty)`. -/
structure PlaneMotion where
  θ : ℝ
  tx : ℝ
  ty : ℝ

namespace PlaneMotion

variable (g : PlaneMotion)

/-- The motion of a point. -/
noncomputable def point (p : Point) : Point :=
  ⟨cos g.θ * p.x - sin g.θ * p.y + g.tx, sin g.θ * p.x + cos g.θ * p.y + g.ty, p.z⟩

/-- The motion of an orientation: `qz(θ) ⊗ q`. -/
noncomputable def quaternion (q : Quaternion) : Quaternion :=
  let c := cos (g.θ / 2)
  let s := sin (g.θ / 2)
  ⟨c * q.x - s * q.y, c * q.y + s * q.x, c * q.z + s * q.w, c * q.w - s * q.z⟩

/-- The motion of a pose. -/
noncomputable def pose (p : Pose) : Pose := ⟨g.point p.position, g.quaternion p.orientation⟩

/-- The motion of a waypoint: its pose moves, its speed does not. -/
noncomputable def waypoint (w : Waypoint) : Waypoint := ⟨g.pose w.pose, w.velocity⟩

/-- The motion of every waypoint of a lane. -/
noncomputable def lane (l : Lane) : Lane := ⟨l.waypoints.map g.waypoint⟩

end PlaneMotion

/-- A quarter turn of the frame about the origin, then a shift by `(1, 2)`. -/
noncomputable def quarterTurn : PlaneMotion := ⟨π / 2, 1, 2⟩

namespace PlaneMotion

variable (g : PlaneMotion)

/-! ## Distances and bearings -/

/-- A motion keeps planar distances. -/
theorem getPlaneDistance_point (p q : Point) :
    getPlaneDistance (g.point p) (g.point q) = getPlaneDistance p q := by
  unfold getPlaneDistance point
  congr 1
  linear_combination ((q.x - p.x) ^ 2 + (q.y - p.y) ^ 2) * sin_sq_add_cos_sq g.θ

/-- Turning a nonzero vector by `θ` turns its bearing by `θ`, modulo `2π`. -/
theorem atan2_rotate {x y : ℝ} (h : x ≠ 0 ∨ y ≠ 0) (θ : ℝ) :
    (atan2 (sin θ * x + cos θ * y) (cos θ * x - sin θ * y) : Angle) = atan2 y x + θ := by
  have hz : (⟨x, y⟩ : ℂ) ≠ 0 := fun h0 =>
    h.elim (fun hx => hx (congrArg Complex.re h0)) fun hy => hy (congrArg Complex.im h0)
  have hu : (cos θ : ℂ) + (sin θ : ℂ) * Complex.I ≠ 0 := by
    rw [Complex.ofReal_cos, Complex.ofReal_sin, ← Complex.exp_mul_I]
    exact Complex.exp_ne_zero _
  have hmul : (⟨cos θ * x - sin θ * y, sin θ * x + cos θ * y⟩ : ℂ) =
      ((cos θ : ℂ) + (sin θ : ℂ) * Complex.I) * ⟨x, y⟩ := by
    apply Complex.ext <;>
      simp only [Complex.mul_re, Complex.mul_im, Complex.add_re, Complex.add_im, Complex.ofReal_re,
        Complex.ofReal_im, Complex.I_re, Complex.I_im] <;> ring
  unfold atan2
  rw [hmul, Complex.arg_mul_coe_angle hu hz, ← Angle.cos_coe, ← Angle.sin_coe,
    Complex.arg_cos_add_sin_mul_I_coe_angle, add_comm]

/-- The bearing of a segment of nonzero length turns by `θ`, modulo `2π`. -/
theorem atan2_point {p q : Point} (h : p.x ≠ q.x ∨ p.y ≠ q.y) :
    (atan2 ((g.point q).y - (g.point p).y) ((g.point q).x - (g.point p).x) : Angle) =
      atan2 (q.y - p.y) (q.x - p.x) + g.θ := by
  have h' : q.x - p.x ≠ 0 ∨ q.y - p.y ≠ 0 :=
    h.imp (fun h => sub_ne_zero.mpr (Ne.symm h)) fun h => sub_ne_zero.mpr (Ne.symm h)
  rw [← atan2_rotate h' g.θ]
  congr 2 <;> simp only [point] <;> ring

/-! ## Orientations -/

theorem length2_quaternion (q : Quaternion) : (g.quaternion q).length2 = q.length2 := by
  simp only [quaternion, Quaternion.length2]
  linear_combination (q.x ^ 2 + q.y ^ 2 + q.z ^ 2 + q.w ^ 2) * sin_sq_add_cos_sq (g.θ / 2)

/-- A motion turns the first column of `tf::Matrix3x3(q)` by `θ` and keeps its last entry. -/
theorem ofQuaternion_quaternion {q : Quaternion} (hq : q.length2 ≠ 0) :
    let m := Matrix3x3.ofQuaternion q
    let m' := Matrix3x3.ofQuaternion (g.quaternion q)
    m'.r0.x = cos g.θ * m.r0.x - sin g.θ * m.r1.x ∧
      m'.r1.x = sin g.θ * m.r0.x + cos g.θ * m.r1.x ∧ m'.r2.x = m.r2.x := by
  have hcs := sin_sq_add_cos_sq (g.θ / 2)
  have hcos : cos g.θ = cos (g.θ / 2) ^ 2 - sin (g.θ / 2) ^ 2 := by
    rw [← cos_two_mul', mul_div_cancel₀ _ two_ne_zero]
  have hsin : sin g.θ = 2 * sin (g.θ / 2) * cos (g.θ / 2) := by
    rw [← sin_two_mul, mul_div_cancel₀ _ two_ne_zero]
  simp only [Matrix3x3.ofQuaternion, g.length2_quaternion]
  simp only [rotationOf, hcos, hsin, quaternion]
  set σ := 2 / q.length2
  have hs : σ * (q.x ^ 2 + q.y ^ 2 + q.z ^ 2 + q.w ^ 2) = 2 := div_mul_cancel₀ 2 hq
  refine ⟨?_, ?_, ?_⟩
  · linear_combination (-sin (g.θ / 2) ^ 2) * hs - hcs
  · linear_combination (cos (g.θ / 2) * sin (g.θ / 2)) * hs
  · linear_combination (σ * (q.x * q.z - q.w * q.y)) * hcs

/-- **The yaw turns with the frame.**  Off the pitch singularity, a motion turns the yaw read by
    `tf::getYaw` by `θ`, modulo `2π`. -/
theorem getYaw_quaternion {q : Quaternion} (hq : q.length2 ≠ 0)
    (hs : |(Matrix3x3.ofQuaternion q).r2.x| < 1) :
    (Tf.getYaw (g.quaternion q) : Angle) = Tf.getYaw q + g.θ := by
  obtain ⟨h0, h1, h2⟩ := g.ofQuaternion_quaternion hq
  -- off the singularity the first column has a nonzero horizontal part
  have hne : (Matrix3x3.ofQuaternion q).r0.x ≠ 0 ∨ (Matrix3x3.ofQuaternion q).r1.x ≠ 0 := by
    by_contra! h
    have hcol := ofQuaternion_col0 hq
    rw [h.1, h.2] at hcol
    linarith [(sq_lt_one_iff_abs_lt_one _).mpr hs]
  simp only [Tf.getYaw, h0, h1, h2, if_neg (not_le.mpr hs)]
  exact atan2_rotate hne g.θ

end PlaneMotion

end WaypointFollower
