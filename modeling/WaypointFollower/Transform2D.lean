import WaypointFollower.Transform
/-
  The planar changes of frame `transformToAbsoluteCoordinate2D` / `transformToRelativeCoordinate2D`
  (lines 646–662 and 678–695) and the orientation of a heading, `getQuaternionFromYaw`
  (lines 617–622).

  The 2D pair reads only the yaw `tf2::getYaw` of the origin's orientation and turns by it with
  explicit `cos`/`sin` formulas, where the tf pair of `Transform` applies the whole rotation matrix
  of the quaternion.  On a pure yaw orientation, the output of `getQuaternionFromYaw`:

  * the matrix is the planar rotation by the yaw (`ofQuaternion_getQuaternionFromYaw`);
  * `tf2::getYaw` reads the yaw back modulo `2π` (`getYaw_getQuaternionFromYaw`), exactly on
    `(-π, π]`, and so does `tf::getYaw` (`getYaw_getQuaternionFromYaw_of_mem`);
  * so the two pairs agree on `x` and `y` (`transformToCoordinate2D_eq_calc`).

  The 2D pair is mutually inverse on `x` and `y` for every orientation
  (`transformToCoordinate2D_inverse`); on `z` neither undoes the other, both return the
  origin's `z`.
-/

open Real

namespace WaypointFollower

/-! ## The orientation of a yaw -/

/-- `tf2::Quaternion::setRPY(roll, pitch, yaw)`. -/
noncomputable def Quaternion.setRPY (roll pitch yaw : ℝ) : Quaternion :=
  let halfYaw := yaw * 0.5
  let halfPitch := pitch * 0.5
  let halfRoll := roll * 0.5
  let cosYaw := cos halfYaw
  let sinYaw := sin halfYaw
  let cosPitch := cos halfPitch
  let sinPitch := sin halfPitch
  let cosRoll := cos halfRoll
  let sinRoll := sin halfRoll
  ⟨sinRoll * cosPitch * cosYaw - cosRoll * sinPitch * sinYaw,
    cosRoll * sinPitch * cosYaw + sinRoll * cosPitch * sinYaw,
    cosRoll * cosPitch * sinYaw - sinRoll * sinPitch * cosYaw,
    cosRoll * cosPitch * cosYaw + sinRoll * sinPitch * sinYaw⟩

/-- `getQuaternionFromYaw(_yaw)`: `q.setRPY(0, 0, _yaw)`, copied into a message. -/
noncomputable def getQuaternionFromYaw (yaw : ℝ) : Quaternion := Quaternion.setRPY 0 0 yaw

@[simp] theorem getQuaternionFromYaw_eq (yaw : ℝ) :
    getQuaternionFromYaw yaw = ⟨0, 0, sin (yaw / 2), cos (yaw / 2)⟩ := by
  simp [getQuaternionFromYaw, Quaternion.setRPY, div_eq_mul_inv]
  norm_num

@[simp] theorem length2_getQuaternionFromYaw (yaw : ℝ) : (getQuaternionFromYaw yaw).length2 = 1 := by
  simp [Quaternion.length2]

/-- Every unit quaternion of a pure yaw rotation is the orientation of a yaw. -/
theorem exists_getQuaternionFromYaw {q : Quaternion} (hx : q.x = 0) (hy : q.y = 0)
    (hq : q.length2 = 1) : ∃ yaw, q = getQuaternionFromYaw yaw := by
  obtain ⟨x, y, qz, w⟩ := q
  simp only at hx hy
  subst hx hy
  -- the half yaw is the argument of the unit complex number `w + qz i`
  set z : ℂ := ⟨w, qz⟩
  have habs : Complex.abs z = 1 := by
    rw [Complex.abs_apply, Complex.normSq_mk, ← Real.sqrt_one]
    congr 1
    simp only [Quaternion.length2] at hq
    linear_combination hq
  have hz : z ≠ 0 := fun h => by simp [h] at habs
  refine ⟨2 * Complex.arg z, ?_⟩
  rw [getQuaternionFromYaw_eq, mul_div_cancel_left₀ _ two_ne_zero, Complex.sin_arg,
    Complex.cos_arg hz, habs, div_one, div_one]

theorem movedPose_getQuaternionFromYaw :
    (movedPose.orientation.x = 0 ∧ movedPose.orientation.y = 0 ∧
        movedPose.orientation.length2 = 1) ∧
      ∃ yaw, movedPose.orientation = getQuaternionFromYaw yaw :=
  ⟨⟨rfl, rfl, movedPose_length2⟩, exists_getQuaternionFromYaw rfl rfl movedPose_length2⟩

/-- The rotation of a pure yaw orientation is the planar rotation by the yaw. -/
theorem ofQuaternion_getQuaternionFromYaw (yaw : ℝ) :
    Matrix3x3.ofQuaternion (getQuaternionFromYaw yaw) =
      ⟨⟨cos yaw, -sin yaw, 0⟩, ⟨sin yaw, cos yaw, 0⟩, ⟨0, 0, 1⟩⟩ := by
  have hcs := sin_sq_add_cos_sq (yaw / 2)
  have hcos : cos yaw = cos (yaw / 2) ^ 2 - sin (yaw / 2) ^ 2 := by
    rw [← cos_two_mul', mul_div_cancel₀ _ two_ne_zero]
  have hsin : sin yaw = 2 * sin (yaw / 2) * cos (yaw / 2) := by
    rw [← sin_two_mul, mul_div_cancel₀ _ two_ne_zero]
  rw [Matrix3x3.ofQuaternion, length2_getQuaternionFromYaw, getQuaternionFromYaw_eq]
  simp only [rotationOf, hcos, hsin, div_one, Matrix3x3.mk.injEq, Point.mk.injEq]
  refine ⟨⟨?_, ?_, ?_⟩, ⟨?_, ?_, ?_⟩, ⟨?_, ?_, ?_⟩⟩ <;> first | ring1 | linear_combination -hcs

/-- `atan2(sin θ, cos θ)` is `θ` modulo `2π`. -/
theorem atan2_sin_cos (θ : ℝ) : (atan2 (sin θ) (cos θ) : Angle) = θ := by
  have h : (⟨cos θ, sin θ⟩ : ℂ) = (cos θ : ℂ) + (sin θ : ℂ) * Complex.I := by
    apply Complex.ext <;>
      simp only [Complex.add_re, Complex.add_im, Complex.mul_re, Complex.mul_im, Complex.ofReal_re,
        Complex.ofReal_im, Complex.I_re, Complex.I_im] <;> ring
  rw [atan2, h, ← Angle.cos_coe, ← Angle.sin_coe, Complex.arg_cos_add_sin_mul_I_coe_angle]

/-- On a quaternion `(0, 0, z, w)`, `tf2::getYaw` is `atan2(2zw, w² - z²)`. -/
theorem Tf2.getYaw_of_pure {q : Quaternion} (hx : q.x = 0) (hy : q.y = 0) :
    Tf2.getYaw q = atan2 (2 * q.z * q.w) (q.w ^ 2 - q.z ^ 2) := by
  have hsarg : -2 * (q.x * q.z - q.w * q.y) / q.length2 = 0 := by simp [hx, hy]
  simp only [Tf2.getYaw, hsarg]
  rw [if_neg (by norm_num), if_neg (by norm_num), hx, hy]
  congr 1 <;> ring

theorem Tf2.getYaw_getQuaternionFromYaw_eq (yaw : ℝ) :
    Tf2.getYaw (getQuaternionFromYaw yaw) = atan2 (sin yaw) (cos yaw) := by
  rw [Tf2.getYaw_of_pure (by simp) (by simp), getQuaternionFromYaw_eq, ← sin_two_mul,
    ← cos_two_mul', mul_div_cancel₀ _ two_ne_zero]

/-- `tf2::getYaw` reads the yaw of `getQuaternionFromYaw` back, modulo `2π`. -/
theorem getYaw_getQuaternionFromYaw (yaw : ℝ) :
    (Tf2.getYaw (getQuaternionFromYaw yaw) : Angle) = yaw := by
  rw [Tf2.getYaw_getQuaternionFromYaw_eq, atan2_sin_cos]

@[simp] theorem cos_getYaw_getQuaternionFromYaw (yaw : ℝ) :
    cos (Tf2.getYaw (getQuaternionFromYaw yaw)) = cos yaw := by
  rw [← Angle.cos_coe, getYaw_getQuaternionFromYaw, Angle.cos_coe]

@[simp] theorem sin_getYaw_getQuaternionFromYaw (yaw : ℝ) :
    sin (Tf2.getYaw (getQuaternionFromYaw yaw)) = sin yaw := by
  rw [← Angle.sin_coe, getYaw_getQuaternionFromYaw, Angle.sin_coe]

/-- On `(-π, π]`, `atan2(sin θ, cos θ)` is `θ` itself. -/
theorem atan2_sin_cos_of_mem {θ : ℝ} (h1 : -π < θ) (h2 : θ ≤ π) : atan2 (sin θ) (cos θ) = θ := by
  have hb : -π < atan2 (sin θ) (cos θ) ∧ atan2 (sin θ) (cos θ) ≤ π :=
    ⟨Complex.neg_pi_lt_arg _, Complex.arg_le_pi _⟩
  have h := congrArg Angle.toReal (atan2_sin_cos θ)
  rwa [Angle.toReal_coe_eq_self_iff.mpr hb, Angle.toReal_coe_eq_self_iff.mpr ⟨h1, h2⟩] at h

/-- **The yaw round trip.**  Both yaw readers return the yaw given to `getQuaternionFromYaw`
    when it lies in `(-π, π]`. -/
theorem getYaw_getQuaternionFromYaw_of_mem {yaw : ℝ} (h1 : -π < yaw) (h2 : yaw ≤ π) :
    Tf2.getYaw (getQuaternionFromYaw yaw) = yaw ∧ Tf.getYaw (getQuaternionFromYaw yaw) = yaw := by
  refine ⟨by rw [Tf2.getYaw_getQuaternionFromYaw_eq, atan2_sin_cos_of_mem h1 h2], ?_⟩
  simp only [Tf.getYaw, ofQuaternion_getQuaternionFromYaw, abs_zero]
  rw [if_neg (by norm_num), atan2_sin_cos_of_mem h1 h2]

theorem getYaw_getQuaternionFromYaw_pi :
    (-π < π ∧ π ≤ π) ∧
      Tf2.getYaw (getQuaternionFromYaw π) = π ∧ Tf.getYaw (getQuaternionFromYaw π) = π :=
  ⟨⟨by linarith [pi_pos], le_rfl⟩, getYaw_getQuaternionFromYaw_of_mem (by linarith [pi_pos]) le_rfl⟩

/-! ## The planar pair -/

/-- `transformToAbsoluteCoordinate2D(point, origin)`: turn by the origin's yaw, then translate;
    `z` is the origin's. -/
noncomputable def transformToAbsoluteCoordinate2D (point : Point) (origin : Pose) : Point :=
  -- rotation
  let yaw := Tf2.getYaw origin.orientation
  let rot_p : Point := ⟨cos yaw * point.x + (-1) * sin yaw * point.y,
    sin yaw * point.x + cos yaw * point.y, 0⟩
  -- translation
  ⟨rot_p.x + origin.position.x, rot_p.y + origin.position.y, origin.position.z⟩

/-- `transformToRelativeCoordinate2D(point, origin)`: translate, then turn back by the origin's
    yaw; `z` is the origin's. -/
noncomputable def transformToRelativeCoordinate2D (point : Point) (origin : Pose) : Point :=
  -- translation
  let trans_p : Point := ⟨point.x - origin.position.x, point.y - origin.position.y, 0⟩
  -- rotation (use inverse matrix of rotation)
  let yaw := Tf2.getYaw origin.orientation
  ⟨cos yaw * trans_p.x + sin yaw * trans_p.y, (-1) * sin yaw * trans_p.x + cos yaw * trans_p.y,
    origin.position.z⟩

/-- The 2D pair is mutually inverse on `x` and `y`, whatever the orientation. -/
theorem transformToCoordinate2D_inverse (p : Point) (o : Pose) :
    (transformToRelativeCoordinate2D (transformToAbsoluteCoordinate2D p o) o).x = p.x ∧
      (transformToRelativeCoordinate2D (transformToAbsoluteCoordinate2D p o) o).y = p.y ∧
      (transformToAbsoluteCoordinate2D (transformToRelativeCoordinate2D p o) o).x = p.x ∧
      (transformToAbsoluteCoordinate2D (transformToRelativeCoordinate2D p o) o).y = p.y := by
  have h := sin_sq_add_cos_sq (Tf2.getYaw o.orientation)
  simp only [transformToRelativeCoordinate2D, transformToAbsoluteCoordinate2D]
  refine ⟨?_, ?_, ?_, ?_⟩
  · linear_combination p.x * h
  · linear_combination p.y * h
  · linear_combination (p.x - o.position.x) * h
  · linear_combination (p.y - o.position.y) * h

/-- **The planar pair is the tf pair on the ground plane.**  For an origin whose orientation is
    the unit quaternion of a yaw, the explicit 2D formulas agree with `calcRelativeCoordinate` and
    `calcAbsoluteCoordinate` on `x` and `y`, and are mutually inverse there. -/
theorem transformToCoordinate2D_eq_calc (p : Point) (o : Pose) (psi : ℝ)
    (ho : o.orientation = getQuaternionFromYaw psi) :
    (transformToRelativeCoordinate2D p o).x = (calcRelativeCoordinate p o).x ∧
      (transformToRelativeCoordinate2D p o).y = (calcRelativeCoordinate p o).y ∧
      (transformToAbsoluteCoordinate2D p o).x = (calcAbsoluteCoordinate p o).x ∧
      (transformToAbsoluteCoordinate2D p o).y = (calcAbsoluteCoordinate p o).y ∧
      (transformToRelativeCoordinate2D (transformToAbsoluteCoordinate2D p o) o).x = p.x ∧
      (transformToRelativeCoordinate2D (transformToAbsoluteCoordinate2D p o) o).y = p.y ∧
      (transformToAbsoluteCoordinate2D (transformToRelativeCoordinate2D p o) o).x = p.x ∧
      (transformToAbsoluteCoordinate2D (transformToRelativeCoordinate2D p o) o).y = p.y := by
  refine ⟨?_, ?_, ?_, ?_, transformToCoordinate2D_inverse p o⟩ <;>
  · simp only [transformToRelativeCoordinate2D, transformToAbsoluteCoordinate2D,
      calcRelativeCoordinate, calcAbsoluteCoordinate, poseMsgToTF, Transform.apply,
      Transform.inverse, ho, ofQuaternion_getQuaternionFromYaw, cos_getYaw_getQuaternionFromYaw,
      sin_getYaw_getQuaternionFromYaw, Matrix3x3.mulVec, Matrix3x3.transpose, Point.dot,
      Point.add, Point.neg]
    ring

/-- A vehicle at `(1, 2)` facing `+y`. -/
noncomputable def leftPose : Pose := ⟨⟨1, 2, 0⟩, getQuaternionFromYaw (π / 2)⟩

theorem leftPose_length2_ne_zero : leftPose.orientation.length2 ≠ 0 := by
  rw [leftPose, length2_getQuaternionFromYaw]; exact one_ne_zero

theorem leftPose_transformToCoordinate2D :
    leftPose.orientation = getQuaternionFromYaw (π / 2) ∧
      (transformToRelativeCoordinate2D ⟨3, -1, 2⟩ leftPose).x =
        (calcRelativeCoordinate ⟨3, -1, 2⟩ leftPose).x ∧
      (transformToRelativeCoordinate2D ⟨3, -1, 2⟩ leftPose).y =
        (calcRelativeCoordinate ⟨3, -1, 2⟩ leftPose).y ∧
      (transformToAbsoluteCoordinate2D ⟨3, -1, 2⟩ leftPose).x =
        (calcAbsoluteCoordinate ⟨3, -1, 2⟩ leftPose).x ∧
      (transformToAbsoluteCoordinate2D ⟨3, -1, 2⟩ leftPose).y =
        (calcAbsoluteCoordinate ⟨3, -1, 2⟩ leftPose).y ∧
      (transformToRelativeCoordinate2D
        (transformToAbsoluteCoordinate2D ⟨3, -1, 2⟩ leftPose) leftPose).x = 3 ∧
      (transformToRelativeCoordinate2D
        (transformToAbsoluteCoordinate2D ⟨3, -1, 2⟩ leftPose) leftPose).y = -1 ∧
      (transformToAbsoluteCoordinate2D
        (transformToRelativeCoordinate2D ⟨3, -1, 2⟩ leftPose) leftPose).x = 3 ∧
      (transformToAbsoluteCoordinate2D
        (transformToRelativeCoordinate2D ⟨3, -1, 2⟩ leftPose) leftPose).y = -1 :=
  ⟨rfl, transformToCoordinate2D_eq_calc _ _ (π / 2) rfl⟩

end WaypointFollower
