import WaypointFollower.Geometry
import Mathlib.Tactic.LinearCombination
/-
  Changes of frame: the tf-based pair `calcRelativeCoordinate` / `calcAbsoluteCoordinate`
  (lines 115–143), the Eigen-based pair `transformToRelativeCoordinate3D` /
  `transformToAbsoluteCoordinate3D` (lines 664–709), and the yaw read off an orientation.

  The library code these call is modelled by what it computes:
  * `tf::Matrix3x3(q)` (`setRotation`) and `Eigen::Quaterniond::toRotationMatrix` are the same
    formula, scaled by `2 / |q|²` in tf and by `2` in Eigen (`rotationOf`); they agree on unit
    quaternions;
  * a `tf::Transform` applies `basis * p + origin`, and its `inverse()` is
    `(basisᵀ, basisᵀ * -origin)`;
  * `Translation3d * Quaterniond * v` is `R v + t` (the rightmost factor acts first), and
    `Quaterniond::inverse()` is the conjugate divided by the squared norm;
  * `tf::getYaw` is the yaw of `Matrix3x3::getRPY`: `0` at the pitch singularity
    `|m[2][0]| ≥ 1`, otherwise `atan2(m[1][0], m[0][0])` (getRPY divides both arguments by
    `cos pitch > 0`, which does not change `atan2`);
  * `tf2::getYaw` is `tf2::getEulerYPR` of `tf2/utils.h`.
-/

open Real

namespace WaypointFollower

/-! ## Vectors, matrices and the rotation of a quaternion -/

namespace Point

/-- `tf::Vector3::operator+`. -/
def add (a b : Point) : Point := ⟨a.x + b.x, a.y + b.y, a.z + b.z⟩

/-- `tf::Vector3::operator-` (unary). -/
def neg (a : Point) : Point := ⟨-a.x, -a.y, -a.z⟩

/-- `tf::Vector3::dot`. -/
def dot (a b : Point) : ℝ := a.x * b.x + a.y * b.y + a.z * b.z

end Point

/-- `tf::Matrix3x3` (and `Eigen::Matrix3d`), stored by rows `m_el[0..2]`. -/
structure Matrix3x3 where
  r0 : Point
  r1 : Point
  r2 : Point

namespace Matrix3x3

/-- `Matrix3x3 * Vector3`. -/
def mulVec (m : Matrix3x3) (v : Point) : Point := ⟨m.r0.dot v, m.r1.dot v, m.r2.dot v⟩

/-- `Matrix3x3::transpose`. -/
def transpose (m : Matrix3x3) : Matrix3x3 :=
  ⟨⟨m.r0.x, m.r1.x, m.r2.x⟩, ⟨m.r0.y, m.r1.y, m.r2.y⟩, ⟨m.r0.z, m.r1.z, m.r2.z⟩⟩

end Matrix3x3

/-- `q.length2()`, the squared norm of a quaternion. -/
def Quaternion.length2 (q : Quaternion) : ℝ := q.x ^ 2 + q.y ^ 2 + q.z ^ 2 + q.w ^ 2

/-- The rotation matrix of `q` with scale `s` (`tf::Matrix3x3::setRotation` with `s = 2 / |q|²`,
    `Eigen::Quaterniond::toRotationMatrix` with `s = 2`). -/
def rotationOf (q : Quaternion) (s : ℝ) : Matrix3x3 :=
  let xs := q.x * s; let ys := q.y * s; let zs := q.z * s
  let wx := q.w * xs; let wy := q.w * ys; let wz := q.w * zs
  let xx := q.x * xs; let xy := q.x * ys; let xz := q.x * zs
  let yy := q.y * ys; let yz := q.y * zs; let zz := q.z * zs
  ⟨⟨1 - (yy + zz), xy - wz, xz + wy⟩, ⟨xy + wz, 1 - (xx + zz), yz - wx⟩,
    ⟨xz - wy, yz + wx, 1 - (xx + yy)⟩⟩

/-- `tf::Matrix3x3(q)`. -/
noncomputable def Matrix3x3.ofQuaternion (q : Quaternion) : Matrix3x3 := rotationOf q (2 / q.length2)

/-- `tf::getYaw(q)`: the yaw of `tf::Matrix3x3(q).getRPY`, for a nonzero `q` (`Tf.getYaw?` carries
    the NaN of the zero quaternion). -/
noncomputable def Tf.getYaw (q : Quaternion) : ℝ :=
  let m := Matrix3x3.ofQuaternion q
  if 1 ≤ |m.r2.x| then 0 else atan2 m.r1.x m.r0.x

/-- `tf::getYaw` of a `geometry_msgs::Quaternion` as the double it returns, `none` standing for
    NaN.  The zero quaternion has no rotation: `quaternionMsgToTF` normalises it by dividing by its
    length `0` and `setRotation` divides by its squared length, so every entry of the matrix and
    the yaw are NaN.  Every other quaternion reads `Tf.getYaw`, which the normalisation does not
    change. -/
noncomputable def Tf.getYaw? (q : Quaternion) : Option ℝ :=
  if q.length2 = 0 then none else some (Tf.getYaw q)

/-- `tf2::getYaw(q)` (`tf2::getEulerYPR` of `tf2/utils.h`). -/
noncomputable def Tf2.getYaw (q : Quaternion) : ℝ :=
  let sarg := -2 * (q.x * q.z - q.w * q.y) / q.length2
  if sarg ≤ -0.99999 then -2 * atan2 q.y q.x
  else if 0.99999 ≤ sarg then 2 * atan2 q.y q.x
  else atan2 (2 * (q.x * q.y + q.w * q.z)) (q.w ^ 2 + q.x ^ 2 - q.y ^ 2 - q.z ^ 2)

/-! ## The tf pair -/

/-- `tf::Transform`: `basis * p + origin`. -/
structure Transform where
  basis : Matrix3x3
  origin : Point

namespace Transform

/-- `tf::Transform::operator*(Vector3)`. -/
def apply (t : Transform) (p : Point) : Point := (t.basis.mulVec p).add t.origin

/-- `tf::Transform::inverse()`. -/
def inverse (t : Transform) : Transform :=
  ⟨t.basis.transpose, t.basis.transpose.mulVec t.origin.neg⟩

end Transform

/-- `tf::poseMsgToTF(pose, transform)`. -/
noncomputable def poseMsgToTF (pose : Pose) : Transform :=
  ⟨Matrix3x3.ofQuaternion pose.orientation, pose.position⟩

/-- `calcRelativeCoordinate(point_msg, current_pose)`: `point_msg` in the frame of `current_pose`. -/
noncomputable def calcRelativeCoordinate (point_msg : Point) (current_pose : Pose) : Point :=
  (poseMsgToTF current_pose).inverse.apply point_msg

/-- `calcAbsoluteCoordinate(point_msg, current_pose)`: `point_msg` of the frame of `current_pose`
    in the map frame. -/
noncomputable def calcAbsoluteCoordinate (point_msg : Point) (current_pose : Pose) : Point :=
  (poseMsgToTF current_pose).apply point_msg

/-! ## The Eigen pair -/

/-- `Eigen::Quaterniond::inverse()`: the conjugate divided by the squared norm. -/
noncomputable def Quaternion.eigenInverse (q : Quaternion) : Quaternion :=
  ⟨-q.x / q.length2, -q.y / q.length2, -q.z / q.length2, q.w / q.length2⟩

/-- `(Translation3d(t) * rot) * v`: rotate by `rot`, then translate by `t`. -/
def eigenAffine (t : Point) (rot : Quaternion) (v : Point) : Point :=
  ((rotationOf rot 2).mulVec v).add t

/-- `transformToAbsoluteCoordinate3D(point, origin)`: `trans * rot.inverse() * v`. -/
noncomputable def transformToAbsoluteCoordinate3D (point : Point) (origin : Pose) : Point :=
  eigenAffine origin.position origin.orientation.eigenInverse point

/-- `transformToRelativeCoordinate3D(point, origin)`: `trans(-origin) * rot * v`. -/
def transformToRelativeCoordinate3D (point : Point) (origin : Pose) : Point :=
  eigenAffine origin.position.neg origin.orientation point

/-! ## The tf pair is mutually inverse -/

namespace Point

theorem add_add_neg (a b : Point) : (a.add b).add b.neg = a := by
  simp only [add, neg, add_neg_cancel_right]

theorem add_neg_add (a b : Point) : (a.add b.neg).add b = a := by
  simp only [add, neg, neg_add_cancel_right]

end Point

namespace Matrix3x3

theorem mulVec_add (m : Matrix3x3) (a b : Point) : m.mulVec (a.add b) = (m.mulVec a).add (m.mulVec b) := by
  simp only [mulVec, Point.add, Point.dot, Point.mk.injEq]; refine ⟨?_, ?_, ?_⟩ <;> ring

theorem mulVec_neg (m : Matrix3x3) (a : Point) : m.mulVec a.neg = (m.mulVec a).neg := by
  simp only [mulVec, Point.neg, Point.dot, Point.mk.injEq]; refine ⟨?_, ?_, ?_⟩ <;> ring

end Matrix3x3

/-- `tf::Matrix3x3(q)` is orthogonal once `q` is nonzero: `mᵀ (m v) = v`. -/
theorem ofQuaternion_transpose_mulVec {q : Quaternion} (hq : q.length2 ≠ 0) (v : Point) :
    (Matrix3x3.ofQuaternion q).transpose.mulVec ((Matrix3x3.ofQuaternion q).mulVec v) = v := by
  obtain ⟨a, b, c⟩ := v
  simp only [Matrix3x3.ofQuaternion, rotationOf, Matrix3x3.mulVec, Matrix3x3.transpose, Point.dot,
    Point.mk.injEq]
  set σ := 2 / q.length2
  have hs : σ * (q.x ^ 2 + q.y ^ 2 + q.z ^ 2 + q.w ^ 2) = 2 := div_mul_cancel₀ 2 hq
  refine ⟨?_, ?_, ?_⟩
  · linear_combination (σ * (q.y ^ 2 + q.z ^ 2) * a - σ * q.x * q.y * b - σ * q.x * q.z * c) * hs
  · linear_combination (-σ * q.x * q.y * a + σ * (q.x ^ 2 + q.z ^ 2) * b - σ * q.y * q.z * c) * hs
  · linear_combination (-σ * q.x * q.z * a - σ * q.y * q.z * b + σ * (q.x ^ 2 + q.y ^ 2) * c) * hs

theorem Matrix3x3.transpose_transpose (m : Matrix3x3) : m.transpose.transpose = m := rfl

/-- The transpose of `tf::Matrix3x3(q)` is the matrix of the conjugate quaternion. -/
theorem ofQuaternion_transpose (q : Quaternion) :
    (Matrix3x3.ofQuaternion q).transpose = Matrix3x3.ofQuaternion ⟨-q.x, -q.y, -q.z, q.w⟩ := by
  simp only [Matrix3x3.ofQuaternion, rotationOf, Matrix3x3.transpose, Quaternion.length2, neg_sq,
    Matrix3x3.mk.injEq, Point.mk.injEq]
  refine ⟨⟨?_, ?_, ?_⟩, ⟨?_, ?_, ?_⟩, ⟨?_, ?_, ?_⟩⟩ <;> ring

/-- ... and `m (mᵀ v) = v`, the first law for the conjugate. -/
theorem ofQuaternion_mulVec_transpose {q : Quaternion} (hq : q.length2 ≠ 0) (v : Point) :
    (Matrix3x3.ofQuaternion q).mulVec ((Matrix3x3.ofQuaternion q).transpose.mulVec v) = v := by
  have hq' : Quaternion.length2 ⟨-q.x, -q.y, -q.z, q.w⟩ ≠ 0 := by
    simpa only [Quaternion.length2, neg_sq] using hq
  have h := ofQuaternion_transpose_mulVec hq' v
  rwa [← ofQuaternion_transpose q, Matrix3x3.transpose_transpose] at h

/-- The first column of `tf::Matrix3x3(q)` is a unit vector once `q` is nonzero. -/
theorem ofQuaternion_col0 {q : Quaternion} (hq : q.length2 ≠ 0) :
    (Matrix3x3.ofQuaternion q).r0.x ^ 2 + (Matrix3x3.ofQuaternion q).r1.x ^ 2 +
      (Matrix3x3.ofQuaternion q).r2.x ^ 2 = 1 := by
  have h := congrArg Point.x (ofQuaternion_transpose_mulVec hq ⟨1, 0, 0⟩)
  simp only [Matrix3x3.mulVec, Matrix3x3.transpose, Point.dot] at h
  linear_combination h

/-- **The tf pair is mutually inverse.**  For a pose whose orientation is a nonzero quaternion,
    `calcAbsoluteCoordinate` undoes `calcRelativeCoordinate` and the other way round. -/
theorem calcCoordinate_inverse (p : Point) (pose : Pose) (hq : pose.orientation.length2 ≠ 0) :
    calcRelativeCoordinate (calcAbsoluteCoordinate p pose) pose = p ∧
      calcAbsoluteCoordinate (calcRelativeCoordinate p pose) pose = p := by
  simp only [calcRelativeCoordinate, calcAbsoluteCoordinate, Transform.apply, Transform.inverse,
    poseMsgToTF, Matrix3x3.mulVec_add, Matrix3x3.mulVec_neg, ofQuaternion_transpose_mulVec hq,
    ofQuaternion_mulVec_transpose hq]
  exact ⟨Point.add_add_neg _ _, by rw [Point.add_neg_add]⟩

theorem movedPose_length2 : movedPose.orientation.length2 = 1 := by
  norm_num [movedPose, Quaternion.length2]

theorem movedPose_length2_ne_zero : movedPose.orientation.length2 ≠ 0 := by
  rw [movedPose_length2]; exact one_ne_zero

theorem movedPose_calcCoordinate_inverse :
    movedPose.orientation.length2 ≠ 0 ∧
      calcRelativeCoordinate (calcAbsoluteCoordinate ⟨3, -1, 2⟩ movedPose) movedPose = ⟨3, -1, 2⟩ ∧
        calcAbsoluteCoordinate (calcRelativeCoordinate ⟨3, -1, 2⟩ movedPose) movedPose =
          ⟨3, -1, 2⟩ :=
  ⟨movedPose_length2_ne_zero, calcCoordinate_inverse _ _ movedPose_length2_ne_zero⟩

/-- On a unit quaternion the inverse Eigen computes is the conjugate, whose rotation is the
    transpose. -/
theorem rotationOf_eigenInverse {q : Quaternion} (hq : q.length2 = 1) :
    rotationOf q.eigenInverse 2 = (Matrix3x3.ofQuaternion q).transpose := by
  simp only [rotationOf, Quaternion.eigenInverse, Matrix3x3.ofQuaternion, Matrix3x3.transpose, hq,
    div_one, Matrix3x3.mk.injEq, Point.mk.injEq]
  refine ⟨⟨?_, ?_, ?_⟩, ⟨?_, ?_, ?_⟩, ⟨?_, ?_, ?_⟩⟩ <;> ring

/-- **The Eigen pair composes to a shift.**  On a unit orientation with rotation `R` and origin
    `t`, `transformToRelativeCoordinate3D` after `transformToAbsoluteCoordinate3D` moves every
    point by `R t - t`: the pair is mutually inverse only when `R` fixes `t`. -/
theorem transformToCoordinate3D_compose (p : Point) (origin : Pose)
    (hq : origin.orientation.length2 = 1) :
    transformToRelativeCoordinate3D (transformToAbsoluteCoordinate3D p origin) origin =
      (p.add ((Matrix3x3.ofQuaternion origin.orientation).mulVec origin.position)).add
        origin.position.neg := by
  have hR : rotationOf origin.orientation 2 = Matrix3x3.ofQuaternion origin.orientation := by
    rw [Matrix3x3.ofQuaternion, hq, div_one]
  simp only [transformToRelativeCoordinate3D, transformToAbsoluteCoordinate3D, eigenAffine,
    rotationOf_eigenInverse hq, hR, Matrix3x3.mulVec_add,
    ofQuaternion_mulVec_transpose (hq ▸ one_ne_zero)]

theorem movedPose_transformToCoordinate3D_compose :
    movedPose.orientation.length2 = 1 ∧
      transformToRelativeCoordinate3D (transformToAbsoluteCoordinate3D ⟨3, -1, 2⟩ movedPose)
          movedPose =
        (Point.add ⟨3, -1, 2⟩ ((Matrix3x3.ofQuaternion movedPose.orientation).mulVec
          movedPose.position)).add movedPose.position.neg :=
  ⟨movedPose_length2, transformToCoordinate3D_compose _ _ movedPose_length2⟩

/-! ## The two pairs disagree -/

/-- The map origin turned about the vertical axis by the unit quaternion `(0, 0, 3/5, 4/5)`, the
    turn with `cos θ = 7/25` and `sin θ = 24/25`. -/
noncomputable def turnedPose : Pose := ⟨⟨0, 0, 0⟩, ⟨0, 0, 3 / 5, 4 / 5⟩⟩

/-- **The Eigen pair turns the other way.**  At `turnedPose`, the Eigen-based relative
    coordinate of `(1, 0, 0)` is the tf-based absolute one, and the Eigen-based absolute
    coordinate is the tf-based relative one: `transformToRelativeCoordinate3D` applies the
    rotation of the orientation where `calcRelativeCoordinate` applies its inverse. -/
theorem transformToCoordinate3D_turns_back :
    transformToRelativeCoordinate3D ⟨1, 0, 0⟩ turnedPose = ⟨7 / 25, 24 / 25, 0⟩ ∧
      calcRelativeCoordinate ⟨1, 0, 0⟩ turnedPose = ⟨7 / 25, -24 / 25, 0⟩ ∧
      transformToAbsoluteCoordinate3D ⟨1, 0, 0⟩ turnedPose = ⟨7 / 25, -24 / 25, 0⟩ ∧
      calcAbsoluteCoordinate ⟨1, 0, 0⟩ turnedPose = ⟨7 / 25, 24 / 25, 0⟩ := by
  norm_num [transformToRelativeCoordinate3D, calcRelativeCoordinate,
    transformToAbsoluteCoordinate3D, calcAbsoluteCoordinate, eigenAffine, rotationOf, poseMsgToTF,
    Transform.apply, Transform.inverse, Matrix3x3.ofQuaternion, Matrix3x3.mulVec,
    Matrix3x3.transpose, Quaternion.length2, Quaternion.eigenInverse, Point.add, Point.neg,
    Point.dot, turnedPose]

end WaypointFollower
