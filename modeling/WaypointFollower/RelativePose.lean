import WaypointFollower.RelativeAngle
/-
  `getRelativeTargetPose` (lines 170–181): the target pose in the frame of the current pose,
  `current_tf.inverse() * target_tf`, written back to a message by `tf::poseTFToMsg`.

  The library code it goes through is modelled by what it computes: the products of
  `tf::Matrix3x3` and `tf::Transform`, the Hamilton product of `tf::Quaternion`,
  `tf::Matrix3x3::getRotation` (the quaternion of a rotation matrix: from the trace when it is
  positive, otherwise from the largest diagonal entry) and `tf::quaternionTFToMsg` (which
  normalizes a quaternion whose squared norm is off `1` by more than `QUATERNION_TOLERANCE`).

  * `tf::Matrix3x3(q)` is a homogeneous quadratic form over `|q|²` (`ofQuaternion_eq_div`), so it
    turns the Hamilton product into the matrix product (`ofQuaternion_mul`) and ignores scale;
  * `getRotation` reads `q / |q|` back from `tf::Matrix3x3(q)` up to sign, in each of its four
    branches (`getRotation_ofQuaternion`);
  * so the relative pose is `calcRelativeCoordinate` of the target's position and the unit
    quaternion `±q_c* q_t / |q_c* q_t|` (`getRelativeTargetPose_orientation`), and composing the
    current pose with it gives the target back (`getRelativeTargetPose_compose`);
  * a pose message sent through tf and back keeps its position and comes back with its
    quaternion normalized, up to sign (`poseTFToMsg_poseMsgToTF`);
  * the heading angle of `getRelativeAngle` is the one the relative pose's rotation gives
    (`getRelativeAngle_eq_relativeTarget`), and on the plane the relative pose turns by the
    difference of the yaws (`getRelativeTargetPose_planar`);
  * a rigid motion of the map frame acts on orientations by the Hamilton product with a yaw
    quaternion, which cancels in `q_c* q_t`, and keeps `calcRelativeCoordinate`
    (`PlaneMotion.calcRelativeCoordinate_point`): the relative pose does not depend on the map
    frame (`PlaneMotion.getRelativeTargetPose_pose`).
-/

open Real

namespace WaypointFollower

/-! ## Quaternions and matrices -/

/-- `tf::Quaternion::operator*`, the Hamilton product. -/
def Quaternion.mul (q1 q2 : Quaternion) : Quaternion :=
  ⟨q1.w * q2.x + q1.x * q2.w + q1.y * q2.z - q1.z * q2.y,
    q1.w * q2.y + q1.y * q2.w + q1.z * q2.x - q1.x * q2.z,
    q1.w * q2.z + q1.z * q2.w + q1.x * q2.y - q1.y * q2.x,
    q1.w * q2.w - q1.x * q2.x - q1.y * q2.y - q1.z * q2.z⟩

/-- The conjugate `(-x, -y, -z, w)`. -/
def Quaternion.conj (q : Quaternion) : Quaternion := ⟨-q.x, -q.y, -q.z, q.w⟩

/-- A quaternion scaled by `c`. -/
def Quaternion.smul (c : ℝ) (q : Quaternion) : Quaternion := ⟨c * q.x, c * q.y, c * q.z, c * q.w⟩

/-- `tf::Matrix3x3::operator*`: entry `(i, j)` is row `i` of the first factor against column `j`
    of the second (`tdotx`, `tdoty`, `tdotz`). -/
def Matrix3x3.mul (m1 m2 : Matrix3x3) : Matrix3x3 :=
  let c := m2.transpose
  ⟨⟨m1.r0.dot c.r0, m1.r0.dot c.r1, m1.r0.dot c.r2⟩,
    ⟨m1.r1.dot c.r0, m1.r1.dot c.r1, m1.r1.dot c.r2⟩,
    ⟨m1.r2.dot c.r0, m1.r2.dot c.r1, m1.r2.dot c.r2⟩⟩

theorem Quaternion.length2_mul (p q : Quaternion) : (p.mul q).length2 = p.length2 * q.length2 := by
  simp only [Quaternion.mul, Quaternion.length2]; ring

/-- `tf::Matrix3x3(q)` is a homogeneous quadratic form in `q` over `|q|²`. -/
theorem ofQuaternion_eq_div {q : Quaternion} (hq : q.length2 ≠ 0) :
    Matrix3x3.ofQuaternion q =
      ⟨⟨(q.w ^ 2 + q.x ^ 2 - q.y ^ 2 - q.z ^ 2) / q.length2,
          2 * (q.x * q.y - q.w * q.z) / q.length2, 2 * (q.x * q.z + q.w * q.y) / q.length2⟩,
        ⟨2 * (q.x * q.y + q.w * q.z) / q.length2,
          (q.w ^ 2 - q.x ^ 2 + q.y ^ 2 - q.z ^ 2) / q.length2,
          2 * (q.y * q.z - q.w * q.x) / q.length2⟩,
        ⟨2 * (q.x * q.z - q.w * q.y) / q.length2, 2 * (q.y * q.z + q.w * q.x) / q.length2,
          (q.w ^ 2 - q.x ^ 2 - q.y ^ 2 + q.z ^ 2) / q.length2⟩⟩ := by
  have hL : q.length2 * q.length2⁻¹ = 1 := mul_inv_cancel₀ hq
  simp only [Matrix3x3.ofQuaternion, rotationOf, Quaternion.length2, Matrix3x3.mk.injEq,
    Point.mk.injEq] at hL ⊢
  refine ⟨⟨?_, ?_, ?_⟩, ⟨?_, ?_, ?_⟩, ⟨?_, ?_, ?_⟩⟩ <;> first | ring1 | linear_combination -hL

/-- The rotation of a product is the product of the rotations. -/
theorem ofQuaternion_mul {p q : Quaternion} (hp : p.length2 ≠ 0) (hq : q.length2 ≠ 0) :
    Matrix3x3.ofQuaternion (p.mul q) =
      (Matrix3x3.ofQuaternion p).mul (Matrix3x3.ofQuaternion q) := by
  have hpq : (p.mul q).length2 ≠ 0 := by rw [Quaternion.length2_mul]; exact mul_ne_zero hp hq
  rw [ofQuaternion_eq_div hpq, ofQuaternion_eq_div hp, ofQuaternion_eq_div hq,
    Quaternion.length2_mul]
  simp only [Matrix3x3.mul, Matrix3x3.transpose, Point.dot, div_mul_div_comm, div_add_div_same,
    Matrix3x3.mk.injEq, Point.mk.injEq]
  refine ⟨⟨?_, ?_, ?_⟩, ⟨?_, ?_, ?_⟩, ⟨?_, ?_, ?_⟩⟩ <;> congr 1 <;> simp only [Quaternion.mul] <;>
    ring

/-! ## The quaternion of a matrix -/

/-- `tf::Vector3::operator[]`. -/
def Point.get (p : Point) (i : Fin 3) : ℝ := ![p.x, p.y, p.z] i

/-- `m_el[i][j]`. -/
def Matrix3x3.el (m : Matrix3x3) (i j : Fin 3) : ℝ := (![m.r0, m.r1, m.r2] i).get j

/-- `tf::Matrix3x3::getRotation(q)`: the quaternion of a rotation matrix, from the trace when it
    is positive, otherwise from the largest diagonal entry `i` (`temp` holds `x, y, z, w`). -/
noncomputable def Matrix3x3.getRotation (m : Matrix3x3) : Quaternion :=
  let trace := m.r0.x + m.r1.y + m.r2.z
  if trace > 0 then
    let s := √(trace + 1)
    let temp3 := s * 0.5
    let s := 0.5 / s
    ⟨(m.r2.y - m.r1.z) * s, (m.r0.z - m.r2.x) * s, (m.r1.x - m.r0.y) * s, temp3⟩
  else
    let i : Fin 3 := if m.r0.x < m.r1.y then (if m.r1.y < m.r2.z then 2 else 1)
      else (if m.r0.x < m.r2.z then 2 else 0)
    let j := i + 1
    let k := i + 2
    let s := √(m.el i i - m.el j j - m.el k k + 1)
    let temp_i := s * 0.5
    let s := 0.5 / s
    let temp3 := (m.el k j - m.el j k) * s
    let temp_j := (m.el j i + m.el i j) * s
    let temp_k := (m.el k i + m.el i k) * s
    let temp : Fin 3 → ℝ := fun n => if n = i then temp_i else if n = j then temp_j else temp_k
    ⟨temp 0, temp 1, temp 2, temp3⟩

namespace Matrix3x3

variable (m : Matrix3x3)

/-! The four branches, with the indices `i, j, k` read off. -/

theorem getRotation_of_pos (h : m.r0.x + m.r1.y + m.r2.z > 0) :
    m.getRotation = let s := √(m.r0.x + m.r1.y + m.r2.z + 1)
      ⟨(m.r2.y - m.r1.z) * (0.5 / s), (m.r0.z - m.r2.x) * (0.5 / s),
        (m.r1.x - m.r0.y) * (0.5 / s), s * 0.5⟩ :=
  if_pos h

theorem getRotation_of_x (h : ¬m.r0.x + m.r1.y + m.r2.z > 0) (h1 : ¬m.r0.x < m.r1.y)
    (h2 : ¬m.r0.x < m.r2.z) :
    m.getRotation = let s := √(m.r0.x - m.r1.y - m.r2.z + 1)
      ⟨s * 0.5, (m.r1.x + m.r0.y) * (0.5 / s), (m.r2.x + m.r0.z) * (0.5 / s),
        (m.r2.y - m.r1.z) * (0.5 / s)⟩ := by
  simp only [getRotation, if_neg h, if_neg h1, if_neg h2]
  simp [el, Point.get]

theorem getRotation_of_y (h : ¬m.r0.x + m.r1.y + m.r2.z > 0) (h1 : m.r0.x < m.r1.y)
    (h2 : ¬m.r1.y < m.r2.z) :
    m.getRotation = let s := √(m.r1.y - m.r2.z - m.r0.x + 1)
      ⟨(m.r0.y + m.r1.x) * (0.5 / s), s * 0.5, (m.r2.y + m.r1.z) * (0.5 / s),
        (m.r0.z - m.r2.x) * (0.5 / s)⟩ := by
  simp only [getRotation, if_neg h, if_pos h1, if_neg h2]
  simp [el, Point.get]

theorem getRotation_of_z (h : ¬m.r0.x + m.r1.y + m.r2.z > 0)
    (hi : (m.r0.x < m.r1.y ∧ m.r1.y < m.r2.z) ∨ (¬m.r0.x < m.r1.y ∧ m.r0.x < m.r2.z)) :
    m.getRotation = let s := √(m.r2.z - m.r0.x - m.r1.y + 1)
      ⟨(m.r0.z + m.r2.x) * (0.5 / s), (m.r1.z + m.r2.y) * (0.5 / s), s * 0.5,
        (m.r1.x - m.r0.y) * (0.5 / s)⟩ := by
  rcases hi with ⟨h1, h2⟩ | ⟨h1, h2⟩ <;>
  · simp only [getRotation, if_neg h, h1, h2, if_true, if_false]
    simp [el, Point.get]

end Matrix3x3

/-- `tf::Matrix3x3(q)` of a unit quaternion. -/
theorem ofQuaternion_of_unit {q : Quaternion} (hq : q.length2 = 1) :
    Matrix3x3.ofQuaternion q =
      ⟨⟨q.w ^ 2 + q.x ^ 2 - q.y ^ 2 - q.z ^ 2, 2 * (q.x * q.y - q.w * q.z),
          2 * (q.x * q.z + q.w * q.y)⟩,
        ⟨2 * (q.x * q.y + q.w * q.z), q.w ^ 2 - q.x ^ 2 + q.y ^ 2 - q.z ^ 2,
          2 * (q.y * q.z - q.w * q.x)⟩,
        ⟨2 * (q.x * q.z - q.w * q.y), 2 * (q.y * q.z + q.w * q.x),
          q.w ^ 2 - q.x ^ 2 - q.y ^ 2 + q.z ^ 2⟩⟩ := by
  rw [ofQuaternion_eq_div (by rw [hq]; exact one_ne_zero), hq]
  simp only [div_one]

/-- A branch of `getRotation` whose radicand `a` is `4c²` scales by `ε = 2c / √a`, a sign. -/
theorem branch_sign {a c : ℝ} (ha : a = 4 * c ^ 2) (hpos : 0 < a) :
    2 * c / √a * (2 * c / √a) = 1 ∧ √a * 0.5 = 2 * c / √a * c := by
  have hr := sqrt_pos.mpr hpos
  have hr2 : √a ^ 2 = 4 * c ^ 2 := by rw [sq_sqrt hpos.le, ha]
  constructor
  · field_simp
    linear_combination -ha
  · field_simp
    linear_combination hr2 / 2

/-- **The quaternion round trip.**  `getRotation` reads a unit quaternion back from its matrix,
    up to sign, in each of its four branches. -/
theorem getRotation_ofQuaternion_of_unit {q : Quaternion} (hq : q.length2 = 1) :
    ∃ ε : ℝ, ε * ε = 1 ∧ (Matrix3x3.ofQuaternion q).getRotation = q.smul ε := by
  have hu := hq
  simp only [Quaternion.length2] at hu
  set m := Matrix3x3.ofQuaternion q
  have hm : m = _ := ofQuaternion_of_unit hq
  by_cases h : m.r0.x + m.r1.y + m.r2.z > 0
  · -- the trace branch: pivot `w`
    have ha : m.r0.x + m.r1.y + m.r2.z + 1 = 4 * q.w ^ 2 := by rw [hm]; linear_combination -hu
    obtain ⟨hε, hpiv⟩ := branch_sign ha (by linarith)
    refine ⟨_, hε, ?_⟩
    rw [m.getRotation_of_pos h]
    simp only [Quaternion.smul, Quaternion.mk.injEq]
    refine ⟨?_, ?_, ?_, hpiv⟩ <;> rw [hm] <;> ring
  by_cases hz : (m.r0.x < m.r1.y ∧ m.r1.y < m.r2.z) ∨ (¬m.r0.x < m.r1.y ∧ m.r0.x < m.r2.z)
  · -- pivot `z`
    have ha : m.r2.z - m.r0.x - m.r1.y + 1 = 4 * q.z ^ 2 := by rw [hm]; linear_combination -hu
    obtain ⟨hε, hpiv⟩ := branch_sign ha (by rcases hz with ⟨h1, h2⟩ | ⟨h1, h2⟩ <;> linarith)
    refine ⟨_, hε, ?_⟩
    rw [m.getRotation_of_z h hz]
    simp only [Quaternion.smul, Quaternion.mk.injEq]
    refine ⟨?_, ?_, hpiv, ?_⟩ <;> rw [hm] <;> ring
  by_cases h1 : m.r0.x < m.r1.y
  · -- pivot `y`
    have h2 : ¬m.r1.y < m.r2.z := fun h2 => hz (.inl ⟨h1, h2⟩)
    have ha : m.r1.y - m.r2.z - m.r0.x + 1 = 4 * q.y ^ 2 := by rw [hm]; linear_combination -hu
    obtain ⟨hε, hpiv⟩ := branch_sign ha (by linarith)
    refine ⟨_, hε, ?_⟩
    rw [m.getRotation_of_y h h1 h2]
    simp only [Quaternion.smul, Quaternion.mk.injEq]
    refine ⟨?_, hpiv, ?_, ?_⟩ <;> rw [hm] <;> ring
  · -- pivot `x`
    have h2 : ¬m.r0.x < m.r2.z := fun h2 => hz (.inr ⟨h1, h2⟩)
    have ha : m.r0.x - m.r1.y - m.r2.z + 1 = 4 * q.x ^ 2 := by rw [hm]; linear_combination -hu
    obtain ⟨hε, hpiv⟩ := branch_sign ha (by linarith)
    refine ⟨_, hε, ?_⟩
    rw [m.getRotation_of_x h h1 h2]
    simp only [Quaternion.smul, Quaternion.mk.injEq]
    refine ⟨hpiv, ?_, ?_, ?_⟩ <;> rw [hm] <;> ring

/-! ## Scale and the Hamilton product -/

theorem Quaternion.length2_conj (q : Quaternion) : q.conj.length2 = q.length2 := by
  simp only [Quaternion.conj, Quaternion.length2, neg_sq]

/-- The matrix of the conjugate is the transpose. -/
theorem ofQuaternion_conj (q : Quaternion) :
    Matrix3x3.ofQuaternion q.conj = (Matrix3x3.ofQuaternion q).transpose :=
  (ofQuaternion_transpose q).symm

theorem Quaternion.length2_conj_mul_ne_zero {p q : Quaternion} (hp : p.length2 ≠ 0)
    (hq : q.length2 ≠ 0) : (p.conj.mul q).length2 ≠ 0 := by
  rw [Quaternion.length2_mul, Quaternion.length2_conj]; exact mul_ne_zero hp hq

theorem Quaternion.length2_smul (c : ℝ) (q : Quaternion) :
    (q.smul c).length2 = c ^ 2 * q.length2 := by
  simp only [Quaternion.smul, Quaternion.length2]; ring

theorem Quaternion.mul_assoc (p q r : Quaternion) : (p.mul q).mul r = p.mul (q.mul r) := by
  simp only [Quaternion.mul, Quaternion.mk.injEq]; refine ⟨?_, ?_, ?_, ?_⟩ <;> ring

theorem Quaternion.mul_conj (q : Quaternion) : q.mul q.conj = ⟨0, 0, 0, q.length2⟩ := by
  simp only [Quaternion.mul, Quaternion.conj, Quaternion.length2, Quaternion.mk.injEq]
  refine ⟨?_, ?_, ?_, ?_⟩ <;> ring

theorem Quaternion.conj_mul (p q : Quaternion) : (p.mul q).conj = q.conj.mul p.conj := by
  simp only [Quaternion.mul, Quaternion.conj, Quaternion.mk.injEq]
  refine ⟨?_, ?_, ?_, ?_⟩ <;> ring

theorem Quaternion.conj_mul_self (q : Quaternion) : q.conj.mul q = ⟨0, 0, 0, q.length2⟩ := by
  simp only [Quaternion.mul, Quaternion.conj, Quaternion.length2, Quaternion.mk.injEq]
  refine ⟨?_, ?_, ?_, ?_⟩ <;> ring

theorem Quaternion.one_mul (q : Quaternion) : (⟨0, 0, 0, 1⟩ : Quaternion).mul q = q := by
  simp only [Quaternion.mul]
  congr 1 <;> ring

theorem Quaternion.real_mul (c : ℝ) (q : Quaternion) :
    (⟨0, 0, 0, c⟩ : Quaternion).mul q = q.smul c := by
  simp only [Quaternion.mul, Quaternion.smul, Quaternion.mk.injEq]; refine ⟨?_, ?_, ?_, ?_⟩ <;> ring

theorem Quaternion.length2_pos {q : Quaternion} (hq : q.length2 ≠ 0) : 0 < q.length2 :=
  lt_of_le_of_ne (by simp only [Quaternion.length2]; positivity) (Ne.symm hq)

/-- `tf::Matrix3x3(q)` does not see the scale of `q`. -/
theorem ofQuaternion_smul {c : ℝ} (hc : c ≠ 0) {q : Quaternion} (hq : q.length2 ≠ 0) :
    Matrix3x3.ofQuaternion (q.smul c) = Matrix3x3.ofQuaternion q := by
  have hcq : c ^ 2 * q.length2 ≠ 0 := mul_ne_zero (pow_ne_zero 2 hc) hq
  rw [ofQuaternion_eq_div (by rwa [Quaternion.length2_smul]), ofQuaternion_eq_div hq,
    Quaternion.length2_smul]
  simp only [Quaternion.smul, Matrix3x3.mk.injEq, Point.mk.injEq]
  refine ⟨⟨?_, ?_, ?_⟩, ⟨?_, ?_, ?_⟩, ⟨?_, ?_, ?_⟩⟩ <;> rw [div_eq_div_iff hcq hq] <;> ring

/-- **The quaternion round trip.**  `getRotation` reads `q / |q|` back from `tf::Matrix3x3(q)`,
    up to sign. -/
theorem getRotation_ofQuaternion {q : Quaternion} (hq : q.length2 ≠ 0) :
    ∃ ε : ℝ, ε * ε = 1 ∧
      (Matrix3x3.ofQuaternion q).getRotation = q.smul (ε / √q.length2) := by
  have hL := Quaternion.length2_pos hq
  have hs : √q.length2 ≠ 0 := (sqrt_pos.mpr hL).ne'
  have hu : (q.smul (1 / √q.length2)).length2 = 1 := by
    rw [Quaternion.length2_smul, div_pow, sq_sqrt hL.le]; field_simp
  obtain ⟨ε, hε, h⟩ := getRotation_ofQuaternion_of_unit hu
  refine ⟨ε, hε, ?_⟩
  rw [← ofQuaternion_smul (one_div_ne_zero hs) hq, h]
  simp only [Quaternion.smul, Quaternion.mk.injEq]
  refine ⟨?_, ?_, ?_, ?_⟩ <;> ring

/-! ## Back to a message -/

/-- `QUATERNION_TOLERANCE` of `tf/transform_datatypes.h`: the float `0.1f`. -/
noncomputable def quaternionTolerance : ℝ := 13421773 / 134217728

/-- `tf::Quaternion::normalize()`: `*this /= length()`. -/
noncomputable def Quaternion.normalize (q : Quaternion) : Quaternion := q.smul (1 / √q.length2)

/-- `tf::quaternionTFToMsg(bt, msg)`: a quaternion whose squared norm is off `1` by more than
    `QUATERNION_TOLERANCE` is normalized first. -/
noncomputable def quaternionTFToMsg (bt : Quaternion) : Quaternion :=
  if |bt.length2 - 1| > quaternionTolerance then bt.normalize else bt

/-- `tf::poseTFToMsg(bt, msg)`: the origin, and `quaternionTFToMsg(bt.getRotation())`. -/
noncomputable def poseTFToMsg (bt : Transform) : Pose :=
  ⟨bt.origin, quaternionTFToMsg bt.basis.getRotation⟩

/-- `tf::Transform::operator*`: `(B₁ B₂, t₁(o₂))`. -/
def Transform.mul (t1 t2 : Transform) : Transform := ⟨t1.basis.mul t2.basis, t1.apply t2.origin⟩

/-- `getRelativeTargetPose(current_pose, target_pose)`. -/
noncomputable def getRelativeTargetPose (current_pose target_pose : Pose) : Pose :=
  let current_tf := poseMsgToTF current_pose
  let target_tf := poseMsgToTF target_pose
  let relative_tf := current_tf.inverse.mul target_tf
  poseTFToMsg relative_tf

theorem quaternionTFToMsg_of_unit {q : Quaternion} (h : q.length2 = 1) : quaternionTFToMsg q = q :=
  if_neg (by rw [h, sub_self, abs_zero]; norm_num [quaternionTolerance])

/-- A nonzero `q` scaled by `±1 / |q|` is a unit quaternion. -/
theorem length2_smul_sign {q : Quaternion} (hq : q.length2 ≠ 0) {ε : ℝ} (hε : ε * ε = 1) :
    (q.smul (ε / √q.length2)).length2 = 1 := by
  have hL := Quaternion.length2_pos hq
  rw [Quaternion.length2_smul, div_pow, sq_sqrt hL.le, sq, hε]
  field_simp

/-- A pose message converted to a `tf::Pose` and back keeps its position and returns its
    quaternion normalized, up to sign. -/
theorem poseTFToMsg_poseMsgToTF (pose : Pose) (hq : pose.orientation.length2 ≠ 0) :
    ∃ ε : ℝ, ε * ε = 1 ∧ poseTFToMsg (poseMsgToTF pose) =
      ⟨pose.position, pose.orientation.smul (ε / √pose.orientation.length2)⟩ := by
  obtain ⟨ε, hε, h⟩ := getRotation_ofQuaternion hq
  refine ⟨ε, hε, ?_⟩
  simp only [poseTFToMsg, poseMsgToTF, h, quaternionTFToMsg_of_unit (length2_smul_sign hq hε)]

/-! ## The relative pose -/

theorem getRelativeTargetPose_position (current_pose target_pose : Pose) :
    (getRelativeTargetPose current_pose target_pose).position =
      calcRelativeCoordinate target_pose.position current_pose :=
  rfl

/-- The relative pose is the message of the transform with rotation `R(q_c* q_t) = R_cᵀ R_t` and
    origin `calcRelativeCoordinate` of the target's position. -/
theorem getRelativeTargetPose_eq {current_pose target_pose : Pose}
    (hc : current_pose.orientation.length2 ≠ 0) (ht : target_pose.orientation.length2 ≠ 0) :
    getRelativeTargetPose current_pose target_pose =
      poseTFToMsg
        ⟨Matrix3x3.ofQuaternion (current_pose.orientation.conj.mul target_pose.orientation),
          calcRelativeCoordinate target_pose.position current_pose⟩ := by
  rw [ofQuaternion_mul (by rwa [Quaternion.length2_conj]) ht, ofQuaternion_conj]
  rfl

/-- A point is at the origin of its own frame. -/
theorem calcRelativeCoordinate_self (pose : Pose) :
    calcRelativeCoordinate pose.position pose = ⟨0, 0, 0⟩ := by
  simp only [calcRelativeCoordinate, Transform.inverse, Transform.apply, ← Matrix3x3.mulVec_add]
  simp [poseMsgToTF, Matrix3x3.mulVec, Point.add, Point.neg, Point.dot]

/-- A rotation about no axis, `(0, 0, 0, w)`, has the identity matrix. -/
theorem ofQuaternion_real (w : ℝ) :
    Matrix3x3.ofQuaternion ⟨0, 0, 0, w⟩ = ⟨⟨1, 0, 0⟩, ⟨0, 1, 0⟩, ⟨0, 0, 1⟩⟩ := by
  simp [Matrix3x3.ofQuaternion, rotationOf]

/-- `getRotation` of the identity matrix is the identity quaternion. -/
theorem getRotation_one :
    Matrix3x3.getRotation ⟨⟨1, 0, 0⟩, ⟨0, 1, 0⟩, ⟨0, 0, 1⟩⟩ = ⟨0, 0, 0, 1⟩ := by
  rw [Matrix3x3.getRotation_of_pos _ (by norm_num)]
  have h : √((1 : ℝ) + 1 + 1 + 1) = 2 := by
    rw [show (1 : ℝ) + 1 + 1 + 1 = 2 ^ 2 by norm_num, sqrt_sq (by norm_num)]
  simp only [h]
  norm_num

/-- **The identity laws of the relative pose.**  A pose relative to itself is the identity pose
    `originPose`, and a pose relative to `originPose` is the pose itself, its quaternion normalized
    up to sign. -/
theorem getRelativeTargetPose_self (pose : Pose) (hq : pose.orientation.length2 ≠ 0) :
    getRelativeTargetPose pose pose = originPose ∧
      ∃ ε : ℝ, ε * ε = 1 ∧ getRelativeTargetPose originPose pose =
        ⟨pose.position, pose.orientation.smul (ε / √pose.orientation.length2)⟩ := by
  constructor
  · -- `R_cᵀ R_c = 1`, and a point is at `0` in its own frame
    rw [getRelativeTargetPose_eq hq hq, Quaternion.conj_mul_self, ofQuaternion_real,
      calcRelativeCoordinate_self]
    simp only [poseTFToMsg, getRotation_one, quaternionTFToMsg_of_unit
      (by norm_num [Quaternion.length2] : (⟨0, 0, 0, 1⟩ : Quaternion).length2 = 1), originPose]
  · -- from the origin the relative transform is the pose's own
    have hconj : originPose.orientation.conj.mul pose.orientation = pose.orientation := by
      simp only [originPose, Quaternion.conj, neg_zero, Quaternion.one_mul]
    have hrel : calcRelativeCoordinate pose.position originPose = pose.position := by
      simp [calcRelativeCoordinate, Transform.inverse, Transform.apply, poseMsgToTF, originPose,
        ofQuaternion_real, Matrix3x3.transpose, Matrix3x3.mulVec, Point.add, Point.neg, Point.dot]
    rw [getRelativeTargetPose_eq (by norm_num [originPose, Quaternion.length2]) hq, hconj, hrel]
    exact poseTFToMsg_poseMsgToTF pose hq

theorem movedPose_getRelativeTargetPose_self :
    movedPose.orientation.length2 ≠ 0 ∧
      getRelativeTargetPose movedPose movedPose = originPose ∧
        ∃ ε : ℝ, ε * ε = 1 ∧ getRelativeTargetPose originPose movedPose =
          ⟨movedPose.position, movedPose.orientation.smul (ε / √movedPose.orientation.length2)⟩ :=
  ⟨movedPose_length2_ne_zero, getRelativeTargetPose_self movedPose movedPose_length2_ne_zero⟩

/-- The relative orientation is the unit quaternion `±q_c* q_t / |q_c* q_t|`. -/
theorem getRelativeTargetPose_orientation {current_pose target_pose : Pose}
    (hc : current_pose.orientation.length2 ≠ 0) (ht : target_pose.orientation.length2 ≠ 0) :
    ∃ ε : ℝ, ε * ε = 1 ∧ (getRelativeTargetPose current_pose target_pose).orientation =
      (current_pose.orientation.conj.mul target_pose.orientation).smul
        (ε / √(current_pose.orientation.conj.mul target_pose.orientation).length2) := by
  have hp := Quaternion.length2_conj_mul_ne_zero hc ht
  obtain ⟨ε, hε, h⟩ := getRotation_ofQuaternion hp
  refine ⟨ε, hε, ?_⟩
  rw [getRelativeTargetPose_eq hc ht]
  simp only [poseTFToMsg, h, quaternionTFToMsg_of_unit (length2_smul_sign hp hε)]

/-- The scale `±1 / |q|` of the round trip is not zero. -/
theorem sign_div_sqrt_ne_zero {q : Quaternion} (hq : q.length2 ≠ 0) {ε : ℝ} (hε : ε * ε = 1) :
    ε / √q.length2 ≠ 0 :=
  div_ne_zero (left_ne_zero_of_mul_eq_one hε) (sqrt_pos.mpr (Quaternion.length2_pos hq)).ne'

/-- **Relative, then absolute, is the target.**  The current pose composed with the relative pose
    that `getRelativeTargetPose` returns is the target pose, as a `tf::Transform`. -/
theorem getRelativeTargetPose_compose (current_pose target_pose : Pose)
    (hc : current_pose.orientation.length2 ≠ 0) (ht : target_pose.orientation.length2 ≠ 0) :
    (poseMsgToTF current_pose).mul (poseMsgToTF (getRelativeTargetPose current_pose target_pose)) =
      poseMsgToTF target_pose := by
  have hp := Quaternion.length2_conj_mul_ne_zero hc ht
  obtain ⟨ε, hε, h⟩ := getRelativeTargetPose_orientation hc ht
  simp only [Transform.mul, poseMsgToTF, h, Transform.mk.injEq]
  constructor
  · -- `R_c (R_cᵀ R_t) = R_t`
    rw [ofQuaternion_smul (sign_div_sqrt_ne_zero hp hε) hp, ← ofQuaternion_mul hc hp,
      ← Quaternion.mul_assoc, Quaternion.mul_conj, Quaternion.real_mul, ofQuaternion_smul hc ht]
  · -- `R_c (R_cᵀ (t - c)) + c = t`
    rw [getRelativeTargetPose_position]
    simp only [calcRelativeCoordinate, Transform.apply, Transform.inverse, poseMsgToTF,
      Matrix3x3.mulVec_add, ofQuaternion_mulVec_transpose hc, Point.add_neg_add]

theorem movedPose_getRelativeTargetPose_compose :
    (movedPose.orientation.length2 ≠ 0 ∧ leftPose.orientation.length2 ≠ 0) ∧
      (poseMsgToTF movedPose).mul (poseMsgToTF (getRelativeTargetPose movedPose leftPose)) =
        poseMsgToTF leftPose :=
  ⟨⟨movedPose_length2_ne_zero, leftPose_length2_ne_zero⟩,
    getRelativeTargetPose_compose movedPose leftPose movedPose_length2_ne_zero
      leftPose_length2_ne_zero⟩

/-- **Two ways to the heading angle agree.**  `getRelativeAngle` is the arccosine, in degrees, of
    the first diagonal entry of the rotation of `getRelativeTargetPose(vehicle, waypoint)`. -/
theorem getRelativeAngle_eq_relativeTarget (waypoint_pose vehicle_pose : Pose)
    (hw : waypoint_pose.orientation.length2 ≠ 0) (hv : vehicle_pose.orientation.length2 ≠ 0) :
    getRelativeAngle waypoint_pose vehicle_pose =
      arccos (Matrix3x3.ofQuaternion
        (getRelativeTargetPose vehicle_pose waypoint_pose).orientation).r0.x * 180 / π := by
  have hp := Quaternion.length2_conj_mul_ne_zero hv hw
  obtain ⟨ε, hε, h⟩ := getRelativeTargetPose_orientation hv hw
  rw [h, ofQuaternion_smul (sign_div_sqrt_ne_zero hp hε) hp,
    ofQuaternion_mul (by rwa [Quaternion.length2_conj]) hw, ofQuaternion_conj,
    getRelativeAngle_eq_arccos _ _ hw hv]
  rfl

theorem leftPose_getRelativeAngle_eq_relativeTarget :
    (leftPose.orientation.length2 ≠ 0 ∧ movedPose.orientation.length2 ≠ 0) ∧
      getRelativeAngle leftPose movedPose =
        arccos (Matrix3x3.ofQuaternion
          (getRelativeTargetPose movedPose leftPose).orientation).r0.x * 180 / π :=
  ⟨⟨leftPose_length2_ne_zero, movedPose_length2_ne_zero⟩,
    getRelativeAngle_eq_relativeTarget leftPose movedPose leftPose_length2_ne_zero
      movedPose_length2_ne_zero⟩

/-! ## On the plane -/

/-- A sign does not change the yaw tf2 reads from a pure yaw quaternion. -/
theorem Tf2.getYaw_smul_sign {q : Quaternion} (hx : q.x = 0) (hy : q.y = 0) {ε : ℝ}
    (hε : ε * ε = 1) : Tf2.getYaw (q.smul ε) = Tf2.getYaw q := by
  rw [Tf2.getYaw_of_pure (by simp [Quaternion.smul, hx]) (by simp [Quaternion.smul, hy]),
    Tf2.getYaw_of_pure hx hy]
  simp only [Quaternion.smul]
  congr 1
  · linear_combination 2 * q.z * q.w * hε
  · linear_combination (q.w ^ 2 - q.z ^ 2) * hε

/-- The relative quaternion of two yaws is the yaw of their difference. -/
theorem conj_mul_getQuaternionFromYaw (psi_c psi_t : ℝ) :
    (getQuaternionFromYaw psi_c).conj.mul (getQuaternionFromYaw psi_t) =
      getQuaternionFromYaw (psi_t - psi_c) := by
  simp only [getQuaternionFromYaw_eq, Quaternion.conj, Quaternion.mul, Quaternion.mk.injEq,
    sub_div, sin_sub, cos_sub]
  refine ⟨by ring, by ring, by ring, by ring⟩

/-- **The relative pose on the plane.**  For poses of pure yaw `ψ_c` and `ψ_t`, the relative
    orientation is the yaw `ψ_t - ψ_c`, up to the sign of the quaternion, and tf2 reads that
    yaw back from it. -/
theorem getRelativeTargetPose_planar (current_pose target_pose : Pose) (psi_c psi_t : ℝ)
    (hc : current_pose.orientation = getQuaternionFromYaw psi_c)
    (ht : target_pose.orientation = getQuaternionFromYaw psi_t) :
    (∃ ε : ℝ, ε * ε = 1 ∧ (getRelativeTargetPose current_pose target_pose).orientation =
        (getQuaternionFromYaw (psi_t - psi_c)).smul ε) ∧
      (Tf2.getYaw (getRelativeTargetPose current_pose target_pose).orientation : Angle) =
        ↑(psi_t - psi_c) := by
  have hc' : current_pose.orientation.length2 ≠ 0 := by
    rw [hc, length2_getQuaternionFromYaw]; exact one_ne_zero
  have ht' : target_pose.orientation.length2 ≠ 0 := by
    rw [ht, length2_getQuaternionFromYaw]; exact one_ne_zero
  obtain ⟨ε, hε, h⟩ := getRelativeTargetPose_orientation hc' ht'
  rw [hc, ht, conj_mul_getQuaternionFromYaw, length2_getQuaternionFromYaw, sqrt_one, div_one] at h
  refine ⟨⟨ε, hε, h⟩, ?_⟩
  rw [h, Tf2.getYaw_smul_sign (by simp) (by simp) hε, getYaw_getQuaternionFromYaw]

theorem originPose_getRelativeTargetPose_planar :
    (originPose.orientation = getQuaternionFromYaw 0 ∧
        (⟨⟨1, 2, 0⟩, getQuaternionFromYaw (π / 2)⟩ : Pose).orientation =
          getQuaternionFromYaw (π / 2)) ∧
      (∃ ε : ℝ, ε * ε = 1 ∧
          (getRelativeTargetPose originPose ⟨⟨1, 2, 0⟩, getQuaternionFromYaw (π / 2)⟩).orientation =
            (getQuaternionFromYaw (π / 2 - 0)).smul ε) ∧
        (Tf2.getYaw (getRelativeTargetPose originPose
            ⟨⟨1, 2, 0⟩, getQuaternionFromYaw (π / 2)⟩).orientation : Angle) = ↑(π / 2 - 0) := by
  have ho : originPose.orientation = getQuaternionFromYaw 0 := by simp [originPose]
  exact ⟨⟨ho, rfl⟩, getRelativeTargetPose_planar _ _ 0 (π / 2) ho rfl⟩

/-! ## In a moved map frame -/

/-- `(A B)ᵀ v = Bᵀ (Aᵀ v)`. -/
theorem Matrix3x3.transpose_mul_mulVec (a b : Matrix3x3) (v : Point) :
    (a.mul b).transpose.mulVec v = b.transpose.mulVec (a.transpose.mulVec v) := by
  simp only [Matrix3x3.mul, Matrix3x3.transpose, Matrix3x3.mulVec, Point.dot, Point.mk.injEq]
  refine ⟨?_, ?_, ?_⟩ <;> ring

/-- `calcRelativeCoordinate` turns the offset from the pose back by the pose's rotation. -/
theorem calcRelativeCoordinate_eq_mulVec (p : Point) (pose : Pose) :
    calcRelativeCoordinate p pose =
      (Matrix3x3.ofQuaternion pose.orientation).transpose.mulVec (p.add pose.position.neg) := by
  rw [Matrix3x3.mulVec_add]
  rfl

namespace PlaneMotion

variable (g : PlaneMotion)

/-- A motion acts on orientations by the Hamilton product with the yaw quaternion of `θ`. -/
theorem quaternion_eq_mul (q : Quaternion) : g.quaternion q = (getQuaternionFromYaw g.θ).mul q := by
  simp only [quaternion, getQuaternionFromYaw_eq, Quaternion.mul, Quaternion.mk.injEq]
  refine ⟨?_, ?_, ?_, ?_⟩ <;> ring

/-- The relative quaternion `q_c* q_t` of two moved orientations is the one of the orientations. -/
theorem conj_mul_quaternion (p q : Quaternion) :
    (g.quaternion p).conj.mul (g.quaternion q) = p.conj.mul q := by
  rw [g.quaternion_eq_mul, g.quaternion_eq_mul, Quaternion.conj_mul, Quaternion.mul_assoc,
    ← Quaternion.mul_assoc _ _ q, Quaternion.conj_mul_self, length2_getQuaternionFromYaw,
    Quaternion.one_mul]

/-- The offset between two moved points is the offset turned by the yaw matrix of `θ`. -/
theorem point_sub (p c : Point) :
    (g.point p).add (g.point c).neg =
      (Matrix3x3.ofQuaternion (getQuaternionFromYaw g.θ)).mulVec (p.add c.neg) := by
  simp only [point, ofQuaternion_getQuaternionFromYaw, Point.add, Point.neg, Matrix3x3.mulVec,
    Point.dot, Point.mk.injEq]
  refine ⟨?_, ?_, ?_⟩ <;> ring

/-- A motion keeps the coordinates of a point in the frame of a pose with a nonzero quaternion. -/
theorem calcRelativeCoordinate_point (p : Point) {pose : Pose}
    (hq : pose.orientation.length2 ≠ 0) :
    calcRelativeCoordinate (g.point p) (g.pose pose) = calcRelativeCoordinate p pose := by
  have hz : (getQuaternionFromYaw g.θ).length2 ≠ 0 := by
    rw [length2_getQuaternionFromYaw]; exact one_ne_zero
  set Rz := Matrix3x3.ofQuaternion (getQuaternionFromYaw g.θ)
  calc calcRelativeCoordinate (g.point p) (g.pose pose)
      = (Rz.mul (Matrix3x3.ofQuaternion pose.orientation)).transpose.mulVec
          (Rz.mulVec (p.add pose.position.neg)) := by
        rw [calcRelativeCoordinate_eq_mulVec, ← point_sub, ← ofQuaternion_mul hz hq,
          ← quaternion_eq_mul]
        rfl
    _ = calcRelativeCoordinate p pose := by
        rw [Matrix3x3.transpose_mul_mulVec, ofQuaternion_transpose_mulVec hz,
          calcRelativeCoordinate_eq_mulVec]

/-- **The relative pose does not depend on the map frame.**  Moving the current and the target
    pose by one rigid motion of the map frame leaves `getRelativeTargetPose` unchanged. -/
theorem getRelativeTargetPose_pose (current_pose target_pose : Pose)
    (hc : current_pose.orientation.length2 ≠ 0) (ht : target_pose.orientation.length2 ≠ 0) :
    getRelativeTargetPose (g.pose current_pose) (g.pose target_pose) =
      getRelativeTargetPose current_pose target_pose := by
  have hc' : (g.pose current_pose).orientation.length2 ≠ 0 := by
    rwa [PlaneMotion.pose, g.length2_quaternion]
  have ht' : (g.pose target_pose).orientation.length2 ≠ 0 := by
    rwa [PlaneMotion.pose, g.length2_quaternion]
  rw [getRelativeTargetPose_eq hc' ht', getRelativeTargetPose_eq hc ht]
  congr 2
  · exact congrArg Matrix3x3.ofQuaternion (g.conj_mul_quaternion _ _)
  · exact g.calcRelativeCoordinate_point _ hc

end PlaneMotion

theorem movedPose_getRelativeTargetPose_pose :
    (movedPose.orientation.length2 ≠ 0 ∧ leftPose.orientation.length2 ≠ 0) ∧
      getRelativeTargetPose (quarterTurn.pose movedPose) (quarterTurn.pose leftPose) =
        getRelativeTargetPose movedPose leftPose :=
  ⟨⟨movedPose_length2_ne_zero, leftPose_length2_ne_zero⟩,
    PlaneMotion.getRelativeTargetPose_pose _ movedPose leftPose movedPose_length2_ne_zero
      leftPose_length2_ne_zero⟩

end WaypointFollower
