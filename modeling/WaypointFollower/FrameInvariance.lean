import WaypointFollower.Motion
import WaypointFollower.Tracker.Contract
/-
  Frame independence of `updateCurrentIndex`: moving the path and the vehicle by one rigid motion
  of the map frame (`PlaneMotion`) does not change the index it resolves, under conditions on
  the cold start.

  * The warm tracker reads only planar distances and speeds, which a motion keeps, so from every
    index `k ≥ 0` the result is unchanged (`updateCurrentIndex_move_warm`).
  * The cold-start locator also reads headings: the bearing of each segment and the vehicle's
    yaw.  Both turn by `θ` modulo `2π` when every segment has nonzero length and the vehicle's
    orientation is off the pitch singularity (`yawAt_lane`, `getYaw_quaternion`), and the
    heading gate `|normalizeAngle(yaw_wp - yaw_vehicle)| < π / 2` reads only their difference
    modulo `2π` (`headingOk_lane`).  The zero quaternion needs no condition: its yaw is NaN in
    every frame, so every heading gate fails in both.
    `updateCurrentIndex_frame_invariant` collects both.
  * Without these conditions the index can change (`halfTurn_moves_cold_start`).  On `stopLane`,
    whose first segment has length zero, a half turn of the frame moves the cold-start index from
    `0` to `1`: the zero segment keeps the bearing `atan2(0, 0) = 0` while the vehicle's yaw turns
    by `π`.  On `uTurnLane`, for a vehicle pitched by `90°` (`pitchedPose`), it moves from `1` to
    `0`: `tf::getYaw` reads `0` at the singularity in every frame while the bearings turn by `π`.
-/

open Real

namespace WaypointFollower

/-- Consecutive waypoints are apart in the plane, so every segment of the path has a bearing. -/
def Lane.segmentsApart (l : Lane) : Prop :=
  ∀ i, i + 1 < l.waypoints.length →
    (l.wp i).pose.position.x ≠ (l.wp (i + 1)).pose.position.x ∨
      (l.wp i).pose.position.y ≠ (l.wp (i + 1)).pose.position.y

/-- The heading of waypoint `i` in closed form, on a path of at least two waypoints. -/
theorem Lane.yawAt_eq (l : Lane) (hn : 2 ≤ l.waypoints.length) {i : ℕ}
    (hi : i < l.waypoints.length) :
    l.yawAt i = if 0 < i ∧ i + 1 < l.waypoints.length then
        bisectYaw (segmentYaw (l.wp (i - 1)) (l.wp i)) (segmentYaw (l.wp i) (l.wp (i + 1)))
      else if 0 < i then segmentYaw (l.wp (i - 1)) (l.wp i)
      else segmentYaw (l.wp i) (l.wp (i + 1)) := by
  rw [Lane.yawAt, getWaypointYaw_eq l i hn hi]; rfl

/-- When both bearings turn by `θ`, so does the interior heading, modulo `2π`. -/
theorem bisectYaw_turn {b f b' f' θ : ℝ} (hb : (b' : Angle) = b + θ) (hf : (f' : Angle) = f + θ) :
    (bisectYaw b' f' : Angle) = bisectYaw b f + θ := by
  have hd : ((f' - b' : ℝ) : Angle) = (f - b : ℝ) := by
    rw [Angle.coe_sub, Angle.coe_sub, hb, hf]; abel
  have hgate := abs_normalizeAngle_lt_congr hd le_rfl
  unfold bisectYaw
  by_cases h : |normalizeAngle (f - b)| < π
  · -- both bisect: the difference is the same real number on both sides
    have heq : normalizeAngle (f' - b') = normalizeAngle (f - b) :=
      normalizeAngle_eq_of_coe_eq (by rw [normalizeAngle_coe, hd])
        (abs_lt.mp h).1 (abs_lt.mp h).2
    simp only [if_pos h, if_pos (hgate.mpr h), heq, normalizeAngle_coe, Angle.coe_add, hb]
    abel
  · -- both take the outgoing bearing
    simp only [if_neg h, if_neg (mt hgate.mp h), hf]

namespace PlaneMotion

variable (g : PlaneMotion) (l : Lane)

/-! ## What the tracker reads of a moved lane -/

@[simp] theorem lane_length : (g.lane l).waypoints.length = l.waypoints.length :=
  List.length_map _ _

theorem wp_lane {i : ℕ} (hi : i < l.waypoints.length) : (g.lane l).wp i = g.waypoint (l.wp i) := by
  simp [Lane.wp, lane, List.getD_eq_getElem?_getD, hi]

theorem dist_lane (pose : Pose) {i : ℕ} (hi : i < l.waypoints.length) :
    (g.lane l).dist (g.pose pose) i = l.dist pose i := by
  rw [Lane.dist, g.wp_lane l hi]
  exact g.getPlaneDistance_point _ _

/-- The warm tracker sees the same profile below `n`, hence makes the same update. -/
theorem profile_update_lane (pose : Pose) (k : ℕ) :
    ((g.lane l).profile (g.pose pose)).update k = (l.profile pose).update k :=
  Profile.update_congr (P := (g.lane l).profile (g.pose pose)) (Q := l.profile pose) (by simp)
    (fun i hi => g.dist_lane l pose (by simpa using hi))
    (fun i hi => by simp [g.wp_lane l (by simpa using hi), waypoint]) k

/-- **The warm tracker is frame independent.**  From every index `k ≥ 0` a motion of the path
    and the vehicle leaves the result unchanged. -/
theorem updateCurrentIndex_move_warm (pose : Pose) {k : ℤ} (hk : 0 ≤ k) :
    updateCurrentIndex (g.lane l) (g.pose pose) k = updateCurrentIndex l pose k := by
  have hsize : (g.lane l).size = l.size := by simp [Lane.size]
  by_cases hbad : l.waypoints.length < 2 ∨ k > l.size - 1
  · rw [updateCurrentIndex, updateCurrentIndex, if_pos hbad, if_pos (by simpa [hsize] using hbad)]
  obtain ⟨k, rfl⟩ := Int.eq_ofNat_of_zero_le hk
  have hk' : k < l.waypoints.length := by unfold Lane.size at hbad; omega
  rw [updateCurrentIndex_warm _ _ (by simp; omega) (by simpa using hk'),
    updateCurrentIndex_warm l pose (by omega) hk', profile_update_lane]

/-! ## Headings -/

/-- A segment of nonzero length keeps its speed sign and turns its bearing by `θ`. -/
theorem segmentYaw_waypoint {a b : Waypoint}
    (h : a.pose.position.x ≠ b.pose.position.x ∨ a.pose.position.y ≠ b.pose.position.y) :
    (segmentYaw (g.waypoint a) (g.waypoint b) : Angle) = segmentYaw a b + g.θ := by
  have hbear := g.atan2_point h
  simp only [segmentYaw, waypoint, pose]
  split_ifs
  · rw [normalizeAngle_coe, normalizeAngle_coe, Angle.coe_add, Angle.coe_add, hbear]; abel
  · exact hbear

/-- On a lane whose segments all have nonzero length, every heading turns by `θ`. -/
theorem yawAt_lane (hn : 2 ≤ l.waypoints.length) (hap : l.segmentsApart) {i : ℕ}
    (hi : i < l.waypoints.length) : ((g.lane l).yawAt i : Angle) = l.yawAt i + g.θ := by
  have hseg : ∀ j, j + 1 < l.waypoints.length →
      (segmentYaw ((g.lane l).wp j) ((g.lane l).wp (j + 1)) : Angle) =
        segmentYaw (l.wp j) (l.wp (j + 1)) + g.θ := fun j hj => by
    rw [g.wp_lane l (by omega), g.wp_lane l hj]; exact g.segmentYaw_waypoint (hap j hj)
  rw [Lane.yawAt_eq _ (by simpa using hn) (by simpa using hi), Lane.yawAt_eq l hn hi, lane_length]
  split_ifs with h1 h2
  · -- interior: both bearings turn
    have hb := hseg (i - 1) (by omega)
    rw [Nat.sub_add_cancel h1.1] at hb
    exact bisectYaw_turn hb (hseg i h1.2)
  · -- last: the incoming bearing
    have hb := hseg (i - 1) (by omega)
    rwa [Nat.sub_add_cancel h2] at hb
  · -- first: the outgoing bearing
    exact hseg i (by omega)

/-- **The heading gate is frame independent** on a lane whose segments have nonzero length, for
    a vehicle orientation off the pitch singularity or zero. -/
theorem headingOk_lane (pose : Pose) (hn : 2 ≤ l.waypoints.length) (hap : l.segmentsApart)
    (hs : pose.orientation.length2 ≠ 0 → |(Matrix3x3.ofQuaternion pose.orientation).r2.x| < 1)
    {i : ℕ} (hi : i < l.waypoints.length) :
    (g.lane l).headingOk (g.pose pose) i ↔ l.headingOk pose i := by
  have hlen : (g.pose pose).orientation.length2 = pose.orientation.length2 :=
    g.length2_quaternion _
  by_cases hq : pose.orientation.length2 = 0
  · -- the yaw is NaN in both frames
    exact iff_of_false (Lane.not_headingOk _ _ _ (hlen.trans hq)) (Lane.not_headingOk _ _ _ hq)
  rw [Lane.headingOk_iff _ _ _ (hlen ▸ hq), Lane.headingOk_iff _ _ _ hq, validAngle]
  refine abs_normalizeAngle_lt_congr ?_ (by linarith [pi_pos])
  rw [Angle.coe_sub, Angle.coe_sub, g.yawAt_lane l hn hap hi,
    show (g.pose pose).orientation = g.quaternion pose.orientation from rfl,
    g.getYaw_quaternion hq (hs hq)]
  abel

/-- **The cold-start locator is frame independent** under the same conditions. -/
theorem getClosestIndex_lane (pose : Pose) (hap : l.segmentsApart)
    (hs : pose.orientation.length2 ≠ 0 → |(Matrix3x3.ofQuaternion pose.orientation).r2.x| < 1) :
    getClosestIndex (g.lane l) (g.pose pose) = getClosestIndex l pose := by
  by_cases hn : 2 ≤ l.waypoints.length
  · have hv : ∀ i < l.waypoints.length, (g.lane l).dist (g.pose pose) i = l.dist pose i :=
      fun i hi => g.dist_lane l pose hi
    rw [getClosestIndex_eq _ _ (by simpa using hn), getClosestIndex_eq l pose hn, lane_length,
      runMin_congr (l.dist pose) (l.headingOk pose) validDistance hv
        fun i hi => g.headingOk_lane l pose hn hap hs hi,
      runMin_congr (l.dist pose) (fun _ => True) dblMax hv fun _ _ => Iff.rfl]
  · rw [getClosestIndex, getClosestIndex, if_pos (by simp; omega), if_pos (by omega)]

end PlaneMotion

/-- **Frame independence.**  Moving the path and the vehicle by one rigid motion of the map
    frame leaves `updateCurrentIndex` unchanged from every previous index `k ≥ 0`, and from a cold
    start `k < 0` when consecutive waypoints are apart in the plane and the vehicle's orientation,
    unless it is the zero quaternion, is off the pitch singularity of `tf::getYaw`. -/
theorem updateCurrentIndex_frame_invariant (g : PlaneMotion) (current_path : Lane)
    (current_pose : Pose) (current_index : ℤ)
    (hcold : current_index < 0 → current_path.segmentsApart ∧
      (current_pose.orientation.length2 ≠ 0 →
        |(Matrix3x3.ofQuaternion current_pose.orientation).r2.x| < 1)) :
    updateCurrentIndex (g.lane current_path) (g.pose current_pose) current_index =
      updateCurrentIndex current_path current_pose current_index := by
  rcases lt_or_le current_index 0 with hneg | hnn
  · obtain ⟨hap, hs⟩ := hcold hneg
    by_cases hn : 2 ≤ current_path.waypoints.length
    · rw [updateCurrentIndex_cold _ _ (by simpa using hn) hneg,
        updateCurrentIndex_cold _ _ hn hneg, g.getClosestIndex_lane current_path current_pose hap hs]
    · rw [updateCurrentIndex, updateCurrentIndex, if_pos (.inl (by simp; omega)),
        if_pos (.inl (by omega))]
  · exact g.updateCurrentIndex_move_warm current_path current_pose hnn

theorem leftTurn_quarterTurn :
    updateCurrentIndex (quarterTurn.lane leftTurn) (quarterTurn.pose turnedPose) (-1) =
      updateCurrentIndex leftTurn turnedPose (-1) :=
  updateCurrentIndex_frame_invariant quarterTurn leftTurn turnedPose (-1) fun _ =>
    ⟨fun i hi => by
      have hi : i < 2 := by simp [leftTurn] at hi; omega
      interval_cases i <;> norm_num [leftTurn, Lane.wp, Waypoint.ofXY],
    fun _ => by norm_num [turnedPose, Matrix3x3.ofQuaternion, rotationOf, Quaternion.length2]⟩

/-- A half turn of the frame about the origin. -/
noncomputable def halfTurn : PlaneMotion := ⟨π, 0, 0⟩

/-! ## A segment of length zero -/

/-- Three waypoints on the `x` axis; the first two coincide, so the first segment has length
    zero. -/
def stopLane : Lane := ⟨[Waypoint.ofXY 0 0 1, Waypoint.ofXY 0 0 1, Waypoint.ofXY 1 0 1]⟩

/-- A zero-length segment breaks frame independence.  The cold start on `stopLane` returns
    `0`; after a half turn of the frame it returns `1`: the first waypoint keeps the bearing
    `atan2(0, 0) = 0` while the vehicle's yaw turns to `π`, so the first waypoint fails the heading
    gate and the second, at the same distance, passes it. -/
theorem stopLane_half_turn :
    updateCurrentIndex stopLane originPose (-1) = some 0 ∧
      updateCurrentIndex (halfTurn.lane stopLane) (halfTurn.pose originPose) (-1) = some 1 := by
  have hlen : stopLane.waypoints.length = 3 := rfl
  have hnπ : normalizeAngle π = π := normalizeAngle_of_mem (by linarith [pi_pos]) le_rfl
  have hn0 : normalizeAngle 0 = 0 := normalizeAngle_of_mem (by linarith [pi_pos]) pi_pos.le
  have hnmπ : normalizeAngle (-π) = -π := normalizeAngle_of_mem le_rfl (by linarith [pi_pos])
  -- every heading of `stopLane` is `0`; the moved lane keeps `0` on the zero segment only
  have hyaw : ∀ i < 3, stopLane.yawAt i = 0 := fun i hi => by
    rw [Lane.yawAt_eq _ (by decide) (hlen ▸ hi)]
    interval_cases i <;> norm_num [stopLane, Waypoint.ofXY, Lane.wp, segmentYaw, bisectYaw,
      atan2_zero_of_nonneg, hn0]
  have hyaw' : ∀ i < 3, (halfTurn.lane stopLane).yawAt i = if i = 0 then 0 else π := fun i hi => by
    rw [Lane.yawAt_eq _ (by decide) (by simpa using hi)]
    interval_cases i <;> norm_num [halfTurn, PlaneMotion.lane, PlaneMotion.waypoint,
      PlaneMotion.pose, PlaneMotion.point, stopLane, Waypoint.ofXY, Lane.wp, segmentYaw, bisectYaw,
      atan2_zero_of_nonneg, atan2_zero_of_neg, hnπ, abs_of_pos pi_pos]
  -- the vehicle's yaw turns from `0` to `π`
  have hr : Tf.getYaw? originPose.orientation = some 0 := by
    simp [originPose, Tf.getYaw?, Tf.getYaw, Matrix3x3.ofQuaternion, rotationOf,
      Quaternion.length2, atan2_zero_of_nonneg]
  have hr' : Tf.getYaw? (halfTurn.pose originPose).orientation = some π := by
    simp [halfTurn, PlaneMotion.pose, PlaneMotion.quaternion, originPose, Tf.getYaw?, Tf.getYaw,
      Matrix3x3.ofQuaternion, rotationOf, Quaternion.length2, atan2_zero_of_neg]
  have hd : ∀ i < 3, stopLane.dist originPose i = if i = 2 then 1 else 0 := fun i hi => by
    interval_cases i <;> norm_num [Lane.dist_originPose, stopLane, Lane.wp, Waypoint.ofXY]
  have hd' : ∀ i < 3,
      (halfTurn.lane stopLane).dist (halfTurn.pose originPose) i = if i = 2 then 1 else 0 :=
    fun i hi => (halfTurn.dist_lane stopLane originPose (hlen ▸ hi)).trans (hd i hi)
  constructor
  · rw [updateCurrentIndex_cold _ _ (by decide) (by norm_num), getClosestIndex_eq _ _ (by decide),
      hlen]
    norm_num [runMin_succ, minStep, Lane.headingOk, hyaw, hr, hd, hn0, validDistance, validAngle,
      pi_pos, dblMax_pos]
  · rw [updateCurrentIndex_cold _ _ (by simp [hlen]) (by norm_num),
      getClosestIndex_eq _ _ (by simp [hlen]), PlaneMotion.lane_length, hlen]
    have hπ2 : ¬π < π / 2 := by linarith [pi_pos]
    norm_num [runMin_succ, minStep, Lane.headingOk, hyaw', hr', hd', hn0, hnmπ, validDistance,
      validAngle, pi_pos, dblMax_pos, abs_of_pos pi_pos, hπ2]

/-! ## A vehicle pitched by `90°` -/

/-- Three waypoints on the `x` axis: back from `1` to `0`, then on to `2`. -/
def uTurnLane : Lane := ⟨[Waypoint.ofXY 1 0 1, Waypoint.ofXY 0 0 1, Waypoint.ofXY 2 0 1]⟩

/-- A vehicle at the origin pitched by `90°`: `q = (1/2, 1/2, -1/2, 1/2)` has `m[2][0] = -1`. -/
noncomputable def pitchedPose : Pose := ⟨⟨0, 0, 0⟩, ⟨1 / 2, 1 / 2, -1 / 2, 1 / 2⟩⟩

/-- At the pitch singularity `tf::getYaw` reads `0`, before and after any motion. -/
theorem getYaw?_pitchedPose (g : PlaneMotion) :
    Tf.getYaw? pitchedPose.orientation = some 0 ∧
      Tf.getYaw? (g.pose pitchedPose).orientation = some 0 := by
  have hq : pitchedPose.orientation.length2 ≠ 0 := by norm_num [pitchedPose, Quaternion.length2]
  have hm : (Matrix3x3.ofQuaternion pitchedPose.orientation).r2.x = -1 := by
    norm_num [pitchedPose, Matrix3x3.ofQuaternion, rotationOf, Quaternion.length2]
  have hm' := (g.ofQuaternion_quaternion hq).2.2
  have hq' := g.length2_quaternion pitchedPose.orientation
  constructor
  · simp [Tf.getYaw?, Tf.getYaw, hq, hm]
  · simp only [Tf.getYaw?, Tf.getYaw, PlaneMotion.pose, hq', hq, if_false, hm', hm]
    norm_num

/-- The pitch singularity breaks frame independence.  On `uTurnLane` the cold start of the pitched
    vehicle returns `1`; after a half turn of the frame it returns `0`: the bearings turn by `π`
    while the yaw stays `0`, so the heading gate moves from the second waypoint to the first. -/
theorem uTurnLane_half_turn :
    updateCurrentIndex uTurnLane pitchedPose (-1) = some 1 ∧
      updateCurrentIndex (halfTurn.lane uTurnLane) (halfTurn.pose pitchedPose) (-1) = some 0 := by
  have hlen : uTurnLane.waypoints.length = 3 := rfl
  have hnπ : normalizeAngle π = π := normalizeAngle_of_mem (by linarith [pi_pos]) le_rfl
  have hn0 : normalizeAngle 0 = 0 := normalizeAngle_of_mem (by linarith [pi_pos]) pi_pos.le
  have hnmπ : normalizeAngle (-π) = -π := normalizeAngle_of_mem le_rfl (by linarith [pi_pos])
  have hyaw : ∀ i < 3, uTurnLane.yawAt i = if i = 0 then π else 0 := fun i hi => by
    rw [Lane.yawAt_eq _ (by decide) (hlen ▸ hi)]
    interval_cases i <;> norm_num [uTurnLane, Waypoint.ofXY, Lane.wp, segmentYaw, bisectYaw,
      atan2_zero_of_nonneg, atan2_zero_of_neg, hnmπ, abs_of_pos pi_pos]
  have hyaw' : ∀ i < 3, (halfTurn.lane uTurnLane).yawAt i = if i = 0 then 0 else π := fun i hi => by
    rw [Lane.yawAt_eq _ (by decide) (by simpa using hi)]
    interval_cases i <;> norm_num [halfTurn, PlaneMotion.lane, PlaneMotion.waypoint,
      PlaneMotion.pose, PlaneMotion.point, uTurnLane, Waypoint.ofXY, Lane.wp, segmentYaw,
      bisectYaw, atan2_zero_of_nonneg, atan2_zero_of_neg, hnπ, abs_of_pos pi_pos]
  obtain ⟨hr, hr'⟩ := getYaw?_pitchedPose halfTurn
  have hd : ∀ i < 3, uTurnLane.dist pitchedPose i = if i = 0 then 1 else if i = 1 then 0 else 2 :=
    fun i hi => by
      change uTurnLane.dist originPose i = _
      interval_cases i <;> norm_num [Lane.dist_originPose, uTurnLane, Lane.wp, Waypoint.ofXY]
  have hd' : ∀ i < 3, (halfTurn.lane uTurnLane).dist (halfTurn.pose pitchedPose) i =
      if i = 0 then 1 else if i = 1 then 0 else 2 :=
    fun i hi => (halfTurn.dist_lane uTurnLane pitchedPose (hlen ▸ hi)).trans (hd i hi)
  have hπ2 : ¬π < π / 2 := by linarith [pi_pos]
  constructor
  · rw [updateCurrentIndex_cold _ _ (by decide) (by norm_num), getClosestIndex_eq _ _ (by decide),
      hlen]
    norm_num [runMin_succ, minStep, Lane.headingOk, hyaw, hr, hd, hn0, hnπ, validDistance,
      validAngle, pi_pos, dblMax_pos, abs_of_pos pi_pos, hπ2]
  · rw [updateCurrentIndex_cold _ _ (by simp [hlen]) (by norm_num),
      getClosestIndex_eq _ _ (by simp [hlen]), PlaneMotion.lane_length, hlen]
    norm_num [runMin_succ, minStep, Lane.headingOk, hyaw', hr', hd', hn0, hnπ, validDistance,
      validAngle, pi_pos, dblMax_pos, abs_of_pos pi_pos, hπ2]

/-- **Both conditions of the cold start are needed.**  A half turn of the frame moves the
    cold-start index on a lane with a zero-length segment (`stopLane`, from `0` to `1`) and for a
    vehicle pitched by `90°` (`uTurnLane`, from `1` to `0`). -/
theorem halfTurn_moves_cold_start :
    (updateCurrentIndex stopLane originPose (-1) = some 0 ∧
      updateCurrentIndex (halfTurn.lane stopLane) (halfTurn.pose originPose) (-1) = some 1) ∧
    (updateCurrentIndex uTurnLane pitchedPose (-1) = some 1 ∧
      updateCurrentIndex (halfTurn.lane uTurnLane) (halfTurn.pose pitchedPose) (-1) = some 0) :=
  ⟨stopLane_half_turn, uTurnLane_half_turn⟩

end WaypointFollower
