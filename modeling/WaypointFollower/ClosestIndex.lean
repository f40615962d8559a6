import WaypointFollower.WaypointYaw
import WaypointFollower.MinSearch
/-
  The cold-start locator `getClosestIndex` (lines 327–374).

  Two passes of the running minimum of `MinSearch`:
  1. the GATED pass, seeded with `valid_distance = 5.0`, admits index `i` when the heading
     estimate `getWaypointYaw` at `i` is within `valid_angle = π / 2` of the vehicle's yaw;
  2. when the gated pass found nothing, the FALLBACK pass, seeded with `DBL_MAX`, admits every
     index.

  The vehicle's yaw is `Tf.getYaw?`: for a zero orientation it is NaN, no index passes the gate
  (`not_headingOk`) and the fallback pass alone decides (`getClosestIndex_of_zero_orientation`).

  `getClosestIndex_eq` turns the model (with its `Option` reads) into the two passes over the
  distance profile; `getClosestIndex_spec` reads them back as first minimisers.  The `ROS_WARN`
  calls have no effect on the result and are left out.
-/

open Real

namespace WaypointFollower

/-- `static const double valid_distance = 5.0;` -/
def validDistance : ℝ := 5

/-- `static const double valid_angle = M_PI / 2;` -/
noncomputable def validAngle : ℝ := π / 2

/-- The body of the gated pass at index `i` (lines 343–356).  A NaN `robot_yaw` (`none`) makes
    `angle_diff` NaN (both loops of `normalizeAngle` are skipped), and `fabs(angle_diff) <
    valid_angle` is then false. -/
noncomputable def gatedStep (current_path : Lane) (current_pose : Pose) (robot_yaw : Option ℝ)
    (s : ℝ × ℤ) (i : ℕ) : Option (ℝ × ℤ) := do
  let wp ← current_path.at? i
  let distance := getPlaneDistance wp.pose.position current_pose.position
  let waypoint_yaw ← getWaypointYaw current_path i
  let angle_diff := robot_yaw.map fun robot_yaw => normalizeAngle (waypoint_yaw - robot_yaw)
  pure (minStep distance (∃ a ∈ angle_diff, |a| < validAngle) i s)

/-- The body of the fallback pass at index `i` (lines 366–371). -/
noncomputable def nearestStep (current_path : Lane) (current_pose : Pose) (s : ℝ × ℤ) (i : ℕ) :
    Option (ℝ × ℤ) := do
  let wp ← current_path.at? i
  let distance := getPlaneDistance wp.pose.position current_pose.position
  pure (minStep distance True i s)

/-- `getClosestIndex(current_path, current_pose)`. -/
noncomputable def getClosestIndex (current_path : Lane) (current_pose : Pose) : Option ℤ :=
  if current_path.waypoints.length < 2 then pure (-1) else do
  let robot_yaw := Tf.getYaw? current_pose.orientation
  let first ← (List.range current_path.waypoints.length).foldlM
    (gatedStep current_path current_pose robot_yaw) (validDistance, -1)
  if first.2 ≠ -1 then pure first.2 else do
  let second ← (List.range current_path.waypoints.length).foldlM
    (nearestStep current_path current_pose) (dblMax, first.2)
  pure second.2

namespace Lane

/-- Planar distance from waypoint `i` to the pose, as the locator and the forward scan read it. -/
noncomputable def dist (l : Lane) (pose : Pose) (i : ℕ) : ℝ :=
  getPlaneDistance (l.wp i).pose.position pose.position

/-- The heading estimate at `i`, read through `getWaypointYaw` (which succeeds in range). -/
noncomputable def yawAt (l : Lane) (i : ℕ) : ℝ := (getWaypointYaw l i).getD 0

/-- The heading gate of the first pass at index `i`; it fails when the vehicle's yaw is NaN. -/
def headingOk (l : Lane) (pose : Pose) (i : ℕ) : Prop :=
  ∃ a ∈ (Tf.getYaw? pose.orientation).map fun robot_yaw =>
    normalizeAngle (l.yawAt i - robot_yaw), |a| < validAngle

noncomputable instance (l : Lane) (pose : Pose) : DecidablePred (l.headingOk pose) :=
  fun _ => Option.decidableExistsMem _

/-- Index `i` passes both gates of the first pass. -/
def passesGates (l : Lane) (pose : Pose) (i : ℕ) : Prop :=
  l.dist pose i < validDistance ∧ ∃ y, getWaypointYaw l i = some y ∧
    ∃ a ∈ (Tf.getYaw? pose.orientation).map fun robot_yaw =>
      normalizeAngle (y - robot_yaw), |a| < validAngle

theorem getWaypointYaw_eq_yawAt (l : Lane) {i : ℕ} (hi : i < l.waypoints.length) :
    getWaypointYaw l i = some (l.yawAt i) := by
  have := getWaypointYaw_isSome l (Int.natCast_nonneg i) (by unfold size; omega)
  rw [yawAt, Option.getD_of_ne_none (Option.isSome_iff_ne_none.mp this)]

theorem passesGates_iff (l : Lane) (pose : Pose) {i : ℕ} (hi : i < l.waypoints.length) :
    l.passesGates pose i ↔ l.dist pose i < validDistance ∧ l.headingOk pose i := by
  simp [passesGates, headingOk, l.getWaypointYaw_eq_yawAt hi]

/-- For a nonzero orientation the heading gate compares with `Tf.getYaw`. -/
theorem headingOk_iff (l : Lane) (pose : Pose) (i : ℕ) (hq : pose.orientation.length2 ≠ 0) :
    l.headingOk pose i ↔ |normalizeAngle (l.yawAt i - Tf.getYaw pose.orientation)| < validAngle := by
  simp [headingOk, Tf.getYaw?, hq]

/-- For the zero quaternion the vehicle's yaw is NaN and no index passes the heading gate. -/
theorem not_headingOk (l : Lane) (pose : Pose) (i : ℕ) (hq : pose.orientation.length2 = 0) :
    ¬l.headingOk pose i := by
  simp [headingOk, Tf.getYaw?, hq]

end Lane

/-- The locator as its two passes over the distance profile. -/
theorem getClosestIndex_eq (l : Lane) (pose : Pose) (hn : 2 ≤ l.waypoints.length) :
    getClosestIndex l pose =
      let first := runMin (l.dist pose) (l.headingOk pose) validDistance l.waypoints.length
      some (if first.2 ≠ -1 then first.2
        else (runMin (l.dist pose) (fun _ => True) dblMax l.waypoints.length).2) := by
  have hrange : ∀ i ∈ List.range l.waypoints.length, l.at? i = some (l.wp i) := fun i hi =>
    l.at?_natCast_eq_some (by have := List.mem_range.mp hi; unfold Lane.size; omega)
  have h1 : (List.range l.waypoints.length).foldlM (gatedStep l pose (Tf.getYaw? pose.orientation))
      (validDistance, -1) = some (runMin (l.dist pose) (l.headingOk pose) validDistance
        l.waypoints.length) := foldlM_eq_some _ _ fun s i hi => by
    simp only [gatedStep, hrange i hi, l.getWaypointYaw_eq_yawAt (List.mem_range.mp hi),
      Option.bind_eq_bind, Option.some_bind]; rfl
  have h2 : (List.range l.waypoints.length).foldlM (nearestStep l pose) (dblMax, -1) =
      some (runMin (l.dist pose) (fun _ => True) dblMax l.waypoints.length) :=
    foldlM_eq_some _ _ fun s i hi => by
      simp only [nearestStep, hrange i hi, Option.bind_eq_bind, Option.some_bind]; rfl
  simp only [getClosestIndex, if_neg (show ¬l.waypoints.length < 2 by omega), h1,
    Option.bind_eq_bind, Option.some_bind]
  by_cases h : (runMin (l.dist pose) (l.headingOk pose) validDistance l.waypoints.length).2 = -1
  · simp only [h, ne_eq, not_true_eq_false, if_false, h2, Option.some_bind]; rfl
  · simp only [ne_eq, h, not_false_eq_true, if_true]; rfl

theorem IsFirstArgmin.congr {p q : ℕ → Prop} {f : ℕ → ℝ} {n r : ℕ} (h : IsFirstArgmin p f n r)
    (hpq : ∀ i < n, p i ↔ q i) : IsFirstArgmin q f n r :=
  ⟨h.lt, (hpq r h.lt).mp h.mem, fun i hi hq => h.le i hi ((hpq i hi).mpr hq),
    fun i hi hq => h.first i hi ((hpq i (hi.trans h.lt)).mpr hq)⟩

/-- **The cold-start locator.**  On a path of at least two waypoints whose planar distances to
    the pose are below `DBL_MAX`, `getClosestIndex` returns the first index minimising the
    distance among the waypoints passing both gates when there is one, and otherwise the first
    index minimising the distance over the whole path. -/
theorem getClosestIndex_spec (current_path : Lane) (current_pose : Pose)
    (hn : 2 ≤ current_path.waypoints.length)
    (hd : ∀ i < current_path.waypoints.length, current_path.dist current_pose i < dblMax) :
    ∃ r : ℕ, getClosestIndex current_path current_pose = some (r : ℤ) ∧
      ((∃ i < current_path.waypoints.length, current_path.passesGates current_pose i) →
        IsFirstArgmin (current_path.passesGates current_pose) (current_path.dist current_pose)
          current_path.waypoints.length r) ∧
      ((¬∃ i < current_path.waypoints.length, current_path.passesGates current_pose i) →
        IsFirstArgmin (fun _ => True) (current_path.dist current_pose)
          current_path.waypoints.length r) := by
  set l := current_path
  set n := l.waypoints.length
  have hgate : ∀ i < n, (l.dist current_pose i < validDistance ∧ l.headingOk current_pose i) ↔
      l.passesGates current_pose i := fun i hi => (l.passesGates_iff current_pose hi).symm
  rw [getClosestIndex_eq l current_pose hn]
  rcases runMin_spec (l.dist current_pose) (l.headingOk current_pose) validDistance n with
    ⟨hnone, hs⟩ | ⟨r, hs, hr⟩
  · -- no gated candidate: the fallback pass admits every index
    have hnone' : ¬∃ i < n, l.passesGates current_pose i :=
      fun ⟨i, hi, hp⟩ => hnone ⟨i, hi, (hgate i hi).mpr hp⟩
    rcases runMin_spec (l.dist current_pose) (fun _ => True) dblMax n with ⟨h0, -⟩ | ⟨r', hs', hr'⟩
    · exact absurd ⟨0, by omega, hd 0 (by omega), trivial⟩ h0
    · refine ⟨r', ?_, fun h => absurd h hnone', fun _ => hr'.of_seed⟩
      simp only [hs, hs', ne_eq, not_true_eq_false, if_false]
  · -- a gated candidate: the first pass's index is returned
    refine ⟨r, ?_, fun _ => (hr.congr hgate), fun h => absurd ⟨r, hr.lt, (hgate r hr.lt).mp hr.mem⟩ h⟩
    simp only [hs, ne_eq, show (r : ℤ) ≠ -1 by omega, not_false_eq_true, if_true]

/-- The waypoints of `leftTurn` are closer than `DBL_MAX` to the vehicle at `(1, 2)`. -/
theorem leftTurn_dist_lt : ∀ i < leftTurn.waypoints.length, leftTurn.dist movedPose i < dblMax :=
  fun i hi => by
    have hi : i < 3 := hi
    apply getPlaneDistance_lt_dblMax
    interval_cases i <;> norm_num [Lane.wp, leftTurn, movedPose, Waypoint.ofXY]

theorem leftTurn_getClosestIndex :
    ∃ r : ℕ, getClosestIndex leftTurn movedPose = some (r : ℤ) ∧
      ((∃ i < 3, leftTurn.passesGates movedPose i) →
        IsFirstArgmin (leftTurn.passesGates movedPose) (leftTurn.dist movedPose) 3 r) ∧
      ((¬∃ i < 3, leftTurn.passesGates movedPose i) →
        IsFirstArgmin (fun _ => True) (leftTurn.dist movedPose) 3 r) :=
  getClosestIndex_spec leftTurn movedPose (by decide) leftTurn_dist_lt

/-- **A vehicle with the zero quaternion falls back to the nearest waypoint.**  Its yaw is NaN, so
    no index passes the heading gate, and the locator returns the first index nearest the
    vehicle. -/
theorem getClosestIndex_of_zero_orientation (current_path : Lane) (current_pose : Pose)
    (hn : 2 ≤ current_path.waypoints.length)
    (hd : ∀ i < current_path.waypoints.length, current_path.dist current_pose i < dblMax)
    (hq : current_pose.orientation.length2 = 0) :
    ∃ r : ℕ, getClosestIndex current_path current_pose = some (r : ℤ) ∧
      IsFirstArgmin (fun _ => True) (current_path.dist current_pose)
        current_path.waypoints.length r := by
  set l := current_path
  have hfirst : runMin (l.dist current_pose) (l.headingOk current_pose) validDistance
      l.waypoints.length = (validDistance, -1) := by
    rcases runMin_spec (l.dist current_pose) (l.headingOk current_pose) validDistance
      l.waypoints.length with ⟨-, hs⟩ | ⟨r, -, hr⟩
    · exact hs
    · exact absurd hr.mem.2 (l.not_headingOk current_pose r hq)
  rcases runMin_spec (l.dist current_pose) (fun _ => True) dblMax l.waypoints.length with
    ⟨h0, -⟩ | ⟨r, hs, hr⟩
  · exact absurd ⟨0, by omega, hd 0 (by omega), trivial⟩ h0
  · refine ⟨r, ?_, hr.of_seed⟩
    rw [getClosestIndex_eq l current_pose hn]
    simp only [hfirst, hs, ne_eq, not_true_eq_false, if_false]

/-- A vehicle at `(1, 2)` whose orientation message is all zeros. -/
def zeroPose : Pose := ⟨⟨1, 2, 0⟩, ⟨0, 0, 0, 0⟩⟩

theorem leftTurn_getClosestIndex_of_zero_orientation :
    (2 ≤ leftTurn.waypoints.length ∧
      (∀ i < leftTurn.waypoints.length, leftTurn.dist zeroPose i < dblMax) ∧
        zeroPose.orientation.length2 = 0) ∧
      ∃ r : ℕ, getClosestIndex leftTurn zeroPose = some (r : ℤ) ∧
        IsFirstArgmin (fun _ => True) (leftTurn.dist zeroPose) leftTurn.waypoints.length r := by
  have hd : ∀ i < leftTurn.waypoints.length, leftTurn.dist zeroPose i < dblMax :=
    leftTurn_dist_lt
  have hq : zeroPose.orientation.length2 = 0 := by norm_num [zeroPose, Quaternion.length2]
  exact ⟨⟨by decide, hd, hq⟩,
    getClosestIndex_of_zero_orientation leftTurn zeroPose (by decide) hd hq⟩

end WaypointFollower
