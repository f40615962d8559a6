import WaypointFollower.ClosestIndex
import WaypointFollower.Tracker.Profile
/-
  `updateCurrentIndex` (lines 376–462) as the source writes it, and its refinement of the
  profile algorithm of `Tracker.Profile`.

  The two loops keep the source's shape: `int` loop indices, `waypoints.at(i)` reads through
  `Lane.at?`, the offset walk's distances measured from the pose to the waypoint and the scan's
  from the waypoint to the pose.  The unreachable tail (`ROS_WARN("... Unknown error."); return
  -1;`) and the logging are left out.

  `updateCurrentIndex_warm` is the refinement: from any previous index `0 ≤ k < n` on a path of
  at least two waypoints, the source function returns `some (Profile.update k)` of the lane's
  profile.  `updateCurrentIndex_cold` sends every negative index to `getClosestIndex`.
-/

open Real

namespace WaypointFollower

/-- The offset walk of `updateCurrentIndex` from loop index `i` (lines 404–434). -/
noncomputable def offsetWalk (current_path : Lane) (current_pose : Pose)
    (i start_index_offset : ℤ) : Option ℤ :=
  if h : i < current_path.size - 1 then do
    let prev ← current_path.at? (i - 1)
    let cur ← current_path.at? i
    let next ← current_path.at? (i + 1)
    let prev_velocity := prev.velocity
    let current_velocity := cur.velocity
    let next_velocity := next.velocity
    let prev_distance := getPlaneDistance current_pose.position prev.pose.position
    let current_distance := getPlaneDistance current_pose.position cur.pose.position
    let next_distance := getPlaneDistance current_pose.position next.pose.position
    if current_velocity * next_velocity < 0 ∧ start_index_offset ≥ 0 then
      offsetWalk current_path current_pose (i + 1) (start_index_offset + 1)
    else if current_velocity * next_velocity > 0 ∧ next_distance < current_distance ∧
        start_index_offset ≥ 0 then
      offsetWalk current_path current_pose (i + 1) (start_index_offset + 1)
    else if prev_velocity * current_velocity > 0 ∧ prev_distance < current_distance ∧
        start_index_offset ≤ 0 then
      offsetWalk current_path current_pose (i + 1) (start_index_offset - 1)
    else pure start_index_offset
  else pure start_index_offset
termination_by (current_path.size - 1 - i).toNat

/-- The forward scan of `updateCurrentIndex` from loop index `i` (lines 439–456). -/
noncomputable def forwardScan (current_path : Lane) (current_pose : Pose) (i : ℤ)
    (prev_distance : ℝ) (next_index : ℤ) : Option ℤ :=
  if h : i < current_path.size then do
    let wp ← current_path.at? i
    let current_distance := getPlaneDistance wp.pose.position current_pose.position
    if current_distance > prev_distance then pure (i - 1)
    else forwardScan current_path current_pose (i + 1) current_distance next_index
  else pure next_index
termination_by (current_path.size - i).toNat

/-- `updateCurrentIndex(current_path, current_pose, current_index)`. -/
noncomputable def updateCurrentIndex (current_path : Lane) (current_pose : Pose)
    (current_index : ℤ) : Option ℤ :=
  if current_path.waypoints.length < 2 ∨ current_index > current_path.size - 1 then pure (-1)
  else if current_index < 0 then getClosestIndex current_path current_pose
  else
    let path_size := current_path.size
    if path_size < 1 then pure (-1) else do
    let start_index ← if current_index < path_size - 1 ∧ current_index > 0 then do
        let start_index_offset ← offsetWalk current_path current_pose current_index 0
        pure (current_index + start_index_offset)
      else pure current_index
    let start_index := min (max 0 start_index) (path_size - 1)
    let next_index ← forwardScan current_path current_pose start_index dblMax current_index
    pure (min (max 0 next_index) (path_size - 1))

/-- What the tracker reads of a lane and a pose. -/
noncomputable def Lane.profile (l : Lane) (pose : Pose) : Profile :=
  ⟨l.waypoints.length, l.dist pose, fun i => (l.wp i).velocity⟩

/-! ## Refinement -/

section
variable (l : Lane) (pose : Pose)

/-- One iteration of the source's offset walk, in the profile's transitions. -/
theorem offsetWalk_step {i : ℕ} (hi : 1 ≤ i) (h : i + 1 < l.waypoints.length) (off : ℤ) :
    offsetWalk l pose i off =
      if (l.profile pose).switchback i ∧ 0 ≤ off then offsetWalk l pose (i + 1 : ℕ) (off + 1)
      else if (l.profile pose).approach i ∧ 0 ≤ off then offsetWalk l pose (i + 1 : ℕ) (off + 1)
      else if (l.profile pose).regress i ∧ off ≤ 0 then offsetWalk l pose (i + 1 : ℕ) (off - 1)
      else some off := by
  have hsize : (l.size : ℤ) = l.waypoints.length := rfl
  rw [offsetWalk, dif_pos (by omega)]
  simp only [l.at?_eq_some (show (0 : ℤ) ≤ i - 1 by omega) (by omega),
    l.at?_eq_some (show (0 : ℤ) ≤ i by omega) (by omega),
    l.at?_eq_some (show (0 : ℤ) ≤ i + 1 by omega) (by omega), Option.bind_eq_bind,
    Option.some_bind, show ((i : ℤ) - 1).toNat = i - 1 by omega, Int.toNat_natCast,
    show ((i : ℤ) + 1).toNat = i + 1 by omega, Nat.cast_add, Nat.cast_one, ge_iff_le, gt_iff_lt,
    Profile.switchback, Profile.approach, Profile.regress, Lane.profile, Lane.dist,
    getPlaneDistance_comm pose.position, and_assoc]
  rfl

theorem offsetWalk_last {i : ℕ} (h : ¬i + 1 < l.waypoints.length) (off : ℤ) :
    offsetWalk l pose i off = some off := by
  rw [offsetWalk, dif_neg (by unfold Lane.size; omega)]; rfl

/-- The source's offset walk computes the profile's walk. -/
theorem offsetWalk_eq (i : ℕ) (off : ℤ) (hi : 1 ≤ i) :
    offsetWalk l pose i off = some ((l.profile pose).walk i off) := by
  induction i, off using Profile.walk.induct (l.profile pose) with
  | case1 i off h hc ih =>
    rw [offsetWalk_step l pose hi h, if_pos hc, ih (by omega), Profile.walk_of_lt _ h, if_pos hc]
  | case2 i off h hc1 hc2 ih =>
    rw [offsetWalk_step l pose hi h, if_neg hc1, if_pos hc2, ih (by omega),
      Profile.walk_of_lt _ h, if_neg hc1, if_pos hc2]
  | case3 i off h hc1 hc2 hc3 ih =>
    rw [offsetWalk_step l pose hi h, if_neg hc1, if_neg hc2, if_pos hc3, ih (by omega),
      Profile.walk_of_lt _ h, if_neg hc1, if_neg hc2, if_pos hc3]
  | case4 i off h hc1 hc2 hc3 =>
    rw [offsetWalk_step l pose hi h, if_neg hc1, if_neg hc2, if_neg hc3,
      Profile.walk_of_lt _ h, if_neg hc1, if_neg hc2, if_neg hc3]
  | case5 i off h => rw [offsetWalk_last l pose h, Profile.walk_of_not_lt _ h]

/-- The source's forward scan computes the profile's scan. -/
theorem forwardScan_eq (i : ℕ) (prev : ℝ) (dflt : ℤ) :
    forwardScan l pose i prev dflt = some ((l.profile pose).scan i prev dflt) := by
  induction i, prev, dflt using Profile.scan.induct (l.profile pose) with
  | case1 i prev dflt h hlt =>
    rw [forwardScan, dif_pos (by unfold Lane.size; exact_mod_cast h),
      l.at?_natCast_eq_some (by unfold Lane.size; exact_mod_cast h), Profile.scan_of_lt _ h,
      if_pos hlt]
    exact if_pos hlt
  | case2 i prev dflt h hlt ih =>
    rw [forwardScan, dif_pos (by unfold Lane.size; exact_mod_cast h),
      l.at?_natCast_eq_some (by unfold Lane.size; exact_mod_cast h), Profile.scan_of_lt _ h,
      if_neg hlt, ← ih]
    exact (if_neg hlt).trans (by push_cast; rfl)
  | case3 i prev dflt h =>
    rw [forwardScan, dif_neg (by unfold Lane.size; exact_mod_cast h), Profile.scan_of_not_lt _ h]
    rfl

/-- **Refinement, warm start.**  From a previous index `0 ≤ k < n` on a path of at least two
    waypoints, `updateCurrentIndex` returns the profile's update. -/
theorem updateCurrentIndex_warm (hn : 2 ≤ l.waypoints.length) {k : ℕ}
    (hk : k < l.waypoints.length) :
    updateCurrentIndex l pose k = some ((l.profile pose).update k : ℤ) := by
  have hsize : (l.size : ℤ) = l.waypoints.length := rfl
  have hP : (l.profile pose).n = l.waypoints.length := rfl
  have hclamp : ∀ x : ℤ, min (max 0 x) (l.size - 1) = ((l.profile pose).clampIdx x : ℤ) := by
    intro x; unfold Profile.clampIdx; omega
  rw [updateCurrentIndex, if_neg (by omega), if_neg (by omega)]
  dsimp only
  rw [if_neg (show ¬l.size < 1 by omega)]
  by_cases h1 : 0 < k ∧ k + 1 < l.waypoints.length
  · -- interior: the walk moves the scan start
    rw [if_pos (show (k : ℤ) < l.size - 1 ∧ (k : ℤ) > 0 by omega)]
    simp only [Option.bind_eq_bind, Option.pure_def, offsetWalk_eq l pose k 0 h1.1,
      Option.some_bind, hclamp, forwardScan_eq, Profile.update, Profile.start, hP, if_pos h1]
  · rw [if_neg (show ¬((k : ℤ) < l.size - 1 ∧ (k : ℤ) > 0) by omega)]
    simp only [Option.bind_eq_bind, Option.pure_def, Option.some_bind, hclamp, forwardScan_eq,
      Profile.update, Profile.start, hP, if_neg h1]

/-- Every negative index is a cold start. -/
theorem updateCurrentIndex_cold (hn : 2 ≤ l.waypoints.length) {k : ℤ} (hk : k < 0) :
    updateCurrentIndex l pose k = getClosestIndex l pose := by
  rw [updateCurrentIndex, if_neg (by unfold Lane.size; omega), if_pos hk]

end

end WaypointFollower
