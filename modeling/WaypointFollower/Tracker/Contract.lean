import WaypointFollower.Tracker.Model
/-
  The contract of `updateCurrentIndex` over every lane, pose and previous index.

  * `updateCurrentIndex_refines` — on a path of at least two waypoints the source function is
    the cold-start locator on a negative index and the profile's update otherwise.
  * `updateCurrentIndex_contract` — the result is never `none`, so no waypoint read on the way
    (`getWaypointYaw` at every index of the cold start, `at(i - 1)`, `at(i)`, `at(i + 1)` in the
    walk, `at(i)` in the scan) is out of range; it is `-1` exactly on a path of fewer than two
    waypoints or an index past its end, and an index of the path otherwise.
  * `updateCurrentIndex_forward_nearest` — a forward move that crosses no switchback reports a
    waypoint at least as close to the vehicle as every waypoint it passed.

  Two runs on fixed lanes show where the code departs from what its spec promises:
  `updateCurrentIndex_retreats_over_switchback` (the regression branch pulls the start back over
  waypoints it never tested) and `updateCurrentIndex_keeps_previous_index` (a scan that never sees
  the distance rise returns the previous index, not the end of the path).
-/

open Real

namespace WaypointFollower

namespace Lane

variable (l : Lane) (pose : Pose)

@[simp] theorem profile_n : (l.profile pose).n = l.waypoints.length := rfl
@[simp] theorem profile_d (i : ℕ) : (l.profile pose).d i = l.dist pose i := rfl
@[simp] theorem profile_v (i : ℕ) : (l.profile pose).v i = (l.wp i).velocity := rfl

/-- On the `x` axis, the distance to the origin is `|x|`. -/
theorem dist_originPose {i : ℕ} (h : (l.wp i).pose.position.y = 0) :
    l.dist originPose i = |(l.wp i).pose.position.x| := by
  rw [dist, getPlaneDistance_of_y_eq (by rw [h]; rfl)]
  simp [originPose]

end Lane

/-- **Refinement.**  On a path of at least two waypoints, from every index up to the last, the
    source function is the cold-start locator on a negative index and the profile's update
    otherwise. -/
theorem updateCurrentIndex_refines (current_path : Lane) (current_pose : Pose)
    (current_index : ℤ) (hn : 2 ≤ current_path.waypoints.length)
    (hk : current_index ≤ current_path.size - 1) :
    updateCurrentIndex current_path current_pose current_index =
      if current_index < 0 then getClosestIndex current_path current_pose
      else some ((current_path.profile current_pose).update current_index.toNat : ℤ) := by
  split_ifs with hneg
  · exact updateCurrentIndex_cold current_path current_pose hn hneg
  · obtain ⟨k, rfl⟩ := Int.eq_ofNat_of_zero_le (not_lt.mp hneg)
    exact updateCurrentIndex_warm current_path current_pose hn (by unfold Lane.size at hk; omega)

theorem leftTurn_refines :
    updateCurrentIndex leftTurn movedPose 1 =
      if (1 : ℤ) < 0 then getClosestIndex leftTurn movedPose
      else some ((leftTurn.profile movedPose).update (1 : ℤ).toNat : ℤ) :=
  updateCurrentIndex_refines leftTurn movedPose 1 (by decide) (by decide)

/-- **The contract.**  `updateCurrentIndex` returns (so no read is out of range); the result is
    `-1` exactly on a path of fewer than two waypoints or an index past its end; otherwise it is
    an index of the path, a cold start included once the waypoints are closer than `DBL_MAX`. -/
theorem updateCurrentIndex_contract (current_path : Lane) (current_pose : Pose)
    (current_index : ℤ) (hd : current_index < 0 →
      ∀ i < current_path.waypoints.length, current_path.dist current_pose i < dblMax) :
    ∃ r, updateCurrentIndex current_path current_pose current_index = some r ∧
      (r = -1 ↔ current_path.waypoints.length < 2 ∨ current_index > current_path.size - 1) ∧
      (r ≠ -1 → 0 ≤ r ∧ r ≤ current_path.size - 1) := by
  set l := current_path
  have hsize : l.size = l.waypoints.length := rfl
  by_cases hbad : l.waypoints.length < 2 ∨ current_index > l.size - 1
  · exact ⟨-1, by rw [updateCurrentIndex, if_pos hbad]; rfl, iff_of_true rfl hbad,
      fun h => absurd rfl h⟩
  have hn : 2 ≤ l.waypoints.length := by omega
  suffices ∃ r, updateCurrentIndex l current_pose current_index = some r ∧ 0 ≤ r ∧
      r ≤ l.size - 1 by
    obtain ⟨r, hr, h0, h1⟩ := this
    exact ⟨r, hr, iff_of_false (by omega) hbad, fun _ => ⟨h0, h1⟩⟩
  rcases lt_or_le current_index 0 with hneg | hnn
  · -- cold start: the locator's index
    obtain ⟨r, hr, hgated, hnearest⟩ := getClosestIndex_spec l current_pose hn (hd hneg)
    have hlt : r < l.waypoints.length :=
      (em (∃ i < l.waypoints.length, l.passesGates current_pose i)).elim (fun h => (hgated h).lt)
        fun h => (hnearest h).lt
    exact ⟨r, by rw [updateCurrentIndex_cold l current_pose hn hneg, hr], by omega, by omega⟩
  · -- warm start: the profile's update, clamped into the path
    obtain ⟨k, rfl⟩ := Int.eq_ofNat_of_zero_le hnn
    have hk : k < l.waypoints.length := by omega
    have := (l.profile current_pose).clampIdx_lt (by simp; omega)
      ((l.profile current_pose).scan ((l.profile current_pose).start k) dblMax k)
    exact ⟨_, updateCurrentIndex_warm l current_pose hn hk, by omega, by
      simp only [Profile.update, Lane.profile_n] at this ⊢; omega⟩

/-- A warm call whose profile update is known, the form in which fixed lanes are run. -/
theorem updateCurrentIndex_of_update (l : Lane) (pose : Pose) (hn : 2 ≤ l.waypoints.length)
    {k u : ℕ} (hk : k < l.waypoints.length) (hu : (l.profile pose).update k = u) :
    updateCurrentIndex l pose k = some (u : ℤ) := by
  rw [updateCurrentIndex_warm l pose hn hk, hu]

/-- The cold start on `leftTurn` returns an index of the path. -/
theorem leftTurn_contract :
    ∃ r, updateCurrentIndex leftTurn movedPose (-1) = some r ∧
      (r = -1 ↔ leftTurn.waypoints.length < 2 ∨ -1 > leftTurn.size - 1) ∧
      (r ≠ -1 → 0 ≤ r ∧ r ≤ leftTurn.size - 1) :=
  updateCurrentIndex_contract leftTurn movedPose (-1) fun _ => leftTurn_dist_lt

/-! ## Forward moves -/

/-- **A forward move within one direction of travel.**  When the tracker moves forward from `k`
    to `r` and no consecutive pair of `[k, r]` has speeds of opposite sign, waypoint `r` is at
    least as close to the vehicle as every waypoint of `[k, r]`. -/
theorem updateCurrentIndex_forward_nearest (current_path : Lane) (current_pose : Pose) (k r : ℕ)
    (hn : 2 ≤ current_path.waypoints.length) (hk : k < current_path.waypoints.length)
    (hr : updateCurrentIndex current_path current_pose k = some (r : ℤ)) (hkr : k < r)
    (hsign : ∀ j, k ≤ j → j < r →
      0 ≤ (current_path.wp j).velocity * (current_path.wp (j + 1)).velocity) :
    ∀ j, k ≤ j → j ≤ r → current_path.dist current_pose r ≤ current_path.dist current_pose j := by
  rw [updateCurrentIndex_warm current_path current_pose hn hk, Option.some_inj,
    Nat.cast_inj] at hr
  subst hr
  exact (current_path.profile current_pose).update_forward_le hk hkr hsign

/-- Four forward waypoints closing in on the vehicle, then one behind it. -/
def approachLane : Lane := ⟨[Waypoint.ofXY 3 0 1, Waypoint.ofXY 2 0 1, Waypoint.ofXY 1 0 1,
  Waypoint.ofXY 0 0 1, Waypoint.ofXY 1 0 1]⟩

/-- From index `1` the walk approaches twice and the scan stops at the waypoint under the
    vehicle. -/
theorem approachLane_update : updateCurrentIndex approachLane originPose 1 = some 3 :=
  updateCurrentIndex_of_update _ _ (by decide) (k := 1) (by decide) <| by
  norm_num [Profile.update, Profile.start, Profile.walk_of_lt, Profile.walk_of_not_lt,
    Profile.scan_of_lt, Profile.scan_of_not_lt, Profile.switchback, Profile.approach,
    Profile.regress, Profile.clampIdx, Profile.toNat_ofNat_lit, Lane.dist_originPose, Lane.wp,
    approachLane, Waypoint.ofXY, dblMax]

theorem approachLane_forward_nearest :
    updateCurrentIndex approachLane originPose 1 = some 3 ∧
      ∀ j, 1 ≤ j → j ≤ 3 → approachLane.dist originPose 3 ≤ approachLane.dist originPose j :=
  ⟨approachLane_update, updateCurrentIndex_forward_nearest approachLane originPose 1 3
    (by decide) (by decide) approachLane_update (by decide) fun j h1 h2 => by
      interval_cases j <;> norm_num [Lane.wp, approachLane, Waypoint.ofXY]⟩

/-! ## Where the code departs from its spec -/

/-- A switchback behind four forward waypoints on the `x` axis. -/
def backLane : Lane := ⟨[Waypoint.ofXY 0 0 (-1), Waypoint.ofXY 1 0 1, Waypoint.ofXY 2 0 1,
  Waypoint.ofXY 3 0 1, Waypoint.ofXY 4 0 1]⟩

/-- **The regression branch retreats over a switchback.**  From index `2`, the walk tests the
    pairs `(1, 2)` and `(2, 3)` ahead of it, counts two regressions and starts the scan at `0`;
    the result `0` lies across the switchback between waypoints `0` and `1`, a pair the walk never
    tested. -/
theorem updateCurrentIndex_retreats_over_switchback :
    updateCurrentIndex backLane originPose 2 = some 0 ∧
      (backLane.wp 0).velocity * (backLane.wp 1).velocity < 0 := by
  refine ⟨updateCurrentIndex_of_update _ _ (by decide) (k := 2) (by decide) ?_,
    by norm_num [backLane, Lane.wp, Waypoint.ofXY]⟩
  norm_num [Profile.update, Profile.start, Profile.walk_of_lt, Profile.walk_of_not_lt,
    Profile.scan_of_lt, Profile.scan_of_not_lt, Profile.switchback, Profile.approach,
    Profile.regress, Profile.clampIdx, Profile.toNat_ofNat_lit, Lane.dist_originPose, Lane.wp,
    backLane, Waypoint.ofXY, dblMax]

/-- Three forward waypoints closing in on the vehicle. -/
def descLane : Lane := ⟨[Waypoint.ofXY 2 0 1, Waypoint.ofXY 1 0 1, Waypoint.ofXY 0 0 1]⟩

/-- **A scan that never sees the distance rise keeps the previous index.**  From index `0` the
    walk does not run, the scan reads distances `2, 1, 0` to the end of the path, and the result
    is the previous index `0`, although waypoint `1` is closer than waypoint `0`. -/
theorem updateCurrentIndex_keeps_previous_index :
    updateCurrentIndex descLane originPose 0 = some 0 ∧
      descLane.dist originPose 1 < descLane.dist originPose 0 := by
  refine ⟨updateCurrentIndex_of_update _ _ (by decide) (k := 0) (by decide) ?_,
    by norm_num [Lane.dist_originPose, Lane.wp, descLane, Waypoint.ofXY]⟩
  norm_num [Profile.update, Profile.start, Profile.scan_of_lt, Profile.scan_of_not_lt,
    Profile.clampIdx, Lane.dist_originPose, Lane.wp, descLane, Waypoint.ofXY, dblMax]

end WaypointFollower
