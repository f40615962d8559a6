import WaypointFollower.Curvature
import WaypointFollower.Planar
/-
  The planar functions in a moved map frame: `findClosestIdxWithDistAngThr` (lines 588–615),
  `transformToRelativeCoordinate2D` (lines 678–695), `calcCurvature` (lines 524–537),
  `isDirectionForward` (lines 624–629) and `calcLateralError2D` (lines 546–554).

  Off tf2's pitch band a rigid motion of the map frame turns every yaw tf2 reads by its angle
  (`PlaneMotion.getYaw2_quaternion`); inside the band the yaw `-2 atan2(q.y, q.x)` turns the
  other way.  The heading gate of the closest-pose search compares differences of yaws through
  `|normalizeAngle|`, which sees them only modulo `2π` (`abs_normalizeAngle_congr`), and its
  distance gate planar distances, so the search does not depend on the map frame
  (`PlaneMotion.findClosestIdxWithDistAngThr_pose`).  For the same reason the 2D frame change is
  frame independent (`PlaneMotion.transformToRelativeCoordinate2D_point`), and so are the
  pure-pursuit curvature (`PlaneMotion.calcCurvature_pose`) and the forward test
  (`PlaneMotion.isDirectionForward_map`).  The lateral error reads no yaw: a motion turns both of
  its vectors alike, which keeps the length of the one and their cross product, whatever the
  orientations (`PlaneMotion.calcLateralError2D_point`).
-/

open Real

namespace WaypointFollower

/-- The absolute normalised angle sees its argument only modulo `2π`. -/
theorem abs_normalizeAngle_congr {x y : ℝ} (h : (x : Angle) = y) :
    |normalizeAngle x| = |normalizeAngle y| := by
  rw [abs_normalizeAngle_eq_arccos, abs_normalizeAngle_eq_arccos, ← Angle.cos_coe, h,
    Angle.cos_coe]

namespace PlaneMotion

variable (g : PlaneMotion)

theorem calcDistSquared2D_point (p q : Point) :
    calcDistSquared2D (g.point p) (g.point q) = calcDistSquared2D p q := by
  simp only [calcDistSquared2D, point]
  linear_combination ((p.x - q.x) ^ 2 + (p.y - q.y) ^ 2) * sin_sq_add_cos_sq g.θ

/-- Off tf2's pitch band, a motion turns the yaw `tf2::getYaw` reads by `θ`, modulo `2π`. -/
theorem getYaw2_quaternion {q : Quaternion} (hq : q.length2 ≠ 0)
    (hs : |(Matrix3x3.ofQuaternion q).r2.x| < 0.99999) :
    (Tf2.getYaw (g.quaternion q) : Angle) = Tf2.getYaw q + g.θ := by
  obtain ⟨h0, h1, h2⟩ := g.ofQuaternion_quaternion hq
  have hq' : (g.quaternion q).length2 ≠ 0 := by rwa [g.length2_quaternion]
  have hs' : |(Matrix3x3.ofQuaternion (g.quaternion q)).r2.x| < 0.99999 := by rwa [h2]
  -- the heading's shadow is a nonzero vector, which the motion turns by `θ`
  have hne : (Matrix3x3.ofQuaternion q).r0.x ≠ 0 ∨ (Matrix3x3.ofQuaternion q).r1.x ≠ 0 := by
    by_contra! h
    have hc := shadow_pos hq hs
    rw [h.1, h.2] at hc
    norm_num at hc
  rw [Tf2.getYaw_of_abs_lt hq' hs', Tf2.getYaw_of_abs_lt hq hs, h0, h1]
  exact atan2_rotate hne g.θ

/-- Off tf2's pitch band, a motion keeps the coordinates of a point in the planar frame of a
    pose. -/
theorem transformToRelativeCoordinate2D_point (p : Point) {pose : Pose}
    (hq : pose.orientation.length2 ≠ 0)
    (hs : |(Matrix3x3.ofQuaternion pose.orientation).r2.x| < 0.99999) :
    transformToRelativeCoordinate2D (g.point p) (g.pose pose) =
      transformToRelativeCoordinate2D p pose := by
  have hY := g.getYaw2_quaternion hq hs
  have hcos : cos (Tf2.getYaw (g.quaternion pose.orientation)) =
      cos (Tf2.getYaw pose.orientation + g.θ) := by
    rw [← Angle.cos_coe, hY, ← Angle.coe_add, Angle.cos_coe]
  have hsin : sin (Tf2.getYaw (g.quaternion pose.orientation)) =
      sin (Tf2.getYaw pose.orientation + g.θ) := by
    rw [← Angle.sin_coe, hY, ← Angle.coe_add, Angle.sin_coe]
  simp only [transformToRelativeCoordinate2D, PlaneMotion.pose, point, hcos, hsin, cos_add, sin_add,
    Point.mk.injEq, and_true]
  constructor
  · linear_combination (cos (Tf2.getYaw pose.orientation) * (p.x - pose.position.x) +
      sin (Tf2.getYaw pose.orientation) * (p.y - pose.position.y)) * sin_sq_add_cos_sq g.θ
  · linear_combination (-sin (Tf2.getYaw pose.orientation) * (p.x - pose.position.x) +
      cos (Tf2.getYaw pose.orientation) * (p.y - pose.position.y)) * sin_sq_add_cos_sq g.θ

/-- **The closest-pose search does not depend on the map frame.**  For poses whose quaternions
    are nonzero and off tf2's pitch band, moving the vehicle and every candidate pose by one rigid
    motion of the map frame leaves `findClosestIdxWithDistAngThr` unchanged. -/
theorem findClosestIdxWithDistAngThr_pose (curr_ps : List Pose) (curr_pose : Pose)
    (dist_thr angle_thr : ℝ)
    (hq : ∀ p ∈ curr_pose :: curr_ps,
      p.orientation.length2 ≠ 0 ∧ |(Matrix3x3.ofQuaternion p.orientation).r2.x| < 0.99999) :
    findClosestIdxWithDistAngThr (curr_ps.map g.pose) (g.pose curr_pose) dist_thr angle_thr =
      findClosestIdxWithDistAngThr curr_ps curr_pose dist_thr angle_thr := by
  have hget : ∀ i < curr_ps.length,
      (curr_ps.map g.pose).getD i default = g.pose (curr_ps.getD i default) := fun i hi => by
    rw [List.getD_eq_getElem _ _ (by rwa [List.length_map]), List.getD_eq_getElem _ _ hi,
      List.getElem_map]
  have hv : ∀ i < curr_ps.length,
      distSqAt (curr_ps.map g.pose) (g.pose curr_pose) i = distSqAt curr_ps curr_pose i :=
    fun i hi => by simp only [distSqAt, hget i hi, pose, g.calcDistSquared2D_point]
  have hp : ∀ i < curr_ps.length,
      passesThr (curr_ps.map g.pose) (g.pose curr_pose) dist_thr angle_thr i ↔
        passesThr curr_ps curr_pose dist_thr angle_thr i := fun i hi => by
    obtain ⟨hq0, hs0⟩ := hq curr_pose (List.mem_cons_self _ _)
    obtain ⟨hqi, hsi⟩ := hq (curr_ps.getD i default)
      (List.mem_cons_of_mem _ (List.getD_eq_getElem _ _ hi ▸ List.getElem_mem hi))
    -- the two yaws turn alike, so their difference is kept modulo `2π`
    have hyaw : |normalizeAngle (Tf2.getYaw (g.pose curr_pose).orientation -
        Tf2.getYaw ((curr_ps.map g.pose).getD i default).orientation)| =
        |normalizeAngle (Tf2.getYaw curr_pose.orientation -
          Tf2.getYaw (curr_ps.getD i default).orientation)| := by
      rw [hget i hi]
      apply abs_normalizeAngle_congr
      rw [Angle.coe_sub, Angle.coe_sub, pose, pose, g.getYaw2_quaternion hq0 hs0,
        g.getYaw2_quaternion hqi hsi]
      abel
    simp only [passesThr, hv i hi, hyaw]
  rw [findClosestIdxWithDistAngThr_eq, findClosestIdxWithDistAngThr_eq, List.length_map,
    runMin_congr (distSqAt curr_ps curr_pose) (passesThr curr_ps curr_pose dist_thr angle_thr)
      dblMax hv hp]

/-- The vehicle and the poses of `threePoses` turn about the vertical axis only. -/
theorem threePoses_off_band : ∀ p ∈ movedPose :: threePoses,
    p.orientation.length2 ≠ 0 ∧ |(Matrix3x3.ofQuaternion p.orientation).r2.x| < 0.99999 := by
  intro p hp
  simp only [threePoses, List.mem_cons, List.mem_singleton, List.not_mem_nil, or_false] at hp
  rcases hp with rfl | rfl | rfl | rfl <;>
    exact off_band_of_pure rfl rfl (by norm_num [movedPose, Quaternion.length2])

theorem threePoses_findClosestIdxWithDistAngThr_pose :
    (∀ p ∈ movedPose :: threePoses,
      p.orientation.length2 ≠ 0 ∧ |(Matrix3x3.ofQuaternion p.orientation).r2.x| < 0.99999) ∧
      findClosestIdxWithDistAngThr (threePoses.map quarterTurn.pose) (quarterTurn.pose movedPose)
          5 1 =
        findClosestIdxWithDistAngThr threePoses movedPose 5 1 :=
  ⟨threePoses_off_band,
    PlaneMotion.findClosestIdxWithDistAngThr_pose _ threePoses movedPose 5 1 threePoses_off_band⟩

/-- **The curvature command does not depend on the map frame.**  Off tf2's pitch band, moving the
    target and the vehicle by one rigid motion of the map frame leaves `calcCurvature`
    unchanged. -/
theorem calcCurvature_pose (target : Point) (curr_pose : Pose)
    (hq : curr_pose.orientation.length2 ≠ 0)
    (hs : |(Matrix3x3.ofQuaternion curr_pose.orientation).r2.x| < 0.99999) :
    calcCurvature (g.point target) (g.pose curr_pose) = calcCurvature target curr_pose := by
  simp only [calcCurvature, calcRadius, g.transformToRelativeCoordinate2D_point _ hq hs]
  rw [PlaneMotion.pose, g.calcDistSquared2D_point]

theorem movedPose_calcCurvature_pose :
    (movedPose.orientation.length2 ≠ 0 ∧
        |(Matrix3x3.ofQuaternion movedPose.orientation).r2.x| < 0.99999) ∧
      calcCurvature (quarterTurn.point ⟨3, -1, 0⟩) (quarterTurn.pose movedPose) =
        calcCurvature ⟨3, -1, 0⟩ movedPose := by
  have h := threePoses_off_band movedPose (List.mem_cons_self _ _)
  exact ⟨h, PlaneMotion.calcCurvature_pose _ ⟨3, -1, 0⟩ movedPose h.1 h.2⟩

/-- **The forward test does not depend on the map frame**, for poses off tf2's pitch band. -/
theorem isDirectionForward_map (poses : List Pose)
    (hq : ∀ p ∈ poses,
      p.orientation.length2 ≠ 0 ∧ |(Matrix3x3.ofQuaternion p.orientation).r2.x| < 0.99999) :
    isDirectionForward (poses.map g.pose) = isDirectionForward poses := by
  match poses, hq with
  | [], _ | [_], _ | [_, _], _ => simp only [isDirectionForward, List.map_cons, List.map_nil,
      List.getElem?_cons_succ, List.getElem?_nil, Option.bind_eq_bind, Option.none_bind]
  | p0 :: p1 :: p2 :: rest, hq =>
    obtain ⟨hq1, hs1⟩ := hq p1 (by simp)
    simp only [isDirectionForward, List.map_cons, List.getElem?_cons_succ,
      List.getElem?_cons_zero, Option.bind_eq_bind, Option.some_bind]
    rw [PlaneMotion.pose, g.transformToRelativeCoordinate2D_point _ hq1 hs1]

theorem threePoses_isDirectionForward_map :
    (∀ p ∈ threePoses,
      p.orientation.length2 ≠ 0 ∧ |(Matrix3x3.ofQuaternion p.orientation).r2.x| < 0.99999) ∧
      isDirectionForward (threePoses.map quarterTurn.pose) = isDirectionForward threePoses := by
  have h : ∀ p ∈ threePoses,
      p.orientation.length2 ≠ 0 ∧ |(Matrix3x3.ofQuaternion p.orientation).r2.x| < 0.99999 :=
    fun p hp => threePoses_off_band p (List.mem_cons_of_mem _ hp)
  exact ⟨h, PlaneMotion.isDirectionForward_map _ _ h⟩

/-- **The lateral error does not depend on the map frame.**  Moving the segment and the point by
    one rigid motion of the map frame leaves `calcLateralError2D` unchanged. -/
theorem calcLateralError2D_point (line_s line_e point : Point) :
    calcLateralError2D (g.point line_s) (g.point line_e) (g.point point) =
      calcLateralError2D line_s line_e point := by
  have hcs := sin_sq_add_cos_sq g.θ
  have hlen : ((g.point line_e).x - (g.point line_s).x) ^ 2 +
      ((g.point line_e).y - (g.point line_s).y) ^ 2 + (0 : ℝ) ^ 2 =
      (line_e.x - line_s.x) ^ 2 + (line_e.y - line_s.y) ^ 2 + (0 : ℝ) ^ 2 := by
    simp only [PlaneMotion.point]
    linear_combination ((line_e.x - line_s.x) ^ 2 + (line_e.y - line_s.y) ^ 2) * hcs
  have hcross :
      ((g.point line_e).x - (g.point line_s).x) * ((g.point point).y - (g.point line_s).y) -
        ((g.point line_e).y - (g.point line_s).y) * ((g.point point).x - (g.point line_s).x) =
      (line_e.x - line_s.x) * (point.y - line_s.y) -
        (line_e.y - line_s.y) * (point.x - line_s.x) := by
    simp only [PlaneMotion.point]
    linear_combination ((line_e.x - line_s.x) * (point.y - line_s.y) -
      (line_e.y - line_s.y) * (point.x - line_s.x)) * hcs
  simp only [calcLateralError2D]
  rw [hlen, hcross]

end PlaneMotion

end WaypointFollower
