import WaypointFollower.FrameInvariance
/-
  The direction of travel of a lane (lines 252–325) and `WayPoints::inDrivingDirection`
  (lines 92–97).

  * `getLaneDirectionByVelocity` scans the waypoints for the first speed of magnitude at least
    `0.01` and reports its sign; `getLaneDirectionByPosition` scans consecutive pairs for the
    first whose relative `x` (the next waypoint in the frame of the previous one) has magnitude
    at least `1e-3`.  Both loops `continue` past an indecisive element and `break` on the first
    decisive one, each a recursion over the list here.
  * `getLaneDirection` combines the two: `Error` when they decide and disagree, otherwise the
    decision of whichever decided.
  * The relative `x` of a point in the frame of a pose is the projection of the offset on the
    first column of the pose's rotation (`calcRelativeCoordinate_x`), which a rigid motion of the
    frame keeps once the pose's quaternion is nonzero (`calcRelativeCoordinate_x_point`).  So both
    loops read the same values after a motion, and the lane direction and the driving-direction
    test are frame independent (`inDrivingDirection_lane`).
-/

open Real

namespace WaypointFollower

/-- `LaneDirection`. -/
inductive LaneDirection
  | Forward
  | Backward
  | Error
  deriving DecidableEq, Repr

/-- The direction a decisive signed value reports: `(v < 0) ? Backward : Forward`. -/
noncomputable def signDirection (v : ℝ) : LaneDirection :=
  if v < 0 then .Backward else .Forward

/-- The loop of `getLaneDirectionByVelocity` over the remaining waypoints. -/
noncomputable def velocityDirection : List Waypoint → LaneDirection
  | [] => .Error
  | waypoint :: rest =>
    let vel := waypoint.velocity
    if |vel| < 0.01 then velocityDirection rest else signDirection vel

/-- `getLaneDirectionByVelocity(current_path)`. -/
noncomputable def getLaneDirectionByVelocity (current_path : Lane) : LaneDirection :=
  velocityDirection current_path.waypoints

/-- The relative `x` the positional loop reads: `next` in the frame of `prev`. -/
noncomputable def relativeX (prev next : Waypoint) : ℝ :=
  (calcRelativeCoordinate next.pose.position prev.pose).x

/-- The loop of `getLaneDirectionByPosition` over the remaining consecutive pairs. -/
noncomputable def positionalDirection : List Waypoint → LaneDirection
  | prev :: next :: rest =>
    let rlt_x := relativeX prev next
    if |rlt_x| < 1e-3 then positionalDirection (next :: rest) else signDirection rlt_x
  | _ => .Error

/-- `getLaneDirectionByPosition(current_path)`. -/
noncomputable def getLaneDirectionByPosition (current_path : Lane) : LaneDirection :=
  if current_path.waypoints.length < 2 then .Error else positionalDirection current_path.waypoints

/-- `getLaneDirection(current_path)`. -/
noncomputable def getLaneDirection (current_path : Lane) : LaneDirection :=
  let pos_ret := getLaneDirectionByPosition current_path
  let vel_ret := getLaneDirectionByVelocity current_path
  let is_conflict := pos_ret ≠ vel_ret ∧ pos_ret ≠ .Error ∧ vel_ret ≠ .Error
  if is_conflict then .Error else if pos_ret ≠ .Error then pos_ret else vel_ret

/-- `WayPoints::inDrivingDirection(waypoint, current_pose)` on the lane `current_waypoints_`;
    `none` is an out-of-range `waypoints[waypoint]`. -/
noncomputable def inDrivingDirection (current_waypoints : Lane) (waypoint : ℤ)
    (current_pose : Pose) : Option Bool := do
  let dir := getLaneDirection current_waypoints
  let wp ← current_waypoints.at? waypoint
  let x := (calcRelativeCoordinate wp.pose.position current_pose).x
  pure (decide ((x < 0 ∧ dir = .Backward) ∨ (x ≥ 0 ∧ dir = .Forward)))

/-! ## Frame independence -/

/-- The relative `x` of `p` in the frame of `pose` is the offset `p - t` projected on the first
    column of the pose's rotation. -/
theorem calcRelativeCoordinate_x (p : Point) (pose : Pose) :
    (calcRelativeCoordinate p pose).x =
      (Matrix3x3.ofQuaternion pose.orientation).r0.x * (p.x - pose.position.x) +
        (Matrix3x3.ofQuaternion pose.orientation).r1.x * (p.y - pose.position.y) +
        (Matrix3x3.ofQuaternion pose.orientation).r2.x * (p.z - pose.position.z) := by
  simp only [calcRelativeCoordinate, Transform.inverse, Transform.apply, poseMsgToTF,
    Matrix3x3.mulVec, Matrix3x3.transpose, Point.dot, Point.add, Point.neg]
  ring

namespace PlaneMotion

variable (g : PlaneMotion)

/-- A motion keeps the relative `x` of a point in the frame of a pose with a nonzero
    quaternion. -/
theorem calcRelativeCoordinate_x_point (p : Point) {pose : Pose}
    (hq : pose.orientation.length2 ≠ 0) :
    (calcRelativeCoordinate (g.point p) (g.pose pose)).x = (calcRelativeCoordinate p pose).x := by
  obtain ⟨h0, h1, h2⟩ := g.ofQuaternion_quaternion hq
  rw [calcRelativeCoordinate_x, calcRelativeCoordinate_x]
  simp only [PlaneMotion.pose, point, h0, h1, h2]
  linear_combination ((Matrix3x3.ofQuaternion pose.orientation).r0.x * (p.x - pose.position.x) +
    (Matrix3x3.ofQuaternion pose.orientation).r1.x * (p.y - pose.position.y)) *
    sin_sq_add_cos_sq g.θ

theorem velocityDirection_map (ws : List Waypoint) :
    velocityDirection (ws.map g.waypoint) = velocityDirection ws := by
  induction ws with
  | nil => rfl
  | cons w ws ih => simp only [List.map_cons, velocityDirection, waypoint, ih]

theorem positionalDirection_map (ws : List Waypoint)
    (hq : ∀ w ∈ ws, w.pose.orientation.length2 ≠ 0) :
    positionalDirection (ws.map g.waypoint) = positionalDirection ws := by
  induction ws with
  | nil => rfl
  | cons a ws ih =>
    cases ws with
    | nil => rfl
    | cons b ws =>
      have hx : relativeX (g.waypoint a) (g.waypoint b) = relativeX a b :=
        g.calcRelativeCoordinate_x_point _ (hq a (List.mem_cons_self a _))
      simp only [List.map_cons, positionalDirection, hx]
      rw [← List.map_cons, ih fun w hw => hq w (List.mem_cons_of_mem a hw)]

/-- **The lane direction is frame independent** when every waypoint's quaternion is nonzero. -/
theorem getLaneDirection_lane (l : Lane) (hq : ∀ w ∈ l.waypoints, w.pose.orientation.length2 ≠ 0) :
    getLaneDirection (g.lane l) = getLaneDirection l := by
  have hpos : getLaneDirectionByPosition (g.lane l) = getLaneDirectionByPosition l := by
    simp only [getLaneDirectionByPosition, lane_length]
    split_ifs
    · rfl
    · exact g.positionalDirection_map _ hq
  have hvel : getLaneDirectionByVelocity (g.lane l) = getLaneDirectionByVelocity l :=
    g.velocityDirection_map _
  simp only [getLaneDirection, hpos, hvel]

/-- **The lane direction and the driving-direction test are frame independent** for a vehicle
    and waypoints whose quaternions are nonzero. -/
theorem inDrivingDirection_lane (l : Lane) (i : ℤ) {current_pose : Pose}
    (hq : ∀ w ∈ l.waypoints, w.pose.orientation.length2 ≠ 0)
    (hv : current_pose.orientation.length2 ≠ 0) :
    getLaneDirection (g.lane l) = getLaneDirection l ∧
      inDrivingDirection (g.lane l) i (g.pose current_pose) =
        inDrivingDirection l i current_pose := by
  have hat : (g.lane l).at? i = (l.at? i).map g.waypoint := by
    simp only [Lane.at?, lane]
    split_ifs <;> simp
  refine ⟨g.getLaneDirection_lane l hq, ?_⟩
  simp only [inDrivingDirection, g.getLaneDirection_lane l hq, hat]
  cases l.at? i with
  | none => rfl
  | some w =>
    simp only [Option.map_some', Option.bind_eq_bind, Option.some_bind,
      show (g.waypoint w).pose.position = g.point w.pose.position from rfl,
      g.calcRelativeCoordinate_x_point _ hv]

end PlaneMotion

theorem leftTurn_inDrivingDirection_quarterTurn :
    getLaneDirection (quarterTurn.lane leftTurn) = getLaneDirection leftTurn ∧
      inDrivingDirection (quarterTurn.lane leftTurn) 2 (quarterTurn.pose turnedPose) =
        inDrivingDirection leftTurn 2 turnedPose :=
  PlaneMotion.inDrivingDirection_lane quarterTurn leftTurn 2
    (by simp [leftTurn, Waypoint.ofXY, Quaternion.length2])
    (by norm_num [turnedPose, Quaternion.length2])

end WaypointFollower
