import Mathlib.Data.Real.Basic
import Mathlib.Order.Basic
/-
  Data model of `libwaypoint_follower`: the message types the library reads
  (`geometry_msgs::Point`, `Quaternion`, `Pose`, `autoware_msgs::Waypoint`, `Lane`) with a real
  number for every `double` field, and the two ways the source reads a waypoint.

  * `Lane.at?` is `current_path.waypoints.at(i)` (and the unchecked `waypoints[i]`): `none` stands
    for the `std::out_of_range` throw (for `[]`, for undefined behaviour).  Every model function
    that reads a waypoint goes through it and returns an `Option`, so "no access is out of range"
    is a theorem about the result, not an assumption of the model.
  * `Lane.wp` is the total read used by the proofs (the default waypoint out of range); the two
    agree in range (`Lane.at?_eq_some`).

  Only the fields the library reads are kept: a waypoint's `pose.pose` and its
  `twist.twist.linear.x`, the signed target speed.  `int` indices are unbounded integers: the
  `static_cast<int>(size())` of the source is exact below `2^31` waypoints.
-/

namespace WaypointFollower

/-- `geometry_msgs::Point`; also stands for `tf::Vector3` and `Eigen::Vector3d`. -/
structure Point where
  x : ℝ
  y : ℝ
  z : ℝ
  deriving Inhabited

/-- `geometry_msgs::Quaternion`, in message order `(x, y, z, w)`. -/
structure Quaternion where
  x : ℝ
  y : ℝ
  z : ℝ
  w : ℝ
  deriving Inhabited

/-- `geometry_msgs::Pose`. -/
structure Pose where
  position : Point
  orientation : Quaternion
  deriving Inhabited

/-- `autoware_msgs::Waypoint`, reduced to `pose.pose` and `twist.twist.linear.x` (`velocity`). -/
structure Waypoint where
  pose : Pose
  velocity : ℝ
  deriving Inhabited

/-- A waypoint at `(x, y)` on the ground with identity orientation and speed `v`. -/
def Waypoint.ofXY (x y v : ℝ) : Waypoint := ⟨⟨⟨x, y, 0⟩, ⟨0, 0, 0, 1⟩⟩, v⟩

/-- The pose at the map origin facing `+x`. -/
def originPose : Pose := ⟨⟨0, 0, 0⟩, ⟨0, 0, 0, 1⟩⟩

/-- A vehicle at `(1, 2)` turned about the vertical axis by the unit quaternion `(0, 0, 3/5, 4/5)`,
    the turn with `cos θ = 7/25` and `sin θ = 24/25`. -/
noncomputable def movedPose : Pose := ⟨⟨1, 2, 0⟩, ⟨0, 0, 3 / 5, 4 / 5⟩⟩

/-- `autoware_msgs::Lane`, reduced to its `waypoints`. -/
structure Lane where
  waypoints : List Waypoint

/-- `std::numeric_limits<double>::max()` (`DBL_MAX`), the seed of the source's running minima. -/
noncomputable def dblMax : ℝ := (2 ^ 53 - 1) * 2 ^ 971

theorem dblMax_pos : 0 < dblMax := by
  have : (1 : ℝ) < 2 ^ 53 := one_lt_pow₀ (by norm_num) (by norm_num)
  exact mul_pos (sub_pos.mpr this) (pow_pos two_pos _)

namespace Lane

/-- `static_cast<int>(current_path.waypoints.size())`. -/
def size (l : Lane) : ℤ := l.waypoints.length

/-- `current_path.waypoints.at(i)`: `none` is the out-of-range throw. -/
def at? (l : Lane) (i : ℤ) : Option Waypoint :=
  if 0 ≤ i then l.waypoints[i.toNat]? else none

/-- The waypoint at `i`, the default waypoint out of range. -/
def wp (l : Lane) (i : ℕ) : Waypoint := l.waypoints.getD i default

theorem at?_eq_some (l : Lane) {i : ℤ} (h0 : 0 ≤ i) (hi : i < l.size) :
    l.at? i = some (l.wp i.toNat) := by
  have : i.toNat < l.waypoints.length := by unfold size at hi; omega
  simp [at?, wp, h0, this]

theorem at?_natCast_eq_some (l : Lane) {i : ℕ} (hi : (i : ℤ) < l.size) :
    l.at? i = some (l.wp i) := by
  simpa using l.at?_eq_some (Int.natCast_nonneg i) hi

end Lane

end WaypointFollower
