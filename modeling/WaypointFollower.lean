import WaypointFollower.Basic
import WaypointFollower.Geometry
import WaypointFollower.Doubles
import WaypointFollower.Transform
import WaypointFollower.WaypointYaw
import WaypointFollower.MinSearch
import WaypointFollower.ClosestIndex
import WaypointFollower.Tracker.Profile
import WaypointFollower.Tracker.Model
import WaypointFollower.Tracker.Contract
import WaypointFollower.Tracker.Convergence
import WaypointFollower.ClosestPose
import WaypointFollower.Motion
import WaypointFollower.FrameInvariance
import WaypointFollower.LaneDirection
import WaypointFollower.Line
import WaypointFollower.WayPoints
import WaypointFollower.Transform2D
import WaypointFollower.Curvature
import WaypointFollower.RelativeAngle
import WaypointFollower.RelativePose
import WaypointFollower.Planar
import WaypointFollower.PlanarInvariance
