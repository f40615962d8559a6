import WaypointFollower.Transform
/-
  The local heading estimator `getWaypointYaw` (lines 183–250).

  Every branch of the source turns the bearing of one segment by `π` when the speed at the
  segment's END is negative; that is one definition here, `segmentYaw`.  The interior branch
  combines the incoming and the outgoing bearing with `bisectYaw`.

  Main result: `getWaypointYaw_bisector` — at an interior index whose two effective bearings
  `b`, `f` differ by less than `π`, the estimate `y` is their angular bisector,
  `normalizeAngle (y - b) = normalizeAngle (f - y) = normalizeAngle (f - b) / 2`.
  The identity holds modulo `2π` through both normalisations; `bisectYaw_bisects` proves it for
  every pair of bearings.
-/

open Real

namespace WaypointFollower

/-- The bearing of the segment `a → b`, turned by `π` and normalised when the speed at its end `b`
    is negative (`behind_to_current_yaw`, `current_to_front_yaw` of the source). -/
noncomputable def segmentYaw (a b : Waypoint) : ℝ :=
  let yaw := atan2 (b.pose.position.y - a.pose.position.y) (b.pose.position.x - a.pose.position.x)
  if b.velocity < 0 then normalizeAngle (yaw + π) else yaw

/-- The interior heading (lines 211–219): the bisector of the two bearings when they differ by
    less than `π`, the outgoing bearing otherwise. -/
noncomputable def bisectYaw (behind_to_current_yaw current_to_front_yaw : ℝ) : ℝ :=
  let angle_diff := normalizeAngle (current_to_front_yaw - behind_to_current_yaw)
  if |angle_diff| < π then normalizeAngle (behind_to_current_yaw + angle_diff / 2)
  else current_to_front_yaw

/-- `getWaypointYaw(current_path, current_index)`; `none` is an out-of-range `waypoints[i]`.
    The last branch, a lane of one waypoint, returns `tf::getYaw` of the waypoint (NaN for a zero
    quaternion, see `Tf.getYaw?`); `getClosestIndex` returns `-1` on such a lane before it. -/
noncomputable def getWaypointYaw (current_path : Lane) (current_index : ℤ) : Option ℝ := do
  let cur ← current_path.at? current_index
  if 0 < current_index ∧ current_index < current_path.size - 1 then
    let behind ← current_path.at? (current_index - 1)
    let front ← current_path.at? (current_index + 1)
    pure (bisectYaw (segmentYaw behind cur) (segmentYaw cur front))
  else if 0 < current_index then
    let behind ← current_path.at? (current_index - 1)
    pure (segmentYaw behind cur)
  else if current_index < current_path.size - 1 then
    let front ← current_path.at? (current_index + 1)
    pure (segmentYaw cur front)
  else pure (Tf.getYaw cur.pose.orientation)

/-! ## The bisector -/

/-- The heart of the interior branch: when `|normalizeAngle (f - b)| < π` the estimate is half
    way from `b` to `f`, on both sides. -/
theorem bisectYaw_bisects {b f : ℝ} (h : |normalizeAngle (f - b)| < π) :
    normalizeAngle (bisectYaw b f - b) = normalizeAngle (f - b) / 2 ∧
      normalizeAngle (f - bisectYaw b f) = normalizeAngle (f - b) / 2 := by
  set d := normalizeAngle (f - b) with hd
  have hd1 := (abs_lt.mp h).1
  have hd2 := (abs_lt.mp h).2
  have hy : bisectYaw b f = normalizeAngle (b + d / 2) := by simp only [bisectYaw, ← hd, if_pos h]
  have hcoe : ((d : ℝ) : Angle) = f - b := by rw [hd, normalizeAngle_coe, Angle.coe_sub]
  have hhalf : ((d / 2 : ℝ) : Angle) + ((d / 2 : ℝ) : Angle) = d := by
    rw [← Angle.coe_add, add_halves]
  rw [hy]
  constructor
  · -- `y - b ≡ d / 2`
    refine normalizeAngle_eq_of_coe_eq ?_ (by linarith) (by linarith)
    rw [Angle.coe_sub, normalizeAngle_coe, Angle.coe_add]; abel
  · -- `f - y ≡ (f - b) - d / 2 = d - d / 2`
    refine normalizeAngle_eq_of_coe_eq ?_ (by linarith) (by linarith)
    rw [Angle.coe_sub, normalizeAngle_coe, Angle.coe_add, ← sub_sub, ← hcoe, ← hhalf]; abel

/-! ## The three branches -/

section
variable (l : Lane) (i : ℕ)

/-- Every index of the path has a heading: no read of `getWaypointYaw` is out of range. -/
theorem getWaypointYaw_isSome {i : ℤ} (h0 : 0 ≤ i) (hi : i < l.size) :
    (getWaypointYaw l i).isSome := by
  unfold getWaypointYaw
  rw [l.at?_eq_some h0 hi]
  simp only [Option.bind_eq_bind, Option.some_bind]
  split_ifs
  · rw [l.at?_eq_some (by omega) (by omega), l.at?_eq_some (by omega) (by omega)]; rfl
  · rw [l.at?_eq_some (by omega) (by omega)]; rfl
  · rw [l.at?_eq_some (by omega) (by omega)]; rfl
  · rfl

/-- On a path of at least two waypoints every index takes one of the three bearing branches: the
    pitch fallback `tf::getYaw` of the waypoint's own orientation is never read. -/
theorem getWaypointYaw_eq (hn : 2 ≤ l.waypoints.length) (hi : i < l.waypoints.length) :
    getWaypointYaw l i = some (if 0 < i ∧ i + 1 < l.waypoints.length then
        bisectYaw (segmentYaw (l.wp (i - 1)) (l.wp i)) (segmentYaw (l.wp i) (l.wp (i + 1)))
      else if 0 < i then segmentYaw (l.wp (i - 1)) (l.wp i)
      else segmentYaw (l.wp i) (l.wp (i + 1))) := by
  have hsize : l.size = l.waypoints.length := rfl
  have hprev : 0 < i → l.at? ((i : ℤ) - 1) = some (l.wp (i - 1)) := fun h => by
    rw [l.at?_eq_some (by omega) (by omega)]; congr; omega
  have hnext : i + 1 < l.waypoints.length → l.at? ((i : ℤ) + 1) = some (l.wp (i + 1)) :=
    fun h => by rw [l.at?_eq_some (by omega) (by omega)]; congr
  unfold getWaypointYaw
  rw [l.at?_natCast_eq_some (by omega)]
  simp only [Option.bind_eq_bind, Option.some_bind]
  by_cases h1 : 0 < i ∧ i + 1 < l.waypoints.length
  · -- interior
    rw [if_pos (by omega), hprev h1.1, hnext h1.2, if_pos h1]; rfl
  by_cases h2 : 0 < i
  · -- last
    rw [if_neg (by omega), if_pos (by omega), hprev h2, if_neg h1, if_pos h2]; rfl
  · -- first
    rw [if_neg (by omega), if_neg (by omega), if_pos (by omega), hnext (by omega), if_neg h1,
      if_neg h2]; rfl

theorem getWaypointYaw_interior (h0 : 0 < i) (hi : (i : ℤ) < l.size - 1) :
    getWaypointYaw l i = some (bisectYaw (segmentYaw (l.wp (i - 1)) (l.wp i))
      (segmentYaw (l.wp i) (l.wp (i + 1)))) := by
  have hsize : l.size = l.waypoints.length := rfl
  rw [getWaypointYaw_eq l i (by omega) (by omega), if_pos ⟨h0, by omega⟩]

end

/-- **The bisector law.**  At an interior index whose effective bearings `b` (incoming) and `f`
    (outgoing) differ by less than `π`, the estimate `y` satisfies
    `normalizeAngle (y - b) = normalizeAngle (f - y) = normalizeAngle (f - b) / 2`, so it is within
    `π / 2` of both bearings. -/
theorem getWaypointYaw_bisector (current_path : Lane) (i : ℕ) (h0 : 0 < i)
    (hi : (i : ℤ) < current_path.size - 1)
    (hdiff : |normalizeAngle (segmentYaw (current_path.wp i) (current_path.wp (i + 1)) -
      segmentYaw (current_path.wp (i - 1)) (current_path.wp i))| < π) :
    let b := segmentYaw (current_path.wp (i - 1)) (current_path.wp i)
    let f := segmentYaw (current_path.wp i) (current_path.wp (i + 1))
    ∃ y, getWaypointYaw current_path i = some y ∧
      normalizeAngle (y - b) = normalizeAngle (f - b) / 2 ∧
      normalizeAngle (f - y) = normalizeAngle (f - b) / 2 ∧
      |normalizeAngle (y - b)| < π / 2 ∧ |normalizeAngle (f - y)| < π / 2 := by
  intro b f
  obtain ⟨h1, h2⟩ := bisectYaw_bisects hdiff
  have hhalf : |normalizeAngle (f - b) / 2| < π / 2 := by rw [abs_div, abs_two]; linarith
  exact ⟨_, getWaypointYaw_interior current_path i h0 hi, h1, h2, h1 ▸ hhalf, h2 ▸ hhalf⟩

/-- The `90°` left turn of the spec: `(0, 0) → (1, 0) → (1, 1)` at speed `2`. -/
def leftTurn : Lane := ⟨[Waypoint.ofXY 0 0 2, Waypoint.ofXY 1 0 2, Waypoint.ofXY 1 1 2]⟩

/-- On the left turn the heading at the corner is `45°` from both legs. -/
theorem leftTurn_bisector :
    ∃ y, getWaypointYaw leftTurn 1 = some y ∧ normalizeAngle (y - 0) = π / 4 ∧
      normalizeAngle (π / 2 - y) = π / 4 := by
  have hb : segmentYaw (leftTurn.wp 0) (leftTurn.wp 1) = 0 := by
    simp [segmentYaw, leftTurn, Lane.wp, Waypoint.ofXY, atan2_zero_of_nonneg]
  have hf : segmentYaw (leftTurn.wp 1) (leftTurn.wp 2) = π / 2 := by
    simp [segmentYaw, leftTurn, Lane.wp, Waypoint.ofXY, atan2_of_pos_zero]
  have hd : normalizeAngle (π / 2 - 0) = π / 2 := by
    rw [sub_zero]; exact normalizeAngle_of_mem (by linarith [pi_pos]) (by linarith [pi_pos])
  have h := getWaypointYaw_bisector leftTurn 1 one_pos (by simp [Lane.size, leftTurn])
    (by rw [hb, hf, hd, abs_of_pos (by positivity)]; linarith [pi_pos])
  simp only [hb, hf, hd] at h
  obtain ⟨y, hy, h1, h2, -⟩ := h
  exact ⟨y, hy, by rw [h1]; ring, by rw [h2]; ring⟩

end WaypointFollower
