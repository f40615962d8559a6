import WaypointFollower.MinSearch
import WaypointFollower.Transform
/-
  `findClosestIdxWithDistAngThr` (lines 588–615) and `calcDistSquared2D` (lines 539–544).

  The loop is the running minimum of `MinSearch` over the squared planar distances, seeded with
  `DBL_MAX`, behind two `continue` filters: the squared distance at most `dist_thr * dist_thr`,
  and the yaw difference `normalizeAngle(yaw(pose) - yaw(ps[i]))` at most `angle_thr` in absolute
  value, both yaws read by `tf2::getYaw`.  `findClosestIdxWithDistAngThr_eq` turns the model, with
  its `Option` reads, into one pass of `runMin`, and `findClosestIdxWithDistAngThr_spec` reads the
  pair it returns: `(true, i)` for the first minimiser over the poses passing both filters, and
  `(false, -1)` exactly when no pose passes.
-/

open Real

namespace WaypointFollower

/-- `calcDistSquared2D(p, q)`. -/
def calcDistSquared2D (p q : Point) : ℝ :=
  let dx := p.x - q.x
  let dy := p.y - q.y
  dx * dx + dy * dy

/-- The body of the loop at index `i` (lines 596–611); `curr_ps.at(i)` is `curr_ps[i]?`, read
    once for the position and once for the orientation. -/
noncomputable def closestIdxStep (curr_ps : List Pose) (curr_pose : Pose) (dist_thr angle_thr : ℝ)
    (s : ℝ × ℤ) (i : ℕ) : Option (ℝ × ℤ) := do
  let p ← curr_ps[i]?
  let ds := calcDistSquared2D p.position curr_pose.position
  if ds > dist_thr * dist_thr then pure s else do
  let yaw_pose := Tf2.getYaw curr_pose.orientation
  let q ← curr_ps[i]?
  let yaw_ps := Tf2.getYaw q.orientation
  let yaw_diff := normalizeAngle (yaw_pose - yaw_ps)
  if |yaw_diff| > angle_thr then pure s else
  pure (if ds < s.1 then (ds, (i : ℤ)) else s)

/-- `findClosestIdxWithDistAngThr(curr_ps, curr_pose, dist_thr, angle_thr)`. -/
noncomputable def findClosestIdxWithDistAngThr (curr_ps : List Pose) (curr_pose : Pose)
    (dist_thr angle_thr : ℝ) : Option (Bool × ℤ) := do
  let s ← (List.range curr_ps.length).foldlM
    (closestIdxStep curr_ps curr_pose dist_thr angle_thr) (dblMax, -1)
  let idx_min := s.2
  pure (if idx_min ≥ 0 then (true, idx_min) else (false, idx_min))

/-! ## The filters and the pass -/

section
variable (curr_ps : List Pose) (curr_pose : Pose) (dist_thr angle_thr : ℝ)

/-- The squared planar distance from pose `i` to the vehicle. -/
def distSqAt (i : ℕ) : ℝ :=
  calcDistSquared2D (curr_ps.getD i default).position curr_pose.position

/-- Pose `i` passes both filters of the loop. -/
def passesThr (i : ℕ) : Prop :=
  distSqAt curr_ps curr_pose i ≤ dist_thr * dist_thr ∧
    |normalizeAngle (Tf2.getYaw curr_pose.orientation -
      Tf2.getYaw (curr_ps.getD i default).orientation)| ≤ angle_thr

noncomputable instance : DecidablePred (passesThr curr_ps curr_pose dist_thr angle_thr) :=
  fun _ => inferInstanceAs (Decidable (_ ∧ _))

/-- The loop is one pass of the running minimum over the poses passing both filters. -/
theorem findClosestIdxWithDistAngThr_eq :
    findClosestIdxWithDistAngThr curr_ps curr_pose dist_thr angle_thr =
      let idx_min := (runMin (distSqAt curr_ps curr_pose)
        (passesThr curr_ps curr_pose dist_thr angle_thr) dblMax curr_ps.length).2
      some (if idx_min ≥ 0 then (true, idx_min) else (false, idx_min)) := by
  have hstep : ∀ s, ∀ i ∈ List.range curr_ps.length,
      closestIdxStep curr_ps curr_pose dist_thr angle_thr s i =
        some (minStep (distSqAt curr_ps curr_pose i)
          (passesThr curr_ps curr_pose dist_thr angle_thr i) i s) := by
    intro s i hi
    have hget : curr_ps[i]? = some (curr_ps.getD i default) := by
      simp [List.getD_eq_getElem?_getD, List.getElem?_eq_getElem (List.mem_range.mp hi)]
    simp only [closestIdxStep, hget, Option.bind_eq_bind, Option.some_bind, Option.pure_def,
      minStep, passesThr, distSqAt, gt_iff_lt]
    set ds := calcDistSquared2D (curr_ps.getD i default).position curr_pose.position
    by_cases h1 : dist_thr * dist_thr < ds
    · -- the distance filter skips `i`
      rw [if_pos h1, if_neg fun h => h1.not_le h.2.1]
    by_cases h2 : angle_thr < |normalizeAngle (Tf2.getYaw curr_pose.orientation -
        Tf2.getYaw (curr_ps.getD i default).orientation)|
    · -- the heading filter skips `i`
      rw [if_neg h1, if_pos h2, if_neg fun h => h2.not_le h.2.2]
    · -- both filters pass: the plain running-minimum update
      rw [if_neg h1, if_neg h2]
      simp only [not_lt.mp h1, not_lt.mp h2, and_true]
  rw [findClosestIdxWithDistAngThr, foldlM_eq_some _ _ hstep]
  rfl

/-- **The closest pose within both thresholds.**  When every pose passing both filters is closer
    than `DBL_MAX` (squared), the function returns `(true, i)` for the first index minimising the
    squared distance among the poses passing both filters when there is one, and `(false, -1)`
    exactly when no pose passes. -/
theorem findClosestIdxWithDistAngThr_spec
    (hd : ∀ i < curr_ps.length, passesThr curr_ps curr_pose dist_thr angle_thr i →
      distSqAt curr_ps curr_pose i < dblMax) :
    ∃ res, findClosestIdxWithDistAngThr curr_ps curr_pose dist_thr angle_thr = some res ∧
      ((∃ i < curr_ps.length, passesThr curr_ps curr_pose dist_thr angle_thr i) →
        ∃ r : ℕ, res = (true, (r : ℤ)) ∧
          IsFirstArgmin (passesThr curr_ps curr_pose dist_thr angle_thr)
            (distSqAt curr_ps curr_pose) curr_ps.length r) ∧
      (res = (false, -1) ↔
        ¬∃ i < curr_ps.length, passesThr curr_ps curr_pose dist_thr angle_thr i) := by
  rw [findClosestIdxWithDistAngThr_eq]
  rcases runMin_spec (distSqAt curr_ps curr_pose) (passesThr curr_ps curr_pose dist_thr angle_thr)
    dblMax curr_ps.length with ⟨hnone, hs⟩ | ⟨r, hs, hr⟩
  · -- no pose passes below the seed, hence none passes
    have hnone' : ¬∃ i < curr_ps.length, passesThr curr_ps curr_pose dist_thr angle_thr i :=
      fun ⟨i, hi, hp⟩ => hnone ⟨i, hi, hd i hi hp, hp⟩
    refine ⟨_, rfl, fun h => absurd h hnone', ?_⟩
    simp only [hs]
    exact iff_of_true rfl hnone'
  · -- the first minimiser below the seed is the first minimiser over the passing poses
    refine ⟨_, rfl, fun _ => ⟨r, by simp [hs], hr.of_seed⟩, ?_⟩
    simp only [hs, ge_iff_le, Nat.cast_nonneg, if_true]
    exact iff_of_false (by simp) (not_not.mpr ⟨r, hr.lt, hr.mem.2⟩)

end

/-- Three poses on the `x` axis; the one under the vehicle faces backwards. -/
def threePoses : List Pose :=
  [⟨⟨0, 0, 0⟩, ⟨0, 0, 1, 0⟩⟩, ⟨⟨1, 0, 0⟩, ⟨0, 0, 0, 1⟩⟩, ⟨⟨3, 0, 0⟩, ⟨0, 0, 0, 1⟩⟩]

theorem threePoses_findClosestIdx :
    ∃ res, findClosestIdxWithDistAngThr threePoses originPose 5 1 = some res ∧
      ((∃ i < 3, passesThr threePoses originPose 5 1 i) →
        ∃ r : ℕ, res = (true, (r : ℤ)) ∧
          IsFirstArgmin (passesThr threePoses originPose 5 1) (distSqAt threePoses originPose)
            3 r) ∧
      (res = (false, -1) ↔ ¬∃ i < 3, passesThr threePoses originPose 5 1 i) :=
  findClosestIdxWithDistAngThr_spec threePoses originPose 5 1 fun i hi _ => by
    have hi : i < 3 := hi
    interval_cases i <;> norm_num [distSqAt, calcDistSquared2D, threePoses, originPose, dblMax]

end WaypointFollower
