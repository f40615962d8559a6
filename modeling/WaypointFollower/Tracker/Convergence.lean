import WaypointFollower.Tracker.Contract
/-
  Repeated calls of `updateCurrentIndex` under one fixed pose, each fed the previous call's
  result (`feedback`).

  The calls need not settle within one extra call: on `creepLane` the index moves `1 → 2 → 4 → 5`
  (`creepLane_creeps`), each move crossing one switchback.  They do settle: on a path of `n ≥ 2`
  waypoints closer than `DBL_MAX` to the pose, the result of the `2n`-th call and of every later
  call is one index `r`, and a call from `r` returns `r` (`updateCurrentIndex_feedback_settles`).

  The measure.  After one update the index is fixed, or a RISE point, where the distance grows
  towards the next waypoint (`update_cases_of_lt_dblMax`).  From a rise point `r` the update
  1. stays, when the walk does not move (the scan stops at `r` at once);
  2. moves forward across switchbacks and approaches, to a SETTLED rise point, one where the
     regression branch cannot fire;
  3. moves backward only after a regression at `r` (so `r` is not settled), to a rise point
     before `r`.
  The potential `n - 1 - r` on settled points and `n + r` on the others drops on every move
  (`update_descent`) and starts below `2n - 1`, so `2n - 1` updates reach a fixed point
  (`update_settles`).
-/

namespace WaypointFollower

/-- A map that, on `Q`, either fixes a point or moves it into `Q` with a smaller measure is at a
    fixed point after `Φ a` steps. -/
theorem iterate_fixed_of_descent {α : Type*} {f : α → α} {Q : α → Prop} {Φ : α → ℕ}
    (h : ∀ a, Q a → f a = a ∨ (Q (f a) ∧ Φ (f a) < Φ a)) :
    ∀ m a, Q a → Φ a ≤ m → f (f^[m] a) = f^[m] a
  | 0, a, ha, hm => (h a ha).resolve_right fun h' => by omega
  | m + 1, a, ha, hm => by
    rcases h a ha with hfix | ⟨hq, hlt⟩
    · rw [Function.iterate_fixed hfix]; exact hfix
    · rw [Function.iterate_succ_apply]; exact iterate_fixed_of_descent h m (f a) hq (by omega)

namespace Profile

variable (P : Profile)

/-- The regression branch cannot fire at `r`, so a walk from `r` never moves the start back. -/
def settled (r : ℕ) : Prop := ¬(0 < r ∧ P.regress r)

noncomputable instance : DecidablePred P.settled := fun _ => inferInstanceAs (Decidable ¬(_ ∧ _))

/-- The measure of the feedback loop. -/
noncomputable def potential (r : ℕ) : ℕ := if P.settled r then P.n - 1 - r else P.n + r

theorem regress_succ (j : ℕ) :
    P.regress (j + 1) ↔ 0 < P.v j * P.v (j + 1) ∧ P.d j < P.d (j + 1) := by
  simp [regress]

theorem potential_add_two_le {r : ℕ} (hr : P.rises r) : P.potential r + 2 ≤ 2 * P.n := by
  have := hr.1
  unfold potential; split_ifs <;> omega

/-- The scan stops at its start when the distance rises right after it. -/
theorem update_of_rises_start {k : ℕ} (h : P.rises (P.start k)) (hs : P.d (P.start k) ≤ dblMax) :
    P.update k = P.start k := by
  have := h.1
  unfold update
  rw [P.scan_of_lt (by omega), if_neg (not_lt.mpr hs), P.scan_of_lt h.1, if_pos h.2]
  unfold clampIdx; omega

section
variable {P} (hd : ∀ i < P.n, P.d i < dblMax)
include hd

/-- `update_cases` once every distance is below `DBL_MAX`. -/
theorem update_cases_of_lt_dblMax {k : ℕ} (hk : k < P.n) :
    P.update k = k ∨
      (P.start k ≤ P.update k ∧ P.rises (P.update k) ∧ P.descends (P.start k) (P.update k)) :=
  (P.update_cases hk).imp_right fun h => h.resolve_right fun ⟨hbig, _⟩ =>
    (hd _ (P.clampIdx_lt (by omega) _)).not_lt hbig

/-- **One move of the feedback loop.**  From a rise point the update stays, or moves to a rise
    point of smaller potential. -/
theorem update_descent {r : ℕ} (hr : P.rises r) :
    P.update r = r ∨ (P.rises (P.update r) ∧ P.potential (P.update r) < P.potential r) := by
  have hrn : r < P.n := by have := hr.1; omega
  rcases update_cases_of_lt_dblMax hd hrn with h | ⟨hsu, hru, hdesc⟩
  · exact .inl h
  refine (eq_or_ne (P.update r) r).elim .inl fun hne => .inr ⟨hru, ?_⟩
  rcases P.start_cases hrn with hs | ⟨hs, hr0, hreg⟩ | ⟨hs, hsteps⟩
  · -- case 1: the walk stays, and the scan stops at `r` at once
    rw [← hs] at hr
    exact absurd ((P.update_of_rises_start hr (hd _ (by omega)).le).trans hs) hne
  · -- case 3: backward after a regression at `r`, to a point before `r`
    have hlt : P.update r < r := lt_of_le_of_ne
      (not_lt.mp fun h => (hdesc r (by omega) h).not_lt hr.2) hne
    have hns : ¬P.settled r := fun h => h ⟨hr0, hreg⟩
    unfold potential; rw [if_neg hns]; split_ifs <;> omega
  · -- case 2: forward across switchbacks and approaches, to a settled point after `r`
    obtain ⟨j, hj⟩ : ∃ j, P.update r = j + 1 := ⟨P.update r - 1, by omega⟩
    have hsettled : P.settled (P.update r) := by
      rintro ⟨-, hreg⟩
      rw [hj, regress_succ] at hreg
      rcases Nat.eq_or_lt_of_le hsu with heq | hlt
      · rcases (hsteps j (by omega) (by omega)).2 with hsw | hap
        · exact hsw.not_lt hreg.1
        · exact hap.2.not_lt hreg.2
      · exact (hdesc j (by omega) (by omega)).not_lt hreg.2
    have := hr.1
    unfold potential; rw [if_pos hsettled]; split_ifs <;> omega

/-- **The feedback loop settles.**  After `2n - 1` updates from any index the update is at a
    fixed point, and stays there. -/
theorem update_settles {k : ℕ} (hk : k < P.n) :
    P.update (P.update^[2 * P.n - 1] k) = P.update^[2 * P.n - 1] k ∧
      ∀ m, 2 * P.n - 1 ≤ m → P.update^[m] k = P.update^[2 * P.n - 1] k := by
  have hfix : P.update (P.update^[2 * P.n - 1] k) = P.update^[2 * P.n - 1] k := by
    rcases update_cases_of_lt_dblMax hd hk with h | ⟨-, hrise, -⟩
    · rw [Function.iterate_fixed h]; exact h
    · have h2 := P.potential_add_two_le hrise
      rw [show 2 * P.n - 1 = (2 * P.n - 2) + 1 by omega, Function.iterate_succ_apply]
      exact iterate_fixed_of_descent (fun _ => update_descent hd) _ _ hrise (by omega)
  refine ⟨hfix, fun m hm => ?_⟩
  rw [show m = (m - (2 * P.n - 1)) + (2 * P.n - 1) by omega, Function.iterate_add_apply,
    Function.iterate_fixed hfix]

end

end Profile

/-! ## Repeated calls of the source function -/

/-- `m` calls of `updateCurrentIndex` under one pose, each fed the previous call's result. -/
noncomputable def feedback (current_path : Lane) (current_pose : Pose) : ℕ → ℤ → Option ℤ
  | 0, current_index => some current_index
  | m + 1, current_index =>
    (updateCurrentIndex current_path current_pose current_index).bind
      (feedback current_path current_pose m)

/-- From an index of the path, the calls compute the iterated profile update. -/
theorem feedback_warm (l : Lane) (pose : Pose) (hn : 2 ≤ l.waypoints.length) :
    ∀ (m : ℕ) {k : ℕ}, k < l.waypoints.length →
      feedback l pose m k = some ((l.profile pose).update^[m] k : ℤ)
  | 0, _, _ => rfl
  | m + 1, k, hk => by
    rw [feedback, updateCurrentIndex_warm l pose hn hk, Option.some_bind,
      Function.iterate_succ_apply]
    exact feedback_warm l pose hn m ((l.profile pose).clampIdx_lt (by simp; omega) _)

/-- **Repeated calls settle.**  On a path of at least two waypoints closer than `DBL_MAX` to a
    fixed pose, from any previous index up to the last (the sentinel `-1` included), the `2n`-th
    call and every later one return one index `r`, and a call from `r` returns `r`. -/
theorem updateCurrentIndex_feedback_settles (current_path : Lane) (current_pose : Pose)
    (current_index : ℤ) (hn : 2 ≤ current_path.waypoints.length)
    (hk : current_index ≤ current_path.size - 1)
    (hd : ∀ i < current_path.waypoints.length, current_path.dist current_pose i < dblMax) :
    ∃ r, updateCurrentIndex current_path current_pose r = some r ∧
      ∀ m, 2 * current_path.waypoints.length ≤ m →
        feedback current_path current_pose m current_index = some r := by
  set l := current_path
  set P := l.profile current_pose
  -- from an index `k` of the path, `2n - 1` calls reach the fixed point `P.update^[2n - 1] k`
  have warm : ∀ k < l.waypoints.length, ∃ r, updateCurrentIndex l current_pose r = some r ∧
      ∀ m, 2 * l.waypoints.length - 1 ≤ m → feedback l current_pose m k = some r := by
    intro k hk
    obtain ⟨hfix, hstay⟩ := P.update_settles hd hk
    have hlt : P.update^[2 * P.n - 1] k < l.waypoints.length := by
      rw [← hfix]; exact P.clampIdx_lt (by show 0 < l.waypoints.length; omega) _
    refine ⟨_, by rw [updateCurrentIndex_warm l current_pose hn hlt, hfix], fun m hm => ?_⟩
    rw [feedback_warm l current_pose hn m hk, hstay m hm]
  rcases lt_or_le current_index 0 with hneg | hnn
  · -- cold start: the first call is the locator's, an index of the path
    obtain ⟨r0, hr0, hgated, hnearest⟩ := getClosestIndex_spec l current_pose hn hd
    have hlt : r0 < l.waypoints.length :=
      (em (∃ i < l.waypoints.length, l.passesGates current_pose i)).elim
        (fun h => (hgated h).lt) fun h => (hnearest h).lt
    obtain ⟨r, hr, hstay⟩ := warm r0 hlt
    refine ⟨r, hr, fun m hm => ?_⟩
    obtain ⟨m, rfl⟩ : ∃ m', m = m' + 1 := ⟨m - 1, by omega⟩
    rw [feedback, updateCurrentIndex_cold l current_pose hn hneg, hr0, Option.some_bind]
    exact hstay m (by omega)
  · obtain ⟨k, rfl⟩ := Int.eq_ofNat_of_zero_le hnn
    obtain ⟨r, hr, hstay⟩ := warm k (by unfold Lane.size at hk; omega)
    exact ⟨r, hr, fun m hm => hstay m (by omega)⟩

/-- `leftTurn` settles from the sentinel for the vehicle at `(1, 2)`. -/
theorem leftTurn_feedback_settles :
    ∃ r, updateCurrentIndex leftTurn movedPose r = some r ∧
      ∀ m, 2 * leftTurn.waypoints.length ≤ m → feedback leftTurn movedPose m (-1) = some r :=
  updateCurrentIndex_feedback_settles leftTurn movedPose (-1) (by decide) (by decide)
    leftTurn_dist_lt

/-! ## Settling takes more than one extra call -/

/-- Seven waypoints on the `x` axis with switchbacks between waypoints `2` and `3` and between
    waypoints `4` and `5`. -/
def creepLane : Lane := ⟨[Waypoint.ofXY 1 0 1, Waypoint.ofXY (-1) 0 1, Waypoint.ofXY 1 0 1,
  Waypoint.ofXY 2 0 (-1), Waypoint.ofXY (-2) 0 (-1), Waypoint.ofXY 3 0 1, Waypoint.ofXY 4 0 1]⟩

/-- Fed back its own result, the tracker moves `1 → 2 → 4 → 5`: the third call still moves. -/
theorem creepLane_creeps :
    updateCurrentIndex creepLane originPose 1 = some 2 ∧
      updateCurrentIndex creepLane originPose 2 = some 4 ∧
      updateCurrentIndex creepLane originPose 4 = some 5 := by
  refine ⟨updateCurrentIndex_of_update _ _ (by decide) (k := 1) (by decide) ?_,
    updateCurrentIndex_of_update _ _ (by decide) (k := 2) (by decide) ?_,
    updateCurrentIndex_of_update _ _ (by decide) (k := 4) (by decide) ?_⟩ <;>
  norm_num [Profile.update, Profile.start, Profile.walk_of_lt, Profile.walk_of_not_lt,
    Profile.scan_of_lt, Profile.scan_of_not_lt, Profile.switchback, Profile.approach,
    Profile.regress, Profile.clampIdx, Profile.toNat_ofNat_lit, Lane.dist_originPose, Lane.wp,
    creepLane, Waypoint.ofXY, dblMax]

end WaypointFollower
