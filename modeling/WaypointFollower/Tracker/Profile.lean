import WaypointFollower.Basic
import Mathlib.Tactic.Linarith
/-
  The warm index tracker of `updateCurrentIndex` (lines 400–458) as an algorithm over what it
  reads of a lane and a pose, the PROFILE: the path length `n`, the planar distance `d i` from the
  vehicle to waypoint `i` and the signed speed `v i` of waypoint `i`.  `Tracker.Model` proves that
  the source function computes exactly `Profile.update` on every lane and pose.

  1. The OFFSET WALK is a state machine over `(i, offset)` with the three transitions the spec
     names: `switchback` and `approach` advance the offset, `regress` pulls it back, anything
     else stops.  The loop index `i` moves FORWARD on every transition, including `regress`.
     The offset never changes sign (`walk_pos`, `walk_neg`), a forward walk crosses only
     switchbacks and approaches (`walk_forward`), and `walk_zero_cases` says what the first
     step can do.
  2. The FORWARD SCAN returns the last index before the distance first rises (`scan_spec`); when
     the distance never rises it returns its DEFAULT, the previous index, and not the end of the
     path.
  3. `update_cases` combines the two: the result is the previous index, or a point where the
     distance rises that the scan reached without the distance rising, or (only when the distance
     at the scan start exceeds `DBL_MAX`) the index before the scan start.
-/

namespace WaypointFollower

/-- What the tracker reads: path length, distance to the vehicle and signed speed per index. -/
structure Profile where
  n : ℕ
  d : ℕ → ℝ
  v : ℕ → ℝ

namespace Profile

variable (P : Profile)

/-- Transition (a): the speeds at `i` and `i + 1` have opposite signs. -/
def switchback (i : ℕ) : Prop := P.v i * P.v (i + 1) < 0

/-- Transition (b): same sign ahead, and `i + 1` is closer to the vehicle than `i`. -/
def approach (i : ℕ) : Prop := 0 < P.v i * P.v (i + 1) ∧ P.d (i + 1) < P.d i

/-- Transition (c): same sign behind, and `i - 1` is closer to the vehicle than `i`. -/
def regress (i : ℕ) : Prop := 0 < P.v (i - 1) * P.v i ∧ P.d (i - 1) < P.d i

noncomputable instance : DecidablePred P.switchback := fun _ => inferInstanceAs (Decidable (_ < _))
noncomputable instance : DecidablePred P.approach := fun _ => inferInstanceAs (Decidable (_ ∧ _))
noncomputable instance : DecidablePred P.regress := fun _ => inferInstanceAs (Decidable (_ ∧ _))

/-- Phase 1 from loop index `i` with offset `off` (lines 404–434). -/
noncomputable def walk (i : ℕ) (off : ℤ) : ℤ :=
  if h : i + 1 < P.n then
    if P.switchback i ∧ 0 ≤ off then walk (i + 1) (off + 1)
    else if P.approach i ∧ 0 ≤ off then walk (i + 1) (off + 1)
    else if P.regress i ∧ off ≤ 0 then walk (i + 1) (off - 1)
    else off
  else off
termination_by P.n - i

/-- Phase 2 from loop index `i`, with the distance `prev` of the previous step and the result
    `dflt` it keeps when the distance never rises (lines 439–456). -/
noncomputable def scan (i : ℕ) (prev : ℝ) (dflt : ℤ) : ℤ :=
  if h : i < P.n then
    if prev < P.d i then i - 1 else scan (i + 1) (P.d i) dflt
  else dflt
termination_by P.n - i

/-- `std::min(std::max(0, x), path_size - 1)`, as a natural number. -/
def clampIdx (x : ℤ) : ℕ := (min (max 0 x) ((P.n : ℤ) - 1)).toNat

/-- The scan's start: the previous index `k`, moved by the walk when `k` is interior. -/
noncomputable def start (k : ℕ) : ℕ :=
  P.clampIdx (if 0 < k ∧ k + 1 < P.n then k + P.walk k 0 else k)

/-- The warm update from the previous index `k`. -/
noncomputable def update (k : ℕ) : ℕ := P.clampIdx (P.scan (P.start k) dblMax k)

/-! ## The offset walk -/

theorem walk_of_lt {i : ℕ} (h : i + 1 < P.n) (off : ℤ) :
    P.walk i off =
      if P.switchback i ∧ 0 ≤ off then P.walk (i + 1) (off + 1)
      else if P.approach i ∧ 0 ≤ off then P.walk (i + 1) (off + 1)
      else if P.regress i ∧ off ≤ 0 then P.walk (i + 1) (off - 1)
      else off := by
  rw [walk, dif_pos h]

theorem walk_of_not_lt {i : ℕ} (h : ¬i + 1 < P.n) (off : ℤ) : P.walk i off = off := by
  rw [walk, dif_neg h]

/-- A positive offset only grows. -/
theorem walk_pos (i : ℕ) (off : ℤ) (hoff : 0 < off) : off ≤ P.walk i off := by
  induction i, off using walk.induct P with
  | case1 i off h hc ih => rw [walk_of_lt P h, if_pos hc]; linarith [ih (by omega)]
  | case2 i off h hc1 hc2 ih => rw [walk_of_lt P h, if_neg hc1, if_pos hc2]; linarith [ih (by omega)]
  | case3 i off h hc1 hc2 hc3 ih => exact absurd hc3.2 (by omega)
  | case4 i off h hc1 hc2 hc3 => rw [walk_of_lt P h, if_neg hc1, if_neg hc2, if_neg hc3]
  | case5 i off h => rw [walk_of_not_lt P h]

/-- A negative offset only shrinks. -/
theorem walk_neg (i : ℕ) (off : ℤ) (hoff : off < 0) : P.walk i off ≤ off := by
  induction i, off using walk.induct P with
  | case1 i off h hc ih => exact absurd hc.2 (by omega)
  | case2 i off h hc1 hc2 ih => exact absurd hc2.2 (by omega)
  | case3 i off h hc1 hc2 hc3 ih =>
    rw [walk_of_lt P h, if_neg hc1, if_neg hc2, if_pos hc3]; linarith [ih (by omega)]
  | case4 i off h hc1 hc2 hc3 => rw [walk_of_lt P h, if_neg hc1, if_neg hc2, if_neg hc3]
  | case5 i off h => rw [walk_of_not_lt P h]

/-- The walk moves the offset by at most the number of loop iterations left. -/
theorem walk_sub_le (i : ℕ) (off : ℤ) : P.walk i off - off ≤ ((P.n - 1 - i : ℕ) : ℤ) := by
  induction i, off using walk.induct P with
  | case1 i off h hc ih => rw [walk_of_lt P h, if_pos hc]; omega
  | case2 i off h hc1 hc2 ih => rw [walk_of_lt P h, if_neg hc1, if_pos hc2]; omega
  | case3 i off h hc1 hc2 hc3 ih => rw [walk_of_lt P h, if_neg hc1, if_neg hc2, if_pos hc3]; omega
  | case4 i off h hc1 hc2 hc3 => rw [walk_of_lt P h, if_neg hc1, if_neg hc2, if_neg hc3]; omega
  | case5 i off h => rw [walk_of_not_lt P h]; omega

/-- A walk that is not negative crosses only switchbacks and approaches. -/
theorem walk_forward (i : ℕ) (off : ℤ) (hoff : 0 ≤ off) :
    ∀ j : ℕ, i ≤ j → (j : ℤ) < i + (P.walk i off - off) →
      j + 1 < P.n ∧ (P.switchback j ∨ P.approach j) := by
  induction i, off using walk.induct P with
  | case1 i off h hc ih =>
    intro j hij hj
    rw [walk_of_lt P h, if_pos hc] at hj
    rcases Nat.eq_or_lt_of_le hij with rfl | hlt
    · exact ⟨h, .inl hc.1⟩
    · exact ih (by omega) j hlt (by push_cast; omega)
  | case2 i off h hc1 hc2 ih =>
    intro j hij hj
    rw [walk_of_lt P h, if_neg hc1, if_pos hc2] at hj
    rcases Nat.eq_or_lt_of_le hij with rfl | hlt
    · exact ⟨h, .inr hc2.1⟩
    · exact ih (by omega) j hlt (by push_cast; omega)
  | case3 i off h hc1 hc2 hc3 ih =>
    intro j hij hj
    rw [walk_of_lt P h, if_neg hc1, if_neg hc2, if_pos hc3] at hj
    have := P.walk_neg (i + 1) (off - 1) (by omega)
    omega
  | case4 i off h hc1 hc2 hc3 =>
    intro j hij hj
    rw [walk_of_lt P h, if_neg hc1, if_neg hc2, if_neg hc3] at hj
    omega
  | case5 i off h => intro j hij hj; rw [walk_of_not_lt P h] at hj; omega

/-- **What the first step decides.**  From offset `0` the walk goes forward exactly on a
    switchback or an approach, backward only on a regression, and stays put otherwise. -/
theorem walk_zero_cases {i : ℕ} (h : i + 1 < P.n) :
    ((P.switchback i ∨ P.approach i) ∧ 0 < P.walk i 0) ∨
      (P.regress i ∧ P.walk i 0 < 0) ∨ P.walk i 0 = 0 := by
  rw [walk_of_lt P h]
  by_cases h1 : P.switchback i
  · exact .inl ⟨.inl h1, by rw [if_pos ⟨h1, le_rfl⟩]; linarith [P.walk_pos (i + 1) (0 + 1) (by norm_num)]⟩
  by_cases h2 : P.approach i
  · refine .inl ⟨.inr h2, ?_⟩
    rw [if_neg fun h => h1 h.1, if_pos ⟨h2, le_rfl⟩]; linarith [P.walk_pos (i + 1) (0 + 1) (by norm_num)]
  by_cases h3 : P.regress i
  · refine .inr (.inl ⟨h3, ?_⟩)
    rw [if_neg fun h => h1 h.1, if_neg fun h => h2 h.1, if_pos ⟨h3, le_rfl⟩]
    linarith [P.walk_neg (i + 1) (0 - 1) (by norm_num)]
  · exact .inr (.inr (by rw [if_neg fun h => h1 h.1, if_neg fun h => h2 h.1, if_neg fun h => h3 h.1]))

/-! ## The forward scan -/

/-- The distance rises right after `r`: the scan stops at `r`. -/
def rises (r : ℕ) : Prop := r + 1 < P.n ∧ P.d r < P.d (r + 1)

/-- The distance does not rise anywhere on `[a, b]`. -/
def descends (a b : ℕ) : Prop := ∀ j, a ≤ j → j < b → P.d (j + 1) ≤ P.d j

theorem descends.le {P : Profile} {a b : ℕ} (h : P.descends a b) {j : ℕ} (hj1 : a ≤ j)
    (hj2 : j ≤ b) : P.d b ≤ P.d j := by
  induction b with
  | zero => rw [Nat.le_zero.mp hj2]
  | succ b ih =>
    rcases Nat.eq_or_lt_of_le hj2 with rfl | hlt
    · exact le_rfl
    · exact (h b (by omega) (by omega)).trans (ih (fun i h1 h2 => h i h1 (by omega)) (by omega))

theorem scan_of_lt {i : ℕ} (h : i < P.n) (prev : ℝ) (dflt : ℤ) :
    P.scan i prev dflt = if prev < P.d i then (i : ℤ) - 1 else P.scan (i + 1) (P.d i) dflt := by
  rw [scan, dif_pos h]

theorem scan_of_not_lt {i : ℕ} (h : ¬i < P.n) (prev : ℝ) (dflt : ℤ) :
    P.scan i prev dflt = dflt := by
  rw [scan, dif_neg h]

/-- **The scan.**  Continuing from index `i ≥ 1` with the distance of `i - 1`, the scan returns
    the first `r ≥ i - 1` after which the distance rises, or its default when the distance never
    rises; either way the distance did not rise before. -/
theorem scan_spec (i : ℕ) (prev : ℝ) (dflt : ℤ) (hi : 1 ≤ i) (hprev : prev = P.d (i - 1)) :
    (P.scan i prev dflt = dflt ∧ P.descends (i - 1) (P.n - 1)) ∨
      ∃ r : ℕ, P.scan i prev dflt = r ∧ i - 1 ≤ r ∧ P.rises r ∧ P.descends (i - 1) r := by
  induction i, prev, dflt using scan.induct P with
  | case1 i prev dflt h hlt =>
    refine .inr ⟨i - 1, by rw [scan_of_lt P h, if_pos hlt]; omega, le_rfl, ⟨by omega, ?_⟩,
      fun j h1 h2 => absurd h2 (by omega)⟩
    rwa [← hprev, Nat.sub_add_cancel hi]
  | case2 i prev dflt h hlt ih =>
    rw [scan_of_lt P h, if_neg hlt]
    -- one more step without a rise: extend the descent to `i - 1`
    have hstep : ∀ b, P.descends i b → P.descends (i - 1) b := fun b hb j h1 h2 => by
      rcases Nat.eq_or_lt_of_le h1 with rfl | hlt'
      · rw [Nat.sub_add_cancel hi, ← hprev]; exact not_lt.mp hlt
      · exact hb j (by omega) h2
    rcases ih (by omega) (by simp) with ⟨hs, hd⟩ | ⟨r, hs, hr, hrise, hd⟩
    · exact .inl ⟨hs, hstep _ (by simpa using hd)⟩
    · exact .inr ⟨r, hs, by omega, hrise, hstep _ (by simpa using hd)⟩
  | case3 i prev dflt h =>
    exact .inl ⟨by rw [scan_of_not_lt P h], fun j h1 h2 => absurd h2 (by omega)⟩

/-! ## The update -/

theorem clampIdx_lt (hn : 0 < P.n) (x : ℤ) : P.clampIdx x < P.n := by unfold clampIdx; omega

/-- `Int.toNat` of a literal, for the numerals `norm_num` writes when it runs a fixed lane. -/
theorem toNat_ofNat_lit (m : ℕ) [m.AtLeastTwo] :
    Int.toNat (no_index (OfNat.ofNat m)) = OfNat.ofNat m := rfl

/-- **What the scan starts from.**  The previous index `k`; an index before `k` only after a
    regression at `k`; an index after `k` only across switchbacks and approaches. -/
theorem start_cases {k : ℕ} (hk : k < P.n) :
    P.start k = k ∨ (P.start k < k ∧ 0 < k ∧ P.regress k) ∨
      (k < P.start k ∧
        ∀ j, k ≤ j → j < P.start k → j + 1 < P.n ∧ (P.switchback j ∨ P.approach j)) := by
  unfold start
  split_ifs with hint
  · have hle := P.walk_sub_le k 0
    rcases P.walk_zero_cases hint.2 with ⟨-, hpos⟩ | ⟨hreg, hneg⟩ | h0
    · have hc : (P.clampIdx (k + P.walk k 0) : ℤ) = k + P.walk k 0 := by unfold clampIdx; omega
      exact .inr (.inr ⟨by omega,
        fun j h1 h2 => P.walk_forward k 0 le_rfl j h1 (by omega)⟩)
    · exact .inr (.inl ⟨by unfold clampIdx; omega, hint.1, hreg⟩)
    · exact .inl (by unfold clampIdx; omega)
  · exact .inl (by unfold clampIdx; omega)

/-- **What the update returns.**  The previous index; or a point `r` where the distance rises,
    reached from the scan start without a rise; or, when the distance at the scan start exceeds
    `DBL_MAX`, the index before the scan start. -/
theorem update_cases {k : ℕ} (hk : k < P.n) :
    P.update k = k ∨
      (P.start k ≤ P.update k ∧ P.rises (P.update k) ∧ P.descends (P.start k) (P.update k)) ∨
      (dblMax < P.d (P.start k) ∧ (P.update k : ℤ) = max 0 ((P.start k : ℤ) - 1)) := by
  have hs : P.start k < P.n := P.clampIdx_lt (by omega) _
  unfold update
  rw [scan_of_lt P hs]
  split_ifs with hbig
  · exact .inr (.inr ⟨hbig, by unfold clampIdx; omega⟩)
  · rcases P.scan_spec (P.start k + 1) (P.d (P.start k)) k (by omega) (by simp) with
      ⟨h, -⟩ | ⟨r, h, hr, hrise, hdesc⟩
    · exact .inl (by rw [h]; unfold clampIdx; omega)
    · have hc : P.clampIdx r = r := by unfold clampIdx; have := hrise.1; omega
      rw [h, hc]
      exact .inr (.inl ⟨by simpa using hr, hrise, by simpa using hdesc⟩)

theorem descends.append {P : Profile} {a b c : ℕ} (h1 : P.descends a b) (h2 : P.descends b c) :
    P.descends a c := fun j hj1 hj2 =>
  (lt_or_le j b).elim (fun h => h1 j hj1 h) fun h => h2 j h hj2

/-- **A forward move within one direction of travel.**  When the update moves forward from `k`
    and no switchback lies between `k` and the result `u`, no waypoint of `[k, u]` is closer to
    the vehicle than `u`. -/
theorem update_forward_le {k : ℕ} (hk : k < P.n) (hku : k < P.update k)
    (hsign : ∀ j, k ≤ j → j < P.update k → 0 ≤ P.v j * P.v (j + 1)) :
    ∀ j, k ≤ j → j ≤ P.update k → P.d (P.update k) ≤ P.d j := by
  -- the forward steps below `b ≤ u` are all approaches, so the distance falls on `[k, b]`
  have hfall : ∀ b, b ≤ P.update k →
      (∀ j, k ≤ j → j < b → j + 1 < P.n ∧ (P.switchback j ∨ P.approach j)) → P.descends k b :=
    fun b hb hsteps j h1 h2 => by
      rcases (hsteps j h1 h2).2 with hsw | hap
      · exact absurd (hsign j h1 (by omega)) (not_le.mpr hsw)
      · exact hap.2.le
  intro j hj1 hj2
  rcases P.update_cases hk with h | ⟨hsu, -, hdesc⟩ | ⟨-, hu⟩
  · omega
  · rcases P.start_cases hk with hs | ⟨hs, -⟩ | ⟨hs, hsteps⟩
    · exact (hs ▸ hdesc).le hj1 hj2
    · exact hdesc.le (by omega) hj2
    · exact ((hfall _ hsu hsteps).append hdesc).le hj1 hj2
  · rcases P.start_cases hk with hs | ⟨hs, -⟩ | ⟨hs, hsteps⟩
    · omega
    · omega
    · exact (hfall _ le_rfl fun j h1 h2 => hsteps j h1 (by omega)).le hj1 hj2

/-! ## The tracker reads the profile only below `n` -/

section congr
variable {P} {Q : Profile} (hn : P.n = Q.n) (hd : ∀ i < P.n, P.d i = Q.d i)
include hn hd

theorem scan_congr (i : ℕ) (prev : ℝ) (dflt : ℤ) : P.scan i prev dflt = Q.scan i prev dflt := by
  induction i, prev, dflt using scan.induct P with
  | case1 i prev dflt h hlt =>
    rw [scan_of_lt P h, if_pos hlt, scan_of_lt Q (hn ▸ h), if_pos (hd i h ▸ hlt)]
  | case2 i prev dflt h hlt ih =>
    rw [scan_of_lt P h, if_neg hlt, ih, scan_of_lt Q (hn ▸ h) prev, if_neg (hd i h ▸ hlt), hd i h]
  | case3 i prev dflt h => rw [scan_of_not_lt P h, scan_of_not_lt Q (hn ▸ h)]

variable (hv : ∀ i < P.n, P.v i = Q.v i)
include hv

theorem walk_congr (i : ℕ) (off : ℤ) : P.walk i off = Q.walk i off := by
  -- the three transitions at an index `i` with `i + 1 < n` read the profile below `n`
  have htr : ∀ i, i + 1 < P.n → (Q.switchback i ↔ P.switchback i) ∧
      (Q.approach i ↔ P.approach i) ∧ (Q.regress i ↔ P.regress i) := fun i h => by
    simp only [switchback, approach, regress, hv i (by omega), hv (i + 1) h, hv (i - 1) (by omega),
      hd i (by omega), hd (i + 1) h, hd (i - 1) (by omega), and_self]
  induction i, off using walk.induct P with
  | case1 i off h hc ih => simp only [walk_of_lt P h, walk_of_lt Q (hn ▸ h), htr i h, if_pos hc, ih]
  | case2 i off h hc1 hc2 ih =>
    simp only [walk_of_lt P h, walk_of_lt Q (hn ▸ h), htr i h, if_neg hc1, if_pos hc2, ih]
  | case3 i off h hc1 hc2 hc3 ih =>
    simp only [walk_of_lt P h, walk_of_lt Q (hn ▸ h), htr i h, if_neg hc1, if_neg hc2, if_pos hc3,
      ih]
  | case4 i off h hc1 hc2 hc3 =>
    simp only [walk_of_lt P h, walk_of_lt Q (hn ▸ h), htr i h, if_neg hc1, if_neg hc2, if_neg hc3]
  | case5 i off h => rw [walk_of_not_lt P h, walk_of_not_lt Q (hn ▸ h)]

/-- Two profiles that agree below `n` have the same update. -/
theorem update_congr (k : ℕ) : P.update k = Q.update k := by
  simp only [update, start, clampIdx, hn, walk_congr hn hd hv, scan_congr hn hd]

end congr

end Profile

end WaypointFollower
