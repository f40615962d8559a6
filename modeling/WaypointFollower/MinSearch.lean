import WaypointFollower.Geometry
/-
  The running strict minimum the source writes three times: the two passes of `getClosestIndex`
  and the loop of `findClosestIdxWithDistAngThr` (the class `MinIDSearch` holds the same update
  rule).  Each keeps `(min, idx)`, seeded with `(seed, -1)`, and at index `i` takes `(v i, i)` when
  `v i < min` and `i` passes the loop's filter.

  `runMin_spec` says what one pass returns, for every length, filter, seed and tie:
  the FIRST index minimising `v` among the admitted indices whose value is below the seed, or
  `(seed, -1)` when there is none.  Ties keep the earlier index because the comparison is strict.
-/

namespace WaypointFollower

/-- `r` is the first index below `n` minimising `f` among the indices satisfying `p`. -/
structure IsFirstArgmin (p : ℕ → Prop) (f : ℕ → ℝ) (n r : ℕ) : Prop where
  lt : r < n
  mem : p r
  le : ∀ i < n, p i → f r ≤ f i
  first : ∀ i < r, p i → f r < f i

/-- One step of the running minimum: `if (v < min && keep) { min = v; idx = i; }`. -/
noncomputable def minStep (v : ℝ) (keep : Prop) [Decidable keep] (i : ℤ) (s : ℝ × ℤ) : ℝ × ℤ :=
  if v < s.1 ∧ keep then (v, i) else s

/-- A whole pass over the indices `0, …, n - 1`, seeded with `(seed, -1)`. -/
noncomputable def runMin (v : ℕ → ℝ) (p : ℕ → Prop) [DecidablePred p] (seed : ℝ) (n : ℕ) : ℝ × ℤ :=
  (List.range n).foldl (fun s i => minStep (v i) (p i) i s) (seed, -1)

section
variable (v : ℕ → ℝ) (p : ℕ → Prop) [DecidablePred p] (seed : ℝ)

@[simp] theorem runMin_zero : runMin v p seed 0 = (seed, -1) := rfl

theorem runMin_succ (n : ℕ) : runMin v p seed (n + 1) = minStep (v n) (p n) n (runMin v p seed n) := by
  simp [runMin, List.range_succ, List.foldl_append]

/-- **What one pass returns.**  With `A i := v i < seed ∧ p i`, either no index below `n` is in
    `A` and the pass returns its seed, or it returns `(v r, r)` for the first minimiser `r` of `v`
    over `A`. -/
theorem runMin_spec (n : ℕ) :
    ((¬∃ i < n, v i < seed ∧ p i) ∧ runMin v p seed n = (seed, -1)) ∨
      ∃ r : ℕ, runMin v p seed n = (v r, (r : ℤ)) ∧ IsFirstArgmin (fun i => v i < seed ∧ p i) v n r := by
  induction n with
  | zero => exact .inl ⟨by simp, rfl⟩
  | succ n ih =>
    rw [runMin_succ]
    rcases ih with ⟨hnone, hs⟩ | ⟨r, hs, hr⟩
    · -- nothing admitted so far: `n` is taken exactly when it is admitted
      rw [hs]
      by_cases hA : v n < seed ∧ p n
      · refine .inr ⟨n, by simp [minStep, hA], by omega, hA, fun i hi hAi => ?_,
          fun i hi hAi => absurd ⟨i, hi, hAi⟩ hnone⟩
        rcases Nat.lt_succ_iff_lt_or_eq.mp hi with h | rfl
        · exact absurd ⟨i, h, hAi⟩ hnone
        · exact le_rfl
      · refine .inl ⟨fun ⟨i, hi, hAi⟩ => ?_, by simp [minStep, hA]⟩
        rcases Nat.lt_succ_iff_lt_or_eq.mp hi with h | rfl
        exacts [hnone ⟨i, h, hAi⟩, hA hAi]
    · -- `r` so far: `n` replaces it only when strictly smaller
      rw [hs]
      by_cases hA : v n < v r ∧ p n
      · have hn : v n < seed ∧ p n := ⟨hA.1.trans hr.mem.1, hA.2⟩
        refine .inr ⟨n, by simp [minStep, hA], by omega, hn, fun i hi hAi => ?_,
          fun i hi hAi => hA.1.trans_le (hr.le i hi hAi)⟩
        rcases Nat.lt_succ_iff_lt_or_eq.mp hi with h | rfl
        exacts [(hA.1.trans_le (hr.le i h hAi)).le, le_rfl]
      · refine .inr ⟨r, by simp [minStep, hA], by have := hr.lt; omega, hr.mem,
          fun i hi hAi => ?_, hr.first⟩
        rcases Nat.lt_succ_iff_lt_or_eq.mp hi with h | rfl
        exacts [hr.le i h hAi, not_lt.mp fun h => hA ⟨h, hAi.2⟩]

/-- A pass depends on `v` and `p` only below `n`. -/
theorem runMin_congr {v' : ℕ → ℝ} {p' : ℕ → Prop} [DecidablePred p'] {n : ℕ}
    (hv : ∀ i < n, v' i = v i) (hp : ∀ i < n, p' i ↔ p i) :
    runMin v' p' seed n = runMin v p seed n :=
  List.foldl_ext _ _ _ fun s i hi => by
    have hi := List.mem_range.mp hi
    simp only [minStep, hv i hi, hp i hi]

end

/-- A first minimiser over a filter below the seed is a first minimiser over the filter, once a
    value below the seed exists. -/
theorem IsFirstArgmin.of_seed {p : ℕ → Prop} {f : ℕ → ℝ} {seed : ℝ} {n r : ℕ}
    (h : IsFirstArgmin (fun i => f i < seed ∧ p i) f n r) : IsFirstArgmin p f n r :=
  ⟨h.lt, h.mem.2, fun i hi hpi => (lt_or_le (f i) seed).elim (fun hs => h.le i hi ⟨hs, hpi⟩)
      fun hs => (h.mem.1.trans_le hs).le,
    fun i hi hpi => (lt_or_le (f i) seed).elim (fun hs => h.first i hi ⟨hs, hpi⟩)
      fun hs => h.mem.1.trans_le hs⟩

/-- An `Option` fold all of whose steps succeed is the plain fold. -/
theorem foldlM_eq_some {α β : Type*} {f : β → α → Option β} {g : β → α → β} :
    ∀ (l : List α) (s : β), (∀ s, ∀ a ∈ l, f s a = some (g s a)) →
      l.foldlM f s = some (l.foldl g s)
  | [], _, _ => rfl
  | a :: l, s, h => by
    simp only [List.foldlM_cons, h s a (List.mem_cons_self a l), Option.bind_eq_bind,
      Option.some_bind, List.foldl_cons]
    exact foldlM_eq_some l _ fun s b hb => h s b (List.mem_cons_of_mem a hb)

end WaypointFollower
