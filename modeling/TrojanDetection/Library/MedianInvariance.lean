import TrojanDetection.Library.RobustStatistics
import Mathlib.Data.List.Perm.Basic
import Mathlib.Tactic.Ring

/-!
# What the median and the median absolute deviation ignore

The statistics of `RobustStatistics` do not see the order of the entries (`median_perm`) and scale
with them (`median_map_mul`). Raising one entry never lowers the median (`median_le_set`), and does
not move it at all when the entry is a largest one and there are at least three (`median_set_max`).
At most half of the entries are above the median, and no score of the deviations marks more than
half of the entries if it marks only deviations above the absolute deviation (`countP_scores_le`).

The absolute deviation grows with a largest entry only until that entry has the largest deviation
(`medianAbsDev_le_set_max`, `medianAbsDev_set_of_largest`).
-/

set_option autoImplicit false

namespace TrojanDetection.Library.RobustStatistics

universe u

variable {K : Type u} [LinearOrder K]

/-! ## Order and scale -/

theorem orderStatistic_perm [Zero K] {xs ys : List K} (h : xs.Perm ys) (k : ℕ) :
    orderStatistic xs k = orderStatistic ys k := by
  have hsorted : xs.insertionSort (· ≤ ·) = ys.insertionSort (· ≤ ·) := by
    apply List.Perm.eq_of_pairwise' (List.pairwise_insertionSort _ xs)
      (List.pairwise_insertionSort _ ys)
    exact ((List.perm_insertionSort _ xs).trans h).trans (List.perm_insertionSort _ ys).symm
  rw [orderStatistic, orderStatistic, hsorted]

section Field

variable [Field K]

theorem median_perm {xs ys : List K} (h : xs.Perm ys) : median xs = median ys := by
  rw [median_eq, median_eq, h.length_eq, orderStatistic_perm h, orderStatistic_perm h]

theorem deviations_perm {xs ys : List K} (h : xs.Perm ys) :
    (deviations xs).Perm (deviations ys) := by
  rw [deviations, deviations, median_perm h]
  exact h.map _

theorem medianAbsDev_perm {xs ys : List K} (h : xs.Perm ys) :
    medianAbsDev xs = medianAbsDev ys :=
  median_perm (deviations_perm h)

variable [IsStrictOrderedRing K]

theorem orderStatistic_map_mul {c : K} (hc : 0 < c) (xs : List K) (k : ℕ) :
    orderStatistic (xs.map (c * ·)) k = c * orderStatistic xs k := by
  have hsorted : (xs.insertionSort (· ≤ ·)).map (c * ·) =
      (xs.map (c * ·)).insertionSort (· ≤ ·) := by
    apply List.map_insertionSort
    intro a _ b _
    exact (mul_le_mul_iff_of_pos_left hc).symm
  rw [orderStatistic, orderStatistic, ← hsorted, List.getD_eq_getElem?_getD,
    List.getD_eq_getElem?_getD, List.getElem?_map]
  cases (xs.insertionSort (· ≤ ·))[k]? with
  | none => exact (mul_zero c).symm
  | some x => rfl

theorem median_map_mul {c : K} (hc : 0 < c) (xs : List K) :
    median (xs.map (c * ·)) = c * median xs := by
  rw [median_eq, median_eq, List.length_map, orderStatistic_map_mul hc, orderStatistic_map_mul hc]
  ring

theorem deviations_map_mul {c : K} (hc : 0 < c) (xs : List K) :
    deviations (xs.map (c * ·)) = (deviations xs).map (c * ·) := by
  rw [deviations, deviations, median_map_mul hc, List.map_map, List.map_map]
  apply List.map_congr_left
  intro x _
  show |c * x - c * median xs| = c * |x - median xs|
  rw [← mul_sub, abs_mul, abs_of_pos hc]

theorem medianAbsDev_map_mul {c : K} (hc : 0 < c) (xs : List K) :
    medianAbsDev (xs.map (c * ·)) = c * medianAbsDev xs := by
  rw [medianAbsDev, medianAbsDev, deviations_map_mul hc, median_map_mul hc]

end Field

/-! ## One entry is raised -/

/-- Raising an entry raises every order statistic, or leaves it. -/
theorem orderStatistic_le_set [Zero K] {xs : List K} {i k : ℕ} (hi : i < xs.length)
    (hk : k < xs.length) {y : K} (hy : xs[i] ≤ y) :
    orderStatistic xs k ≤ orderStatistic (xs.set i y) k := by
  have hlen : k < (xs.set i y).length := by rwa [List.length_set]
  rw [orderStatistic_le_iff xs _ hk]
  apply lt_of_lt_of_le ((orderStatistic_le_iff (xs.set i y) _ hlen).1 le_rfl)
  generalize orderStatistic (xs.set i y) k = b
  -- the entry that changes is counted after the change only if it was before
  rw [(List.set_perm_cons_eraseIdx hi y).countP_eq,
    ← (List.getElem_cons_eraseIdx_perm hi).countP_eq, List.countP_cons, List.countP_cons]
  by_cases hyb : y ≤ b
  · simp [hyb, hy.trans hyb]
  · simp [hyb]

/-- A further entry that no other exceeds is the last in order. -/
theorem orderStatistic_cons_of_max [Zero K] {a : K} {xs : List K} (h : ∀ x ∈ xs, x ≤ a) {k : ℕ}
    (hk : k < xs.length) : orderStatistic (a :: xs) k = orderStatistic xs k := by
  have hle : ∀ b, orderStatistic (a :: xs) k ≤ b ↔ orderStatistic xs k ≤ b := by
    intro b
    have hlen : k < (a :: xs).length := Nat.lt_succ_of_lt hk
    rw [orderStatistic_le_iff _ b hlen, orderStatistic_le_iff _ b hk]
    -- a bound that reaches the new entry reaches all of them
    by_cases hab : a ≤ b
    · have hall : xs.countP (· ≤ b) = xs.length := by
        rw [List.countP_eq_length]
        intro x hx
        exact decide_eq_true ((h x hx).trans hab)
      have hcons : (a :: xs).countP (· ≤ b) = xs.length + 1 := by
        rw [List.countP_cons, hall, if_pos (decide_eq_true hab)]
      rw [hcons, hall]
      omega
    · have hcons : (a :: xs).countP (· ≤ b) = xs.countP (· ≤ b) := by
        rw [List.countP_cons, if_neg (by simpa using hab), Nat.add_zero]
      rw [hcons]
  exact le_antisymm ((hle _).2 le_rfl) ((hle _).1 le_rfl)

/-- Raising a largest entry moves no order statistic but the last. -/
theorem orderStatistic_set_max [Zero K] {xs : List K} {i k : ℕ} (hi : i < xs.length)
    (hk : k + 1 < xs.length) (hmax : ∀ x ∈ xs, x ≤ xs[i]) {y : K} (hy : xs[i] ≤ y) :
    orderStatistic (xs.set i y) k = orderStatistic xs k := by
  have hrest : k < (xs.eraseIdx i).length := by
    rw [List.length_eraseIdx_of_lt hi]
    omega
  have hmem : ∀ x ∈ xs.eraseIdx i, x ≤ xs[i] := by
    intro x hx
    exact hmax x (List.mem_of_mem_eraseIdx hx)
  rw [orderStatistic_perm (List.set_perm_cons_eraseIdx hi y),
    ← orderStatistic_perm (List.getElem_cons_eraseIdx_perm hi),
    orderStatistic_cons_of_max (fun x hx => (hmem x hx).trans hy) hrest,
    orderStatistic_cons_of_max hmem hrest]

/-- A raised largest entry is a largest entry. -/
theorem le_getElem_set_max {xs : List K} {i : ℕ} (hi : i < xs.length)
    (hmax : ∀ x ∈ xs, x ≤ xs[i]) {y : K} (hy : xs[i] ≤ y)
    (hi' : i < (xs.set i y).length) : ∀ x ∈ xs.set i y, x ≤ (xs.set i y)[i] := by
  intro x hx
  rw [List.getElem_set_self]
  rcases List.mem_or_eq_of_mem_set hx with hmem | rfl
  · exact (hmax x hmem).trans hy
  · exact le_rfl

section Raise

variable [Field K] {xs : List K} {i : ℕ} {y : K}

theorem median_set_max (hn : 3 ≤ xs.length) (hi : i < xs.length) (hmax : ∀ x ∈ xs, x ≤ xs[i])
    (hy : xs[i] ≤ y) : median (xs.set i y) = median xs := by
  rw [median_eq, median_eq, List.length_set,
    orderStatistic_set_max hi (by omega) hmax hy, orderStatistic_set_max hi (by omega) hmax hy]

variable [IsStrictOrderedRing K]

theorem median_le_set (hi : i < xs.length) (hy : xs[i] ≤ y) :
    median xs ≤ median (xs.set i y) := by
  rw [median_eq, median_eq, List.length_set]
  have hlow := orderStatistic_le_set hi (k := (xs.length - 1) / 2) (by omega) hy
  have hhigh := orderStatistic_le_set hi (k := xs.length / 2) (by omega) hy
  linarith

theorem median_le_max (hi : i < xs.length) (hmax : ∀ x ∈ xs, x ≤ xs[i]) :
    median xs ≤ xs[i] := by
  apply median_le_of_majority
  have hall : xs.countP (· ≤ xs[i]) = xs.length := by
    rw [List.countP_eq_length]
    intro x hx
    exact decide_eq_true (hmax x hx)
  rw [Majority, hall]
  omega

/-- The deviations after a largest entry is raised: only its own is another. -/
theorem deviations_set_max (hn : 3 ≤ xs.length) (hi : i < xs.length)
    (hmax : ∀ x ∈ xs, x ≤ xs[i]) (hy : xs[i] ≤ y) :
    deviations (xs.set i y) = (deviations xs).set i (y - median xs) := by
  have hnonneg : 0 ≤ y - median xs := sub_nonneg.2 ((median_le_max hi hmax).trans hy)
  rw [deviations, median_set_max hn hi hmax hy, List.map_set, abs_of_nonneg hnonneg, deviations]

/-- A largest entry deviates by its distance above the median. -/
theorem getElem_deviations_max (hi : i < xs.length) (hmax : ∀ x ∈ xs, x ≤ xs[i])
    (hi' : i < (deviations xs).length) : (deviations xs)[i] = xs[i] - median xs := by
  have hnonneg : 0 ≤ xs[i] - median xs := sub_nonneg.2 (median_le_max hi hmax)
  simp only [deviations, List.getElem_map]
  exact abs_of_nonneg hnonneg

end Raise

/-! ## The largest deviation -/

section Largest

/-- The greatest entry after one entry is raised. -/
theorem isGreatest_set {ds : List K} {i : ℕ} (hi : i < ds.length) {m e : K}
    (hm : IsGreatest {d | d ∈ ds} m) (he : ds[i] ≤ e) :
    IsGreatest {d | d ∈ ds.set i e} (max m e) := by
  constructor
  · show max m e ∈ ds.set i e
    rcases le_or_gt m e with hme | hem
    · rw [max_eq_right hme]
      exact List.mem_set hi e
    · rw [max_eq_left hem.le]
      obtain ⟨j, hj, hjm⟩ := List.mem_iff_getElem.1 hm.1
      -- the greatest entry stands elsewhere
      have hij : i ≠ j := by
        rintro rfl
        exact absurd he (not_le.2 (hjm.symm ▸ hem))
      apply List.mem_iff_getElem.2
      refine ⟨j, by rwa [List.length_set], ?_⟩
      rw [List.getElem_set_of_ne hij, hjm]
  · intro d hd
    rcases List.mem_or_eq_of_mem_set hd with hmem | rfl
    · exact (hm.2 hmem).trans (le_max_left _ _)
    · exact le_max_right _ _

variable [Field K]

/-- The largest of the absolute deviations from the median; zero for an empty list. -/
def largestDeviation (xs : List K) : K := ((deviations xs).max?).getD 0

theorem isGreatest_largestDeviation {xs : List K} (hne : xs ≠ []) :
    IsGreatest {d | d ∈ deviations xs} (largestDeviation xs) := by
  have hdev : deviations xs ≠ [] := by simpa [deviations] using hne
  obtain ⟨m, hm⟩ := Option.ne_none_iff_exists'.1 (List.max?_eq_none_iff.not.2 hdev)
  obtain ⟨hmem, hle⟩ := List.max?_eq_some_iff.1 hm
  rw [largestDeviation, hm, Option.getD_some]
  exact ⟨hmem, hle⟩

variable [IsStrictOrderedRing K] {xs : List K} {i : ℕ} {y : K}

theorem largestDeviation_set_max (hn : 3 ≤ xs.length) (hi : i < xs.length)
    (hmax : ∀ x ∈ xs, x ≤ xs[i]) (hy : xs[i] ≤ y) :
    largestDeviation (xs.set i y) = max (largestDeviation xs) (y - median xs) := by
  have hne : xs ≠ [] := List.ne_nil_of_length_pos (by omega)
  have hset : xs.set i y ≠ [] := by simpa using hne
  have hi' : i < (deviations xs).length := by simpa [deviations] using hi
  have hown : (deviations xs)[i] ≤ y - median xs := by
    rw [getElem_deviations_max hi hmax]
    exact sub_le_sub_right hy _
  have hgreatest := isGreatest_largestDeviation hset
  rw [deviations_set_max hn hi hmax hy] at hgreatest
  exact hgreatest.unique (isGreatest_set hi' (isGreatest_largestDeviation hne) hown)

/-- Raising a largest entry does not lower the absolute deviation. -/
theorem medianAbsDev_le_set_max (hn : 3 ≤ xs.length) (hi : i < xs.length)
    (hmax : ∀ x ∈ xs, x ≤ xs[i]) (hy : xs[i] ≤ y) :
    medianAbsDev xs ≤ medianAbsDev (xs.set i y) := by
  have hi' : i < (deviations xs).length := by simpa [deviations] using hi
  rw [medianAbsDev, medianAbsDev, deviations_set_max hn hi hmax hy]
  apply median_le_set hi'
  rw [getElem_deviations_max hi hmax]
  exact sub_le_sub_right hy _

/-- An entry that already deviates most leaves the absolute deviation as it is. -/
theorem medianAbsDev_set_of_largest (hn : 3 ≤ xs.length) (hi : i < xs.length)
    (hmax : ∀ x ∈ xs, x ≤ xs[i]) (hlargest : largestDeviation xs ≤ xs[i] - median xs)
    (hy : xs[i] ≤ y) : medianAbsDev (xs.set i y) = medianAbsDev xs := by
  have hne : xs ≠ [] := List.ne_nil_of_length_pos (by omega)
  have hi' : i < (deviations xs).length := by simpa [deviations] using hi
  have hlen : 3 ≤ (deviations xs).length := by simpa [deviations] using hn
  rw [medianAbsDev, medianAbsDev, deviations_set_max hn hi hmax hy]
  apply median_set_max hlen hi'
  · intro d hd
    rw [getElem_deviations_max hi hmax]
    exact ((isGreatest_largestDeviation hne).2 hd).trans hlargest
  · rw [getElem_deviations_max hi hmax]
    exact sub_le_sub_right hy _

end Largest

/-! ## Above the median -/

section Above

theorem orderStatistic_mono [Zero K] {xs : List K} {j k : ℕ} (hjk : j ≤ k) (hk : k < xs.length) :
    orderStatistic xs j ≤ orderStatistic xs k := by
  rw [orderStatistic_le_iff xs _ (hjk.trans_lt hk)]
  exact hjk.trans_lt ((orderStatistic_le_iff xs _ hk).1 le_rfl)

variable [Field K] [IsStrictOrderedRing K]

/-- At most half of the entries are above the median. -/
theorem two_mul_countP_median_lt_le (xs : List K) :
    2 * xs.countP (median xs < ·) ≤ xs.length := by
  rcases eq_or_ne xs [] with rfl | hne
  · exact le_rfl
  · have hpos : 0 < xs.length := List.length_pos_iff.2 hne
    -- the lower of the two middle entries does not exceed the median
    have hlow : orderStatistic xs ((xs.length - 1) / 2) ≤ median xs := by
      have hmono : orderStatistic xs ((xs.length - 1) / 2) ≤ orderStatistic xs (xs.length / 2) :=
        orderStatistic_mono (by omega) (by omega)
      rw [median_eq]
      linarith
    have hcount := (orderStatistic_le_iff xs (median xs) (by omega)).1 hlow
    have hsplit : xs.length = xs.countP (median xs < ·) + xs.countP (· ≤ median xs) := by
      rw [List.length_eq_countP_add_countP (median xs < ·)]
      simp
    omega

/-- A score of the deviations that passes its threshold only beyond the median absolute deviation
does so for at most half of the entries. -/
theorem countP_scores_le {xs : List K} {score : K → K} {threshold distance : K}
    (hscore : ∀ d, threshold < score d ↔ distance < d) (hdistance : medianAbsDev xs ≤ distance) :
    ((deviations xs).map score).countP (threshold < ·) ≤ xs.length / 2 := by
  have hmono : ((deviations xs).map score).countP (threshold < ·) ≤
      (deviations xs).countP (median (deviations xs) < ·) := by
    rw [List.countP_map]
    apply List.countP_mono_left
    intro d _ hd
    have hbeyond := (hscore d).1 (of_decide_eq_true hd)
    exact decide_eq_true (hdistance.trans_lt hbeyond)
  have hhalf := two_mul_countP_median_lt_le (deviations xs)
  have hlen : (deviations xs).length = xs.length := by simp [deviations]
  omega

end Above

end TrojanDetection.Library.RobustStatistics
