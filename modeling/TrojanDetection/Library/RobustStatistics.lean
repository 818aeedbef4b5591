import TrojanDetection.Library.Positions
import Mathlib.Data.List.Sort
import Mathlib.Data.List.FinRange
import Mathlib.Data.Fintype.Card
import Mathlib.Algebra.Order.Field.Basic
import Mathlib.Algebra.Order.AbsoluteValue.Basic
import Mathlib.Algebra.Order.BigOperators.Group.List
import Mathlib.Tactic.Linarith

/-!
# Mean, median, median absolute deviation and threshold positions

Statistics of a list over a linearly ordered field, and the positions of the entries above a
threshold. The median of an even number of entries is the mean of the two middle ones; the mean and
the median of an empty list are zero.

The median cannot be moved by a minority: it stays between bounds that more than half of the
entries keep (`median_mem_of_majority`), and the absolute deviation is then at most their distance
(`medianAbsDev_le_of_majority`). The absolute deviation is zero exactly when more than half of the
entries are equal (`medianAbsDev_eq_zero_iff`).
-/

set_option autoImplicit false

namespace TrojanDetection.Library.RobustStatistics

universe u v

variable {K : Type u} [LinearOrder K]

/-- Positions of the entries above `threshold`, in increasing order. -/
def whereAbove [Zero K] (threshold : K) (xs : List K) : List ℕ :=
  (List.range xs.length).filter fun i => threshold < xs.getD i 0

theorem mem_whereAbove_iff [Zero K] {threshold : K} {xs : List K} {i : ℕ} :
    i ∈ whereAbove threshold xs ↔ ∃ x, xs[i]? = some x ∧ threshold < x := by
  rw [whereAbove, List.mem_filter, List.mem_range]
  constructor
  · rintro ⟨hi, hlt⟩
    refine ⟨xs[i], List.getElem?_eq_getElem hi, ?_⟩
    simpa [List.getD_eq_getElem?_getD, hi] using hlt
  · rintro ⟨x, hx, hlt⟩
    refine ⟨(List.getElem?_eq_some_iff.1 hx).1, ?_⟩
    simpa [List.getD_eq_getElem?_getD, hx] using hlt

theorem mem_whereAbove_map [Zero K] {n i : ℕ} {threshold : K} (f : ℕ → K) :
    i ∈ whereAbove threshold ((List.range n).map f) ↔ i < n ∧ threshold < f i := by
  rw [mem_whereAbove_iff]
  by_cases hi : i < n
  · simp [hi]
  · simp [hi]

theorem whereAbove_eq_nil_iff [Zero K] {threshold : K} {xs : List K} :
    whereAbove threshold xs = [] ↔ ∀ x ∈ xs, x ≤ threshold := by
  rw [List.eq_nil_iff_forall_not_mem]
  simp only [mem_whereAbove_iff]
  constructor
  · intro h x hx
    obtain ⟨i, hi⟩ := List.mem_iff_getElem?.1 hx
    by_contra hlt
    exact h i ⟨x, hi, not_le.1 hlt⟩
  · rintro h i ⟨x, hx, hlt⟩
    exact absurd (h x (List.mem_of_getElem? hx)) (not_le.2 hlt)

theorem length_whereAbove [Zero K] (threshold : K) (xs : List K) :
    (whereAbove threshold xs).length = xs.countP (threshold < ·) := by
  rw [whereAbove, ← List.countP_eq_length_filter]
  conv_rhs => rw [← Positions.map_getD_range xs 0, List.countP_map]
  rfl

section Median

variable [Field K]

/-- The arithmetic mean. -/
def mean (xs : List K) : K := xs.sum / xs.length

/-- The middle entry of the sorted list, or the mean of its two middle entries. -/
def median (xs : List K) : K :=
  let sorted := xs.insertionSort (· ≤ ·)
  (sorted.getD ((xs.length - 1) / 2) 0 + sorted.getD (xs.length / 2) 0) / 2

/-- The absolute deviations of the entries from their median. -/
def deviations (xs : List K) : List K := xs.map fun x => |x - median xs|

/-- The median of the absolute deviations from the median. -/
def medianAbsDev (xs : List K) : K := median (deviations xs)

end Median

/-! ## Means -/

section Mean

variable [Field K]

omit [LinearOrder K] in
theorem mean_perm {xs ys : List K} (h : xs.Perm ys) : mean xs = mean ys := by
  rw [mean, mean, h.sum_eq, h.length_eq]

variable [IsStrictOrderedRing K]

theorem length_cast_pos {α : Type v} {xs : List α} (hne : xs ≠ []) : (0 : K) < xs.length :=
  Nat.cast_pos.2 (List.length_pos_iff.2 hne)

theorem le_mean {xs : List K} (hne : xs ≠ []) {a : K} (h : ∀ x ∈ xs, a ≤ x) : a ≤ mean xs := by
  have hsum := List.card_nsmul_le_sum xs a h
  rw [nsmul_eq_mul, mul_comm] at hsum
  rwa [mean, le_div_iff₀ (length_cast_pos hne)]

theorem mean_lt {xs : List K} (hne : xs ≠ []) {b : K} (h : ∀ x ∈ xs, x < b) : mean xs < b := by
  have hsum : xs.sum < xs.length • b := by
    have hlt := List.sum_lt_sum_of_ne_nil hne id (fun _ => b) h
    simpa using hlt
  rw [nsmul_eq_mul, mul_comm] at hsum
  rwa [mean, div_lt_iff₀ (length_cast_pos hne)]

/-- The mean of no entries is zero. -/
theorem mean_le {xs : List K} {b : K} (hb : 0 ≤ b) (h : ∀ x ∈ xs, x ≤ b) : mean xs ≤ b := by
  rcases eq_or_ne xs [] with rfl | hne
  · simpa [mean] using hb
  · have hsum := List.sum_le_card_nsmul xs b h
    rw [nsmul_eq_mul, mul_comm] at hsum
    rwa [mean, div_le_iff₀ (length_cast_pos hne)]

end Mean

/-! ## Order statistics -/

/-- In a sorted list a test that smaller entries pass more easily is passed by the entries before
the count of all that pass, and by no other. -/
theorem getElem_sorted_iff {l : List K} (hsorted : l.Pairwise (· ≤ ·)) {p : K → Bool}
    (hp : ∀ x y, x ≤ y → p y = true → p x = true) {k : ℕ} (hk : k < l.length) :
    p l[k] = true ↔ k < l.countP p := by
  induction l generalizing k with
  | nil => exact absurd hk (Nat.not_lt_zero k)
  | cons x xs ih =>
      rw [List.pairwise_cons] at hsorted
      by_cases hx : p x = true
      · rw [List.countP_cons_of_pos hx]
        cases k with
        | zero => exact iff_of_true hx (Nat.succ_pos _)
        | succ k =>
            rw [List.getElem_cons_succ, ih hsorted.2 (Nat.lt_of_succ_lt_succ hk),
              Nat.succ_lt_succ_iff]
      · -- the head is the smallest entry: nothing passes
        have hnone : ∀ y ∈ x :: xs, ¬ p y = true := by
          intro y hy hpy
          rcases List.mem_cons.1 hy with rfl | hmem
          · exact hx hpy
          · exact hx (hp x y (hsorted.1 y hmem) hpy)
        rw [List.countP_eq_zero.2 hnone]
        exact iff_of_false (hnone _ (List.getElem_mem hk)) (Nat.not_lt_zero k)

/-- The entry at a position of the sorted list. -/
def orderStatistic [Zero K] (xs : List K) (k : ℕ) : K := (xs.insertionSort (· ≤ ·)).getD k 0

theorem orderStatistic_iff [Zero K] (xs : List K) {p : K → Bool}
    (hp : ∀ x y, x ≤ y → p y = true → p x = true) {k : ℕ} (hk : k < xs.length) :
    p (orderStatistic xs k) = true ↔ k < xs.countP p := by
  have hlen : k < (xs.insertionSort (· ≤ ·)).length := by
    rwa [List.length_insertionSort]
  have hentry : orderStatistic xs k = (xs.insertionSort (· ≤ ·))[k] := by
    rw [orderStatistic, List.getD_eq_getElem?_getD, List.getElem?_eq_getElem hlen, Option.getD_some]
  rw [hentry, getElem_sorted_iff (List.pairwise_insertionSort _ xs) hp hlen,
    (List.perm_insertionSort (· ≤ ·) xs).countP_eq]

theorem orderStatistic_le_iff [Zero K] (xs : List K) (b : K) {k : ℕ} (hk : k < xs.length) :
    orderStatistic xs k ≤ b ↔ k < xs.countP (· ≤ b) := by
  have hp : ∀ x y : K, x ≤ y → decide (y ≤ b) = true → decide (x ≤ b) = true := by
    intro x y hxy hy
    exact decide_eq_true (hxy.trans (of_decide_eq_true hy))
  rw [← orderStatistic_iff xs hp hk, decide_eq_true_iff]

theorem le_orderStatistic_iff [Zero K] (xs : List K) (a : K) {k : ℕ} (hk : k < xs.length) :
    a ≤ orderStatistic xs k ↔ xs.length ≤ k + xs.countP (a ≤ ·) := by
  have hp : ∀ x y : K, x ≤ y → decide (y < a) = true → decide (x < a) = true := by
    intro x y hxy hy
    exact decide_eq_true (hxy.trans_lt (of_decide_eq_true hy))
  have hbelow := orderStatistic_iff xs hp hk
  rw [decide_eq_true_iff] at hbelow
  have hsplit : xs.length = xs.countP (a ≤ ·) + xs.countP (· < a) := by
    rw [List.length_eq_countP_add_countP (a ≤ ·)]
    simp
  rw [← not_lt, hbelow]
  omega

theorem orderStatistic_nonneg [Zero K] {xs : List K} (h : ∀ x ∈ xs, 0 ≤ x) (k : ℕ) :
    0 ≤ orderStatistic xs k := by
  rw [orderStatistic, List.getD_eq_getElem?_getD]
  cases hk : (xs.insertionSort (· ≤ ·))[k]? with
  | none => exact le_refl 0
  | some x =>
      have hmem : x ∈ xs.insertionSort (· ≤ ·) := List.mem_of_getElem? hk
      exact h x ((List.mem_insertionSort _).1 hmem)

/-! ## Majorities -/

section Majority

variable {α β : Type u}

/-- More than half of the entries pass the test. -/
def Majority (xs : List α) (p : α → Bool) : Prop := xs.length < 2 * xs.countP p

instance (xs : List α) (p : α → Bool) : Decidable (Majority xs p) := Nat.decLt _ _

theorem Majority.mono {xs : List α} {p q : α → Bool} (h : Majority xs p)
    (hpq : ∀ x ∈ xs, p x = true → q x = true) : Majority xs q := by
  have hcount : xs.countP p ≤ xs.countP q := List.countP_mono_left hpq
  simp only [Majority] at h ⊢
  omega

theorem majority_map_iff {xs : List α} {f : α → β} {q : β → Bool} :
    Majority (xs.map f) q ↔ Majority xs fun x => q (f x) := by
  rw [Majority, Majority, List.length_map, List.countP_map]
  rfl

/-- Counting entries is counting positions. -/
theorem countP_eq_card (xs : List α) (p : α → Bool) :
    xs.countP p = (Finset.univ.filter fun i : Fin xs.length => p (xs.get i) = true).card := by
  have hxs : xs.countP p = (List.finRange xs.length).countP fun i => p (xs.get i) := by
    conv_lhs => rw [← List.map_get_finRange xs, List.countP_map]
    rfl
  rw [hxs, List.countP_eq_length_filter]
  rw [← List.toFinset_card_of_nodup ((List.nodup_finRange _).filter _)]
  congr 1
  ext i
  simp

end Majority

/-- All entries lie in an interval, but for those at fewer than half of the positions. -/
structure Minority (xs : List K) (a b : K) (s : Finset (Fin xs.length)) : Prop where
  card_lt : 2 * s.card < xs.length
  le : ∀ i ∉ s, a ≤ xs.get i
  ge : ∀ i ∉ s, xs.get i ≤ b

theorem Minority.majority {xs : List K} {a b : K} {s : Finset (Fin xs.length)}
    (h : Minority xs a b s) : Majority xs fun x => decide (a ≤ x ∧ x ≤ b) := by
  have hsub : sᶜ ⊆ Finset.univ.filter fun i : Fin xs.length =>
      decide (a ≤ xs.get i ∧ xs.get i ≤ b) = true := by
    intro i hi
    have hi' : i ∉ s := Finset.mem_compl.1 hi
    exact Finset.mem_filter.2 ⟨Finset.mem_univ i, decide_eq_true ⟨h.le i hi', h.ge i hi'⟩⟩
  have hcard := Finset.card_le_card hsub
  have hcompl : sᶜ.card = xs.length - s.card := by
    rw [Finset.card_compl, Fintype.card_fin]
  have hlt := h.card_lt
  rw [Majority, countP_eq_card]
  omega

/-! ## The median of a majority -/

section MedianMajority

variable [Field K]

theorem median_eq (xs : List K) : median xs =
    (orderStatistic xs ((xs.length - 1) / 2) + orderStatistic xs (xs.length / 2)) / 2 := rfl

variable [IsStrictOrderedRing K]

theorem median_le_of_majority {xs : List K} {b : K} (h : Majority xs (· ≤ b)) :
    median xs ≤ b := by
  have hle : xs.countP (· ≤ b) ≤ xs.length := List.countP_le_length
  rw [Majority] at h
  have hlow : orderStatistic xs ((xs.length - 1) / 2) ≤ b := by
    apply (orderStatistic_le_iff xs b (by omega)).2
    omega
  have hhigh : orderStatistic xs (xs.length / 2) ≤ b := by
    apply (orderStatistic_le_iff xs b (by omega)).2
    omega
  rw [median_eq]
  linarith

theorem le_median_of_majority {xs : List K} {a : K} (h : Majority xs (a ≤ ·)) :
    a ≤ median xs := by
  have hle : xs.countP (a ≤ ·) ≤ xs.length := List.countP_le_length
  rw [Majority] at h
  have hlow : a ≤ orderStatistic xs ((xs.length - 1) / 2) := by
    apply (le_orderStatistic_iff xs a (by omega)).2
    omega
  have hhigh : a ≤ orderStatistic xs (xs.length / 2) := by
    apply (le_orderStatistic_iff xs a (by omega)).2
    omega
  rw [median_eq]
  linarith

/-- The median of a majority lies between its bounds. -/
theorem median_mem_of_majority {xs : List K} {a b : K}
    (h : Majority xs fun x => decide (a ≤ x ∧ x ≤ b)) :
    a ≤ median xs ∧ median xs ≤ b := by
  constructor
  · apply le_median_of_majority
    apply h.mono
    intro x _ hx
    exact decide_eq_true (of_decide_eq_true hx).1
  · apply median_le_of_majority
    apply h.mono
    intro x _ hx
    exact decide_eq_true (of_decide_eq_true hx).2

/-- The absolute deviation is at most the width of an interval that holds a majority. -/
theorem medianAbsDev_le_of_majority {xs : List K} {a b : K}
    (h : Majority xs fun x => decide (a ≤ x ∧ x ≤ b)) : medianAbsDev xs ≤ b - a := by
  obtain ⟨hlow, hhigh⟩ := median_mem_of_majority h
  apply median_le_of_majority
  rw [deviations, majority_map_iff]
  apply h.mono
  intro x _ hx
  have hx' := of_decide_eq_true hx
  apply decide_eq_true
  rw [abs_le]
  constructor <;> linarith [hx'.1, hx'.2]

theorem median_nonneg {xs : List K} (h : ∀ x ∈ xs, 0 ≤ x) : 0 ≤ median xs := by
  rw [median_eq]
  linarith [orderStatistic_nonneg h ((xs.length - 1) / 2),
    orderStatistic_nonneg h (xs.length / 2)]

/-- If no entry is negative and the median is zero, most entries are zero. -/
theorem majority_of_median_eq_zero {xs : List K} (hne : xs ≠ []) (h : ∀ x ∈ xs, 0 ≤ x)
    (hmedian : median xs = 0) : Majority xs (· ≤ 0) := by
  have hpos : 0 < xs.length := List.length_pos_iff.2 hne
  have hhigh : orderStatistic xs (xs.length / 2) ≤ 0 := by
    have hsum := hmedian
    rw [median_eq] at hsum
    linarith [orderStatistic_nonneg h ((xs.length - 1) / 2)]
  rw [orderStatistic_le_iff xs 0 (by omega)] at hhigh
  rw [Majority]
  omega

theorem deviations_nonneg (xs : List K) : ∀ d ∈ deviations xs, 0 ≤ d := by
  intro d hd
  obtain ⟨x, -, rfl⟩ := List.mem_map.1 hd
  exact abs_nonneg _

theorem medianAbsDev_nonneg (xs : List K) : 0 ≤ medianAbsDev xs :=
  median_nonneg (deviations_nonneg xs)

/-- The absolute deviation vanishes exactly when more than half of the entries are one value. -/
theorem medianAbsDev_eq_zero_iff {xs : List K} (hne : xs ≠ []) :
    medianAbsDev xs = 0 ↔ ∃ v, Majority xs fun x => decide (x = v) := by
  constructor
  · intro h
    refine ⟨median xs, ?_⟩
    have hdev : deviations xs ≠ [] := by simpa [deviations] using hne
    have hzero := majority_of_median_eq_zero hdev (deviations_nonneg xs) h
    rw [deviations, majority_map_iff] at hzero
    apply hzero.mono
    intro x _ hx
    have habs : |x - median xs| ≤ 0 := of_decide_eq_true hx
    exact decide_eq_true (sub_eq_zero.1 (abs_nonpos_iff.1 habs))
  · rintro ⟨v, hv⟩
    have hbetween : Majority xs fun x => decide (v ≤ x ∧ x ≤ v) := by
      apply hv.mono
      intro x _ hx
      have hxv : x = v := of_decide_eq_true hx
      exact decide_eq_true ⟨hxv.ge, hxv.le⟩
    have hle := medianAbsDev_le_of_majority hbetween
    rw [sub_self] at hle
    exact le_antisymm hle (medianAbsDev_nonneg xs)

end MedianMajority

end TrojanDetection.Library.RobustStatistics
