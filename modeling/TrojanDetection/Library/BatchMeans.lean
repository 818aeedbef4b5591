import TrojanDetection.Library.RobustStatistics
import Mathlib.Tactic.Ring

/-!
# Means over groups

A list is split into groups, and a statistic is computed group by group. The mean of the group means
weighs every group the same. It is the mean over all entries exactly when the group means do not
correlate with the group sizes (`mean_means_eq_iff`), which groups of one size guarantee
(`mean_means_of_length`) and no others do: if the two agree for the indicator of every set of
entries, all groups have one size (`equalSizes_of_indicators`).
-/

set_option autoImplicit false

namespace TrojanDetection.Library.BatchMeans

open TrojanDetection.Library.RobustStatistics

universe u v

variable {ι : Type u} {K : Type v} [Field K]

/-- All groups have the same number of entries. -/
def EqualSizes (groups : List (List ι)) : Prop :=
  ∀ g ∈ groups, ∀ g' ∈ groups, g.length = g'.length

instance (groups : List (List ι)) : Decidable (EqualSizes groups) :=
  inferInstanceAs (Decidable (∀ g ∈ groups, ∀ g' ∈ groups, g.length = g'.length))

/-- One on the entries of a set, zero elsewhere. -/
def indicator (p : ι → Bool) (x : ι) : K := if p x then 1 else 0

theorem sum_map_indicator (p : ι → Bool) (xs : List ι) :
    (xs.map (indicator p)).sum = (xs.countP p : K) := by
  induction xs with
  | nil => simp
  | cons x xs ih =>
      rw [List.map_cons, List.sum_cons, ih, List.countP_cons, indicator]
      cases p x with
      | false => simp
      | true => simp [add_comm]

theorem mean_map_indicator (p : ι → Bool) (xs : List ι) :
    mean (xs.map (indicator p)) = (xs.countP p / xs.length : K) := by
  rw [mean, sum_map_indicator, List.length_map]

/-- Groups without a member of the set have mean zero. -/
theorem sum_means_indicator_eq_zero {p : ι → Bool} {groups : List (List ι)}
    (h : ∀ x ∈ groups.flatten, p x = false) :
    (groups.map fun g => mean (g.map (indicator (K := K) p))).sum = 0 := by
  apply List.sum_eq_zero
  intro m hm
  obtain ⟨g, hg, rfl⟩ := List.mem_map.1 hm
  have hnone : g.countP p = 0 := by
    rw [List.countP_eq_zero]
    intro x hx
    simp [h x (List.mem_flatten.2 ⟨g, hg, hx⟩)]
  rw [mean_map_indicator, hnone, Nat.cast_zero, zero_div]

/-- A sum weighted by a linear function of the weights. -/
theorem sum_map_linear_mul {α : Type u} (xs : List α) (weight value : α → K) (a b : K) :
    (xs.map fun x => (a * weight x - b) * value x).sum =
      a * (xs.map fun x => weight x * value x).sum - b * (xs.map value).sum := by
  induction xs with
  | nil => simp
  | cons x xs ih =>
      simp only [List.map_cons, List.sum_cons, ih]
      ring

variable [LinearOrder K] [IsStrictOrderedRing K]

/-- Where no value is negative, nothing cancels. -/
theorem sum_map_eq_zero_iff {α : Type u} {xs : List α} {value : α → K}
    (h : ∀ x ∈ xs, 0 ≤ value x) : (xs.map value).sum = 0 ↔ ∀ x ∈ xs, value x = 0 := by
  have hnonneg : ∀ y ∈ xs.map value, 0 ≤ y := by simpa using h
  constructor
  · intro hsum x hx
    exact List.all_zero_of_le_zero_le_of_sum_eq_zero hnonneg hsum (List.mem_map_of_mem hx)
  · intro hzero
    apply List.sum_eq_zero
    simpa using hzero

theorem mean_map_eq_zero_iff {α : Type u} {xs : List α} {value : α → K}
    (h : ∀ x ∈ xs, 0 ≤ value x) : mean (xs.map value) = 0 ↔ ∀ x ∈ xs, value x = 0 := by
  rcases eq_or_ne xs [] with rfl | hne
  · simp [mean]
  · have hpos : (0 : K) < xs.length := length_cast_pos hne
    rw [mean, List.length_map, div_eq_zero_iff, or_iff_left hpos.ne', sum_map_eq_zero_iff h]

theorem sum_map_eq_length_mul_mean {g : List ι} (hne : g ≠ []) (f : ι → K) :
    (g.map f).sum = g.length * mean (g.map f) := by
  have hpos : (0 : K) < g.length := length_cast_pos hne
  rw [mean, List.length_map, mul_div_cancel₀ _ hpos.ne']

/-- The sum over all entries from the group means. -/
theorem sum_map_flatten {groups : List (List ι)} (hne : ∀ g ∈ groups, g ≠ []) (f : ι → K) :
    (groups.flatten.map f).sum = (groups.map fun g => (g.length : K) * mean (g.map f)).sum := by
  induction groups with
  | nil => rfl
  | cons g groups ih =>
      obtain ⟨hg, hgroups⟩ := List.forall_mem_cons.1 hne
      rw [List.flatten_cons, List.map_append, List.sum_append, List.map_cons, List.sum_cons,
        ih hgroups, sum_map_eq_length_mul_mean hg]

/-- The mean of the group means is the mean over all entries exactly when group sizes and group
means do not correlate. -/
theorem mean_means_eq_iff {groups : List (List ι)} (hgroups : groups ≠ [])
    (hne : ∀ g ∈ groups, g ≠ []) (f : ι → K) :
    mean (groups.map fun g => mean (g.map f)) = mean (groups.flatten.map f) ↔
      (groups.map fun g =>
        ((groups.length : K) * g.length - groups.flatten.length) * mean (g.map f)).sum = 0 := by
  have hpos : (0 : K) < groups.length := length_cast_pos hgroups
  have hflatten : groups.flatten ≠ [] := by
    obtain ⟨g, hg⟩ := List.exists_mem_of_ne_nil groups hgroups
    intro hnil
    exact hne g hg (List.flatten_eq_nil_iff.1 hnil g hg)
  have hall : (0 : K) < groups.flatten.length := length_cast_pos hflatten
  have hmean : mean (groups.map fun g => mean (g.map f)) =
      (groups.map fun g => mean (g.map f)).sum / groups.length := by
    rw [mean, List.length_map]
  have hmeanAll : mean (groups.flatten.map f) =
      (groups.flatten.map f).sum / groups.flatten.length := by
    rw [mean, List.length_map]
  -- cross-multiplied, the two sides are the two sums that the weights combine
  rw [hmean, hmeanAll, div_eq_div_iff hpos.ne' hall.ne', sum_map_linear_mul,
    ← sum_map_flatten hne, sub_eq_zero, mul_comm _ (groups.flatten.length : K),
    mul_comm _ (groups.length : K)]
  exact eq_comm

/-- Groups of one size: the mean of the group means is the mean over all entries. -/
theorem mean_means_of_equalSizes {groups : List (List ι)} (hne : ∀ g ∈ groups, g ≠ [])
    (h : EqualSizes groups) (f : ι → K) :
    mean (groups.map fun g => mean (g.map f)) = mean (groups.flatten.map f) := by
  rcases eq_or_ne groups [] with rfl | hgroups
  · rfl
  · rw [mean_means_eq_iff hgroups hne]
    obtain ⟨g₀, hg₀⟩ := List.exists_mem_of_ne_nil groups hgroups
    have hlen : groups.flatten.length = groups.length * g₀.length := by
      rw [List.length_flatten, List.map_congr_left fun g hg => h g hg g₀ hg₀]
      simp
    apply List.sum_eq_zero
    intro x hx
    obtain ⟨g, hg, rfl⟩ := List.mem_map.1 hx
    rw [hlen, h g hg g₀ hg₀, Nat.cast_mul, sub_self, zero_mul]

/-- Groups of one size, given by the size. -/
theorem mean_means_of_length {groups : List (List ι)} {n : ℕ} (hn : n ≠ 0)
    (h : ∀ g ∈ groups, g.length = n) (f : ι → K) :
    mean (groups.map fun g => mean (g.map f)) = mean (groups.flatten.map f) := by
  apply mean_means_of_equalSizes
  · intro g hg hnil
    rw [← h g hg, hnil] at hn
    exact hn rfl
  · intro g hg g' hg'
    rw [h g hg, h g' hg']

/-! ## Groups of different sizes -/

section Disjoint

variable [DecidableEq ι] {before after : List (List ι)} {g : List ι}

/-- The members of a group are in no other group. -/
theorem not_mem_other_groups (hnodup : (before ++ g :: after).flatten.Nodup) :
    (∀ x ∈ before.flatten, decide (x ∈ g) = false) ∧
      ∀ x ∈ after.flatten, decide (x ∈ g) = false := by
  rw [List.flatten_append, List.flatten_cons] at hnodup
  obtain ⟨-, hrest, hbefore⟩ := List.nodup_append.1 hnodup
  obtain ⟨-, -, hafter⟩ := List.nodup_append.1 hrest
  constructor
  · intro x hx
    apply decide_eq_false
    intro hmem
    exact hbefore x hx x (List.mem_append_left _ hmem) rfl
  · intro x hx
    apply decide_eq_false
    intro hmem
    exact hafter x hmem x hx rfl

theorem countP_mem_self (g : List ι) : g.countP (fun x => decide (x ∈ g)) = g.length := by
  rw [List.countP_eq_length]
  intro x hx
  exact decide_eq_true hx

/-- Among all entries the members of a group are counted once. -/
theorem countP_mem_flatten (hnodup : (before ++ g :: after).flatten.Nodup) :
    (before ++ g :: after).flatten.countP (fun x => decide (x ∈ g)) = g.length := by
  obtain ⟨hbefore, hafter⟩ := not_mem_other_groups hnodup
  have hnoBefore : before.flatten.countP (fun x => decide (x ∈ g)) = 0 := by
    rw [List.countP_eq_zero]
    intro x hx
    simp [hbefore x hx]
  have hnoAfter : after.flatten.countP (fun x => decide (x ∈ g)) = 0 := by
    rw [List.countP_eq_zero]
    intro x hx
    simp [hafter x hx]
  rw [List.flatten_append, List.flatten_cons, List.countP_append, List.countP_append, hnoBefore,
    hnoAfter, countP_mem_self, Nat.zero_add, Nat.add_zero]

/-- The group is the only one with a mean for the indicator of its members. -/
theorem sum_means_mem (hne : g ≠ []) (hnodup : (before ++ g :: after).flatten.Nodup) :
    ((before ++ g :: after).map fun g' =>
      mean (g'.map (indicator (K := K) fun x => decide (x ∈ g)))).sum = 1 := by
  obtain ⟨hbefore, hafter⟩ := not_mem_other_groups hnodup
  have hg : (0 : K) < g.length := length_cast_pos hne
  rw [List.map_append, List.sum_append, List.map_cons, List.sum_cons,
    sum_means_indicator_eq_zero hbefore, sum_means_indicator_eq_zero hafter,
    mean_map_indicator, countP_mem_self, div_self hg.ne', zero_add, add_zero]

/-- Every group has the average size if its indicator has the same mean in both ways. -/
theorem length_flatten_of_indicator (hne : g ≠ [])
    (hnodup : (before ++ g :: after).flatten.Nodup)
    (h : mean ((before ++ g :: after).map fun g' =>
        mean (g'.map (indicator (K := K) fun x => decide (x ∈ g)))) =
      mean ((before ++ g :: after).flatten.map (indicator fun x => decide (x ∈ g)))) :
    ((before ++ g :: after).flatten.length : K) = (before ++ g :: after).length * g.length := by
  have hgroups : (0 : K) < (before ++ g :: after).length := length_cast_pos (by simp)
  have hflatten : (0 : K) < (before ++ g :: after).flatten.length := by
    apply length_cast_pos
    intro hnil
    exact hne (List.flatten_eq_nil_iff.1 hnil g (by simp))
  rw [mean_map_indicator, countP_mem_flatten hnodup, mean, sum_means_mem hne hnodup,
    List.length_map, div_eq_div_iff hgroups.ne' hflatten.ne', one_mul] at h
  rw [h, mul_comm]

end Disjoint

/-- If the mean of the group means is the mean over all entries for the indicator of every set, the
groups have one size. -/
theorem equalSizes_of_indicators [DecidableEq ι] {groups : List (List ι)}
    (hne : ∀ g ∈ groups, g ≠ []) (hnodup : groups.flatten.Nodup)
    (h : ∀ p : ι → Bool, mean (groups.map fun g => mean (g.map (indicator (K := K) p))) =
      mean (groups.flatten.map (indicator p))) :
    EqualSizes groups := by
  have hsize : ∀ g ∈ groups, (groups.flatten.length : K) = groups.length * g.length := by
    intro g hg
    -- the set to choose is the group itself
    have hmembers := h fun x => decide (x ∈ g)
    obtain ⟨before, after, rfl⟩ := List.append_of_mem hg
    exact length_flatten_of_indicator (hne g hg) hnodup hmembers
  intro g hg g' hg'
  have hpos : (0 : K) < groups.length := length_cast_pos (List.ne_nil_of_mem hg)
  have heq : (groups.length : K) * g.length = groups.length * g'.length :=
    (hsize g hg).symm.trans (hsize g' hg')
  exact_mod_cast mul_left_cancel₀ hpos.ne' heq

end TrojanDetection.Library.BatchMeans
