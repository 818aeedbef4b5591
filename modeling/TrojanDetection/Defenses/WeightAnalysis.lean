import TrojanDetection.Defenses.RiskFusion
import TrojanDetection.Library.RobustStatistics
import TrojanDetection.Models.Modules

/-!
# Linear weight analysis (`defenses.py`, `WeightAnalysis`)

`detect` takes the row norms of the last linear layer and returns their distances from the median in
units of the median absolute deviation. Neural Cleanse keeps that unit above `1e-4`; here a unit of
zero ends the analysis with an empty list, which the fusion engine reads as no risk. An isolated
minority of large rows is therefore found exactly when no value is shared by more than half of the
rows (`findsMinority_iff`).
-/

set_option autoImplicit false

namespace TrojanDetection.Defenses

open TrojanDetection.Library.RobustStatistics
open TrojanDetection.Models
open TrojanDetection.Defenses.RiskFusion

/-- The detector sees the modules of a network; a linear layer is given by the norms of its rows. -/
structure WeightAnalysis where
  modules : NamedModules (List ℚ)

namespace WeightAnalysis

/-- `np.abs(norms - median_norm) / mad`, or nothing if `mad == 0`. -/
def anomalyIndices (norms : List ℚ) : List ℚ :=
  let mad := medianAbsDev norms
  -- the warning of the source: the index cannot be calculated reliably
  if mad = 0 then []
  else (deviations norms).map fun d => d / mad

/-- `WeightAnalysis.detect`: the indices of the last linear layer, if there is one. -/
def detect (wa : WeightAnalysis) : List ℚ :=
  match finalLinear wa.modules with
  | some (_, norms) => anomalyIndices norms
  | none => []

theorem detect_of_finalLinear {wa : WeightAnalysis} {name : String} {norms : List ℚ}
    (h : finalLinear wa.modules = some (name, norms)) : wa.detect = anomalyIndices norms := by
  rw [detect, h]

theorem anomalyIndices_of_eq_zero {norms : List ℚ} (h : medianAbsDev norms = 0) :
    anomalyIndices norms = [] :=
  if_pos h

theorem anomalyIndices_eq_map_deviations {norms : List ℚ} (h : medianAbsDev norms ≠ 0) :
    anomalyIndices norms = (deviations norms).map fun d => d / medianAbsDev norms :=
  if_neg h

theorem anomalyIndices_of_ne_zero {norms : List ℚ} (h : medianAbsDev norms ≠ 0) :
    anomalyIndices norms = norms.map fun x => |x - median norms| / medianAbsDev norms := by
  rw [anomalyIndices_eq_map_deviations h, deviations, List.map_map]
  rfl

/-! ## Isolated minorities -/

/-- The norms outside `s` lie in `[a, b]`, and those in `s` are above `b` by twice the width. -/
structure IsolatedMinority (norms : List ℚ) (a b : ℚ) (s : Finset (Fin norms.length)) : Prop
    extends Minority norms a b s where
  above : ∀ i ∈ s, b < norms.get i
  isolated : ∀ i ∈ s, b + 2 * (b - a) ≤ norms.get i

/-- Every class of `s` has an index above `1.8`, and the normalised risk is positive. -/
def FindsMinority {n : ℕ} (indices : List ℚ) (s : Finset (Fin n)) : Prop :=
  (∀ i ∈ s, ∃ x, indices[i.val]? = some x ∧ 18 / 10 < x) ∧ 0 < normalizeWeightAnalysis indices

/-- One value is shared by more than half of the rows. -/
def SharedByMajority (norms : List ℚ) : Prop := ∃ v, Majority norms fun x => decide (x = v)

/-- Some norm is more than `1.8` deviations away from the median. -/
def HasOutlier (norms : List ℚ) : Prop :=
  ∃ x ∈ norms, 18 / 10 * medianAbsDev norms < |x - median norms|

theorem normalizeWeightAnalysis_pos_iff {indices : List ℚ} :
    0 < normalizeWeightAnalysis indices ↔ ∃ x ∈ indices, 18 / 10 < x := by
  have hnonneg : 0 ≤ normalizeWeightAnalysis indices := normalizeIndices_nonneg indices
  rw [hnonneg.lt_iff_ne', ne_eq, normalizeWeightAnalysis,
    normalizeIndices_eq_zero_iff (by norm_num)]
  push Not
  rfl

theorem lt_index_iff {norms : List ℚ} (h : medianAbsDev norms ≠ 0) (d : ℚ) :
    18 / 10 < d / medianAbsDev norms ↔ 18 / 10 * medianAbsDev norms < d := by
  have hpos : 0 < medianAbsDev norms := (medianAbsDev_nonneg norms).lt_of_ne' h
  rw [lt_div_iff₀ hpos]

theorem sharedByMajority_iff {norms : List ℚ} (hne : norms ≠ []) :
    SharedByMajority norms ↔ medianAbsDev norms = 0 :=
  (medianAbsDev_eq_zero_iff hne).symm

/-- The indices of a layer with a deviation have a positive risk exactly when some norm is an
outlier. -/
theorem normalizeWeightAnalysis_anomalyIndices_pos_iff {norms : List ℚ}
    (h : medianAbsDev norms ≠ 0) :
    0 < normalizeWeightAnalysis (anomalyIndices norms) ↔ HasOutlier norms := by
  rw [normalizeWeightAnalysis_pos_iff, anomalyIndices_of_ne_zero h, HasOutlier]
  constructor
  · rintro ⟨y, hy, hlt⟩
    obtain ⟨x, hx, rfl⟩ := List.mem_map.1 hy
    exact ⟨x, hx, (lt_index_iff h _).1 hlt⟩
  · rintro ⟨x, hx, hlt⟩
    exact ⟨_, List.mem_map.2 ⟨x, hx, rfl⟩, (lt_index_iff h _).2 hlt⟩

namespace IsolatedMinority

variable {norms : List ℚ} {a b : ℚ} {s : Finset (Fin norms.length)}

theorem ne_nil (hs : IsolatedMinority norms a b s) : norms ≠ [] := by
  rintro rfl
  exact Nat.not_lt_zero _ hs.card_lt

/-- The norms of an isolated minority are outliers, whatever the other norms are. -/
theorem lt_deviation (hs : IsolatedMinority norms a b s) (h : medianAbsDev norms ≠ 0)
    {i : Fin norms.length} (hi : i ∈ s) :
    18 / 10 * medianAbsDev norms < |norms.get i - median norms| := by
  have hmad : medianAbsDev norms ≤ b - a := medianAbsDev_le_of_majority hs.toMinority.majority
  have hpos : 0 < medianAbsDev norms := (medianAbsDev_nonneg norms).lt_of_ne' h
  have hmedian : median norms ≤ b := (median_mem_of_majority hs.toMinority.majority).2
  rw [lt_abs]
  left
  linarith [hs.isolated i hi]

theorem hasOutlier (hs : IsolatedMinority norms a b s) (h : medianAbsDev norms ≠ 0)
    (hne : s.Nonempty) : HasOutlier norms := by
  obtain ⟨i, hi⟩ := hne
  exact ⟨norms.get i, List.get_mem norms i, hs.lt_deviation h hi⟩

end IsolatedMinority

/-- An isolated minority is found exactly when no value is shared by more than half of the rows;
for an empty minority a positive risk also needs an outlier. -/
theorem findsMinority_iff {wa : WeightAnalysis} {name : String} {norms : List ℚ}
    (hlayer : finalLinear wa.modules = some (name, norms)) {a b : ℚ}
    {s : Finset (Fin norms.length)} (hs : IsolatedMinority norms a b s) :
    FindsMinority wa.detect s ↔
      ¬ SharedByMajority norms ∧ (s.Nonempty ∨ HasOutlier norms) := by
  rw [detect_of_finalLinear hlayer, sharedByMajority_iff hs.ne_nil]
  by_cases hmad : medianAbsDev norms = 0
  · -- the early return: an empty list carries no risk
    apply iff_of_false
    · rintro ⟨-, hrisk⟩
      rw [anomalyIndices_of_eq_zero hmad] at hrisk
      exact lt_irrefl 0 hrisk
    · rintro ⟨hne, -⟩
      exact hne hmad
  · constructor
    · rintro ⟨-, hrisk⟩
      exact ⟨hmad, Or.inr ((normalizeWeightAnalysis_anomalyIndices_pos_iff hmad).1 hrisk)⟩
    · rintro ⟨-, hcase⟩
      constructor
      · intro i hi
        refine ⟨|norms.get i - median norms| / medianAbsDev norms, ?_, ?_⟩
        · rw [anomalyIndices_of_ne_zero hmad]
          simp
        · exact (lt_index_iff hmad _).2 (hs.lt_deviation hmad hi)
      · apply (normalizeWeightAnalysis_anomalyIndices_pos_iff hmad).2
        rcases hcase with hne | houtlier
        · exact hs.hasOutlier hmad hne
        · exact houtlier

/-! ## Two layers -/

/-- A network whose last linear layer has the given row norms. -/
def ofNorms (norms : List ℚ) : WeightAnalysis where
  modules := [("conv1", .other), ("fc", .linear norms)]

theorem finalLinear_ofNorms (norms : List ℚ) :
    finalLinear (ofNorms norms).modules = some ("fc", norms) := rfl

/-- Three different norms and a large one: the large one is found. -/
theorem findsMinority_spread :
    FindsMinority (ofNorms [1, 2, 3, 9]).detect ({3} : Finset (Fin 4)) := by
  have hs : IsolatedMinority [1, 2, 3, 9] 1 3 ({3} : Finset (Fin 4)) :=
    ⟨⟨by decide, by decide +kernel, by decide +kernel⟩, by decide +kernel, by decide +kernel⟩
  have hshared : ¬ SharedByMajority [1, 2, 3, 9] := by
    rw [sharedByMajority_iff hs.ne_nil]
    decide +kernel
  exact (findsMinority_iff (finalLinear_ofNorms _) hs).2
    ⟨hshared, Or.inl (Finset.singleton_nonempty _)⟩

/-- Three equal norms hide a fourth that is five times as large. -/
theorem not_findsMinority_equal_norms :
    IsolatedMinority [1, 1, 1, 5] 1 1 ({3} : Finset (Fin 4)) ∧
      (ofNorms [1, 1, 1, 5]).detect = [] ∧
      ¬ FindsMinority (ofNorms [1, 1, 1, 5]).detect ({3} : Finset (Fin 4)) := by
  have hdetect : (ofNorms [1, 1, 1, 5]).detect = [] := by decide +kernel
  refine ⟨⟨⟨by decide, by decide +kernel, by decide +kernel⟩, by decide +kernel,
    by decide +kernel⟩, hdetect, ?_⟩
  rw [hdetect]
  rintro ⟨-, hrisk⟩
  exact lt_irrefl 0 hrisk

end WeightAnalysis

end TrojanDetection.Defenses
