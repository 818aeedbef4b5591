import TrojanDetection.Service.ScanTask

/-!
# How a scan with a firing STRIP can still be cleared (`celery_worker.py`, `api.py`)

The fused score is a mean over the signals that fire, so a weak signal lowers it. In the worker the
possible readings are limited: STRIP has one of three ratios, and a flagged class is given an anomaly
index of at least `2.5`. It follows how much dilution a cleared scan needs. If STRIP fires, or fails,
no scan on the weighted path is cleared unless at least two of the other detectors fire with a risk
under `2/5`, and Neural Cleanse is never one of them (`two_le_card_diluting`).
-/

set_option autoImplicit false

namespace TrojanDetection.Service.Dilution

open TrojanDetection.Python
open TrojanDetection.Library
open TrojanDetection.Library.ActiveMean
open TrojanDetection.Defenses.RiskFusion
open TrojanDetection.Service.ScanTask
open TrojanDetection.Service.Verdict

/-! ## The readings of the worker -/

/-- The signals that fire below the level of a cleared scan. -/
def diluting (o : StageOutcomes) : Finset Signal :=
  Finset.univ.filter fun s => 0 < stageRisk o s ∧ stageRisk o s < 2 / 5

theorem mem_diluting {o : StageOutcomes} {s : Signal} :
    s ∈ diluting o ↔ 0 < stageRisk o s ∧ stageRisk o s < 2 / 5 := by
  simp [diluting]

/-- STRIP is silent, or its risk is at least `9/10`. -/
theorem strip_cases (o : StageOutcomes) :
    stageRisk o .strip = 0 ∨ 9 / 10 ≤ stageRisk o .strip := by
  rw [stageRisk]
  -- the ratios 1/2, 1/20 and 0 have the risks 0, 9/10 and 1
  rcases recordedRatio_cases o.strip with h | h | h <;> rw [h] <;>
    norm_num [normalizeStrip, clampUnit]

/-- A flagged class counts for at least `2/5`. -/
theorem neuralCleanse_cases (o : StageOutcomes) :
    stageRisk o .neuralCleanse = 0 ∨ 2 / 5 ≤ stageRisk o .neuralCleanse := by
  rw [stageRisk]
  cases h : o.neuralCleanse with
  | error e => exact .inl rfl
  | ok nc =>
      rw [recordedIndices, ncIndices]
      split
      · right
        have hlo := nc.draw.lo
        show 2 / 5 ≤ ramp (3 / 2) (5 / 2) nc.draw.val
        rw [ramp_of_baseline_le (by linarith) (by norm_num), le_min_iff]
        refine ⟨?_, by norm_num⟩
        rw [le_div_iff₀ (by norm_num)]
        linarith
      · exact .inl rfl

theorem strip_notMem_diluting (o : StageOutcomes) : .strip ∉ diluting o := by
  rw [mem_diluting]
  rintro ⟨hpos, hlt⟩
  rcases strip_cases o with h | h
  · exact hpos.ne' h
  · linarith

theorem neuralCleanse_notMem_diluting (o : StageOutcomes) : .neuralCleanse ∉ diluting o := by
  rw [mem_diluting]
  rintro ⟨hpos, hlt⟩
  rcases neuralCleanse_cases o with h | h
  · exact hpos.ne' h
  · linarith

/-- The signals that can dilute have the smaller weight. -/
theorem weight_of_mem_diluting {o : StageOutcomes} {s : Signal} (h : s ∈ diluting o) :
    defaultWeight s = 15 / 100 := by
  cases s with
  | neuralCleanse => exact absurd h (neuralCleanse_notMem_diluting o)
  | strip => exact absurd h (strip_notMem_diluting o)
  | clustering => rfl
  | weightAnalysis => rfl
  | naturalProfiler => rfl
  | gradientSimilarity => rfl

/-! ## The excess over the level -/

/-- What a signal adds to the excess of the firing signals over `2/5`. -/
def contribution (o : StageOutcomes) (s : Signal) : ℚ := (stageRisk o s - 2 / 5) * defaultWeight s

theorem contribution_nonneg {o : StageOutcomes} {s : Signal} (hpos : 0 < stageRisk o s)
    (h : s ∉ diluting o) : 0 ≤ contribution o s := by
  have hle : 2 / 5 ≤ stageRisk o s := by
    by_contra hlt
    exact h (mem_diluting.2 ⟨hpos, not_le.1 hlt⟩)
  exact mul_nonneg (sub_nonneg.2 hle) (defaultWeight_pos s).le

theorem neg_le_contribution {o : StageOutcomes} {s : Signal} (h : s ∈ diluting o) :
    - (6 / 100) ≤ contribution o s := by
  have hpos := (mem_diluting.1 h).1
  rw [contribution, weight_of_mem_diluting h]
  linarith

/-- Every diluting signal lowers the excess by at most `6/100`, and a firing STRIP alone has an
excess of `10/100`. -/
theorem le_excess {o : StageOutcomes} (hstrip : stageRisk o .strip ≠ 0) :
    10 / 100 - 6 / 100 * ((diluting o).card : ℚ) ≤
      ∑ s ∈ fired Finset.univ (stageRisk o), contribution o s := by
  have hfires : 9 / 10 ≤ stageRisk o .strip := (strip_cases o).resolve_left hstrip
  have hmem : .strip ∈ fired Finset.univ (stageRisk o) \ diluting o := by
    rw [Finset.mem_sdiff, mem_fired]
    exact ⟨⟨Finset.mem_univ _, by linarith⟩, strip_notMem_diluting o⟩
  have hsubset : diluting o ⊆ fired Finset.univ (stageRisk o) := by
    intro s hs
    exact mem_fired.2 ⟨Finset.mem_univ s, (mem_diluting.1 hs).1⟩
  have hstrong : 10 / 100 ≤ ∑ s ∈ fired Finset.univ (stageRisk o) \ diluting o,
      contribution o s := by
    have hsingle : contribution o .strip ≤
        ∑ s ∈ fired Finset.univ (stageRisk o) \ diluting o, contribution o s := by
      apply Finset.single_le_sum (f := contribution o) _ hmem
      intro s hs
      obtain ⟨hs, hnot⟩ := Finset.mem_sdiff.1 hs
      exact contribution_nonneg (mem_fired.1 hs).2 hnot
    have hvalue : 10 / 100 ≤ contribution o .strip := by
      rw [contribution, defaultWeight]
      linarith
    exact hvalue.trans hsingle
  have hweak : - (6 / 100 * ((diluting o).card : ℚ)) ≤ ∑ s ∈ diluting o, contribution o s := by
    have hcard := Finset.card_nsmul_le_sum (diluting o) (contribution o) (- (6 / 100))
      fun s hs => neg_le_contribution hs
    rw [nsmul_eq_mul] at hcard
    linarith
  rw [← Finset.sum_sdiff hsubset]
  linarith

/-! ## Cleared scans -/

/-- If STRIP fires or fails, a scan on the weighted path is cleared only if at least two detectors
other than Neural Cleanse fire with a risk under `2/5`. -/
theorem two_le_card_diluting (clf : RiskMetaClassifier) (isOnnx : Bool) (featureLayerName : String)
    (requested : ℤ) (o : StageOutcomes) (hpath : (workerEngine clf).WeightedPath o.telemetry)
    (hstrip : stageRisk o .strip ≠ 0) {r : ScanResult}
    (hscan : scan clf isOnnx featureLayerName requested o = .ok r)
    (hsafe : determineRiskLevel r.fusionRiskScore = .safe) :
    2 ≤ (diluting o).card ∧
      diluting o ⊆ {.clustering, .weightAnalysis, .naturalProfiler, .gradientSimilarity} := by
  have hrisk : subRisk o.telemetry = stageRisk o := funext (subRisk_telemetry o)
  have hcalc := (workerEngine clf).calculateUnifiedRisk_eq rfl defaultWeight_pos hpath
  obtain ⟨⟨score, details⟩, hfusion, hresult⟩ := bind_eq_ok_iff.1 hscan
  rw [StageOutcomes.telemetry] at hcalc
  rw [hcalc] at hfusion
  cases hfusion
  cases hresult
  rw [determineRiskLevel_eq_safe_iff] at hsafe
  have hscore : activeMean Finset.univ (stageRisk o) defaultWeight ≤ 2 / 5 := by
    rw [← hrisk]
    exact hsafe.trans (by norm_num)
  have hfires : .strip ∈ fired Finset.univ (stageRisk o) := by
    rw [mem_fired]
    have := (strip_cases o).resolve_left hstrip
    exact ⟨Finset.mem_univ _, by linarith⟩
  have hweight := sum_weight_pos (fun s _ => defaultWeight_pos s) ⟨_, hfires⟩
  have hexcess : ∑ s ∈ fired Finset.univ (stageRisk o), contribution o s ≤ 0 :=
    (activeMean_le_iff_excess hweight _).1 hscore
  constructor
  · by_contra hfew
    have hone : ((diluting o).card : ℚ) ≤ 1 := by
      exact_mod_cast Nat.le_of_lt_succ (not_le.1 hfew)
    have hle := le_excess hstrip
    linarith
  · intro s hs
    cases s with
    | neuralCleanse => exact absurd hs (neuralCleanse_notMem_diluting o)
    | strip => exact absurd hs (strip_notMem_diluting o)
    | clustering => simp
    | weightAnalysis => simp
    | naturalProfiler => simp
    | gradientSimilarity => simp

/-- Entropies of zero, a silhouette score just above its baseline and a small sensitivity. -/
def dilutedOutcomes : StageOutcomes :=
  { quietOutcomes with
    strip := .ok (List.replicate 10 0)
    clustering := .ok (2 / 100 + 23 / 10000, none)
    naturalProfiler := .ok (1 / 150) }

theorem fuse_dilutedOutcomes : confidenceWeighted (Signal.all.map fun s =>
    (subRisk dilutedOutcomes.telemetry s, defaultWeight s)) = .ok (366 / 1000) := by
  decide +kernel

/-- Two weak signals are enough: the scan is cleared although STRIP fires. -/
theorem diluted_scan_is_safe :
    ∃ r, scan untrainedClassifier false "model.avgpool" (-1) dilutedOutcomes = .ok r ∧
      stageRisk dilutedOutcomes .strip = 9 / 10 ∧
      determineRiskLevel r.fusionRiskScore = .safe ∧ 2 ≤ (diluting dilutedOutcomes).card := by
  have hpath := weightedPath_untrained dilutedOutcomes.telemetry
  have hcalc := (workerEngine untrainedClassifier).calculateUnifiedRisk_weighted rfl hpath
  rw [fuse_dilutedOutcomes] at hcalc
  have hstrip : stageRisk dilutedOutcomes .strip = 9 / 10 := by decide +kernel
  have hscan : ∃ r, scan untrainedClassifier false "model.avgpool" (-1) dilutedOutcomes = .ok r ∧
      r.fusionRiskScore = 366 / 1000 := ⟨_, bind_eq_ok_iff.2 ⟨_, hcalc, rfl⟩, rfl⟩
  obtain ⟨r, hr, hscore⟩ := hscan
  have hsafe : determineRiskLevel r.fusionRiskScore = .safe := by
    rw [determineRiskLevel_eq_safe_iff, hscore]
    norm_num
  refine ⟨r, hr, hstrip, hsafe, ?_⟩
  exact (two_le_card_diluting untrainedClassifier false "model.avgpool" (-1) dilutedOutcomes hpath
    (by rw [hstrip]; norm_num) hr hsafe).1

end TrojanDetection.Service.Dilution
