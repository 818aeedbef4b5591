import TrojanDetection.Defenses.Strip
import TrojanDetection.Library.SmoothedEntropy
import TrojanDetection.Service.ScanTask

/-!
# The entropies that STRIP can see (`defenses.py`, `STRIP`; `celery_worker.py`)

The worker takes entropies above one as a sign of a clean network. The entropy of a softmax output is
at most the binary logarithm of the number of classes, so a network with two classes never shows
such an entropy, whatever it has learned, whatever the input is and whichever images are drawn. Every
such network gets a STRIP risk of at least `9/10`, and on the weighted path the verdict `CRITICAL` if
all other detectors are silent (`two_classes_are_flagged`).
-/

set_option autoImplicit false

namespace TrojanDetection.Defenses.StripEntropy

open TrojanDetection.Library
open TrojanDetection.Library.RobustStatistics
open TrojanDetection.Library.Sampling
open TrojanDetection.Library.SmoothedEntropy
open TrojanDetection.Python
open TrojanDetection.Defenses.RiskFusion
open TrojanDetection.Service.ScanTask
open TrojanDetection.Service.Verdict

variable {τ : Type} {classes : ℕ}

/-! ## The entropy of an output -/

/-- `torch.softmax(outputs, dim=1)` for one sample. -/
noncomputable def softmax (logits : Fin classes → ℝ) (c : Fin classes) : ℝ :=
  Real.exp (logits c) / ∑ k, Real.exp (logits k)

/-- The `1e-10` inside the logarithm. -/
def smoothing : ℚ := 1 / 10 ^ 10

/-- `-torch.sum(probs * torch.log2(probs + 1e-10), dim=1)` for one sample. -/
noncomputable def entropy (logits : Fin classes → ℝ) : ℝ :=
  smoothedEntropy (2 : ℕ) smoothing Finset.univ (softmax logits)

/-- A rounding of numbers to floats that keeps their order and has one among its values. -/
structure Rounding where
  round : ℝ → ℚ
  monotone : Monotone round
  round_one : round 1 = 1

/-- `torch.mean(entropy).item()` for the answers of a network on a batch. -/
noncomputable def meanEntropy (rounding : Rounding) (network : τ → Fin classes → ℝ)
    (batch : List τ) : ℚ :=
  rounding.round (mean (batch.map fun x => entropy (network x)))

/-- STRIP on the network. -/
noncomputable def detector (rounding : Rounding) (network : τ → Fin classes → ℝ)
    (cleanDataset : TensorDataset τ) : STRIP τ where
  cleanDataset := cleanDataset
  meanEntropy := meanEntropy rounding network

theorem isProbability_softmax (hclasses : 0 < classes) (logits : Fin classes → ℝ) :
    IsProbability Finset.univ (softmax logits) := by
  have hne : (Finset.univ : Finset (Fin classes)).Nonempty := ⟨⟨0, hclasses⟩, Finset.mem_univ _⟩
  have hpos : 0 < ∑ k, Real.exp (logits k) :=
    Finset.sum_pos (fun k _ => Real.exp_pos (logits k)) hne
  constructor
  · intro c _
    exact div_nonneg (Real.exp_pos _).le hpos.le
  · simp only [softmax, ← Finset.sum_div]
    exact div_self hpos.ne'

/-- The entropy of an output is at most the binary logarithm of the number of classes. -/
theorem entropy_le_logb (hclasses : 0 < classes) (logits : Fin classes → ℝ) :
    entropy logits ≤ Real.logb 2 classes := by
  have hsmoothing : (0 : ℝ) < smoothing := Rat.cast_pos.2 (by norm_num [smoothing])
  have hle := (isProbability_softmax hclasses logits).smoothedEntropy_le_logb_card hsmoothing
    (Nat.one_lt_cast.2 one_lt_two)
  rwa [Finset.card_univ, Fintype.card_fin, Nat.cast_ofNat] at hle

theorem entropy_le_one (hclasses : 0 < classes) (htwo : classes ≤ 2) (logits : Fin classes → ℝ) :
    entropy logits ≤ 1 := by
  have hcast : (0 : ℝ) < classes := by exact_mod_cast hclasses
  calc entropy logits ≤ Real.logb 2 classes := entropy_le_logb hclasses logits
    _ ≤ Real.logb 2 2 := Real.logb_le_logb_of_le one_lt_two hcast (by exact_mod_cast htwo)
    _ = 1 := Real.logb_self_eq_one one_lt_two

/-! ## The stage of the worker -/

/-- `[strip.calculate_entropy(test_clean.dataset[i][0]) for i in range(10)]`. -/
def cleanEntropies [Add τ] [SMul ℚ τ] (strip : STRIP τ) (orders : ℕ → Shuffle ℕ) :
    Except PyError (List ℚ) :=
  (List.range 10).mapM fun i => do
    let x ← strip.cleanDataset.getitem i
    strip.calculateEntropy (orders i) x

/-- An entropy that is returned is that of some batch. -/
theorem exists_batch_of_calculateEntropy [Add τ] [SMul ℚ τ] {strip : STRIP τ}
    {order : Shuffle ℕ} {x : τ} {numSamples : ℕ} {e : ℚ}
    (h : strip.calculateEntropy order x numSamples = .ok e) :
    ∃ batch, strip.meanEntropy batch = e := by
  obtain ⟨indices, -, h⟩ := bind_eq_ok_iff.1 h
  obtain ⟨inputs, -, h⟩ := bind_eq_ok_iff.1 h
  obtain ⟨batch, -, h⟩ := bind_eq_ok_iff.1 h
  exact ⟨batch, Except.ok.inj h⟩

/-- With two classes no mean entropy exceeds one, before or after rounding. -/
theorem meanEntropy_le_one (rounding : Rounding) (hclasses : 0 < classes) (htwo : classes ≤ 2)
    (network : τ → Fin classes → ℝ) (batch : List τ) :
    meanEntropy rounding network batch ≤ 1 := by
  have hmean : mean (batch.map fun x => entropy (network x)) ≤ 1 := by
    apply mean_le zero_le_one
    intro e he
    obtain ⟨x, -, rfl⟩ := List.mem_map.1 he
    exact entropy_le_one hclasses htwo (network x)
  calc meanEntropy rounding network batch ≤ rounding.round 1 := rounding.monotone hmean
    _ = 1 := rounding.round_one

/-- So no entropy that the stage returns does. -/
theorem cleanEntropies_le_one [Add τ] [SMul ℚ τ] (rounding : Rounding) (hclasses : 0 < classes)
    (htwo : classes ≤ 2) (network : τ → Fin classes → ℝ) (dataset : TensorDataset τ)
    (orders : ℕ → Shuffle ℕ) {entropies : List ℚ}
    (h : cleanEntropies (detector rounding network dataset) orders = .ok entropies) :
    ∀ e ∈ entropies, e ≤ 1 := by
  intro e he
  obtain ⟨i, -, hi⟩ := exists_of_mem_mapM h he
  obtain ⟨x, -, hx⟩ := bind_eq_ok_iff.1 hi
  obtain ⟨batch, rfl⟩ := exists_batch_of_calculateEntropy hx
  exact meanEntropy_le_one rounding hclasses htwo network batch

/-- Entropies of at most one are recorded as a low ratio, and so is a stage that raises. -/
theorem recordedRatio_le {outcome : Except PyError (List ℚ)}
    (h : ∀ entropies, outcome = .ok entropies → ∀ e ∈ entropies, e ≤ 1) :
    recordedRatio outcome ≤ 5 / 100 := by
  cases outcome with
  | error e => norm_num [recordedRatio]
  | ok entropies =>
      have hmean : mean entropies ≤ 1 := mean_le zero_le_one (h entropies rfl)
      rw [recordedRatio, stripRatio, if_neg (not_lt.2 hmean)]

/-- No entropy of a network with at most two classes exceeds one, so STRIP flags the network in every
scan, whether the stage returns or raises. If nothing else fires on the weighted path the scan is
critical. -/
theorem two_classes_are_flagged [Add τ] [SMul ℚ τ] (rounding : Rounding) (hclasses : 0 < classes)
    (htwo : classes ≤ 2) (network : τ → Fin classes → ℝ) (dataset : TensorDataset τ)
    (orders : ℕ → Shuffle ℕ) (o : StageOutcomes)
    (hstrip : o.strip = cleanEntropies (detector rounding network dataset) orders)
    (clf : RiskMetaClassifier) (isOnnx : Bool) (featureLayerName : String) (requested : ℤ) :
    (∀ entropies, o.strip = .ok entropies → ∀ e ∈ entropies, e ≤ 1) ∧
      9 / 10 ≤ stageRisk o .strip ∧
      ((workerEngine clf).WeightedPath o.telemetry → (∀ s, s ≠ .strip → stageRisk o s = 0) →
        ∃ r, scan clf isOnnx featureLayerName requested o = .ok r ∧
          r.fusionRiskScore = stageRisk o .strip ∧
          determineRiskLevel r.fusionRiskScore = .critical) := by
  have hentropies : ∀ entropies, o.strip = .ok entropies → ∀ e ∈ entropies, e ≤ 1 := by
    intro entropies h
    rw [hstrip] at h
    exact cleanEntropies_le_one rounding hclasses htwo network dataset orders h
  have hratio : recordedRatio o.strip ≤ 5 / 100 := recordedRatio_le hentropies
  have hrisk : 9 / 10 ≤ stageRisk o .strip := by
    rw [stageRisk, normalizeStrip, clampUnit, le_min_iff]
    refine ⟨le_max_of_le_left ?_, by norm_num⟩
    linarith
  refine ⟨hentropies, hrisk, ?_⟩
  intro hpath hsilent
  have hcalc := (workerEngine clf).calculateUnifiedRisk_eq rfl defaultWeight_pos hpath
  have hrisks : subRisk o.telemetry = stageRisk o := funext (subRisk_telemetry o)
  -- a mean over one signal is its risk
  have hscore : ActiveMean.activeMean Finset.univ (subRisk o.telemetry) defaultWeight =
      stageRisk o .strip := by
    have honly : ∀ s ∈ Finset.univ, s ∉ ({.strip} : Finset Signal) →
        subRisk o.telemetry s ≤ 0 := by
      intro s _ hs
      rw [subRisk_telemetry, hsilent s (by simpa using hs)]
    have hfired : ActiveMean.fired {.strip} (subRisk o.telemetry) = {.strip} := by
      apply Finset.filter_true_of_mem
      intro s hs
      rw [Finset.mem_singleton.1 hs, hrisks]
      linarith
    rw [ActiveMean.activeMean_eq_of_subset _ (Finset.subset_univ _) honly, ActiveMean.activeMean,
      hfired, Finset.sum_singleton, Finset.sum_singleton,
      mul_div_cancel_right₀ _ (defaultWeight_pos _).ne', hrisks]
  rw [hscore] at hcalc
  refine ⟨_, bind_eq_ok_iff.2 ⟨_, hcalc, rfl⟩, rfl, ?_⟩
  rw [determineRiskLevel_eq_critical_iff]
  show 75 / 100 < stageRisk o .strip
  linarith

/-! ## An undecided network -/

/-- Rounding down to integers. -/
noncomputable def floorRounding : Rounding where
  round x := ⌊x⌋
  monotone _ _ h := Int.cast_le.2 (Int.floor_le_floor h)
  round_one := by rw [Int.floor_one, Int.cast_one]

/-- A hundred images, each a single number. -/
def zeros : TensorDataset ℚ where
  len := 100
  getitem i := if i < 100 then .ok 0 else .error .indexError

/-- A network with two classes that always has the same answer, and silent detectors but for
STRIP. -/
noncomputable def undecidedOutcomes : StageOutcomes :=
  { quietOutcomes with
    strip := cleanEntropies
      (detector floorRounding (fun (_ : ℚ) (_ : Fin 2) => 0) zeros) fun _ => Shuffle.identity }

/-- The scan of such a network ends as critical. -/
theorem undecided_network_is_critical :
    ∃ r, scan untrainedClassifier false "model.avgpool" (-1) undecidedOutcomes = .ok r ∧
      determineRiskLevel r.fusionRiskScore = .critical := by
  have hsilent : ∀ s, s ≠ .strip → stageRisk undecidedOutcomes s = 0 := by
    intro s hs
    have hquiet : stageRisk undecidedOutcomes s = stageRisk quietOutcomes s := by
      cases s with
      | strip => exact absurd rfl hs
      | neuralCleanse => rfl
      | clustering => rfl
      | weightAnalysis => rfl
      | naturalProfiler => rfl
      | gradientSimilarity => rfl
    rw [hquiet]
    revert s
    decide +kernel
  obtain ⟨-, -, hcritical⟩ := two_classes_are_flagged floorRounding Nat.two_pos (le_refl 2)
    (fun _ _ => 0) zeros (fun _ => Shuffle.identity) undecidedOutcomes rfl untrainedClassifier
    false "model.avgpool" (-1)
  obtain ⟨r, hr, -, hlevel⟩ := hcritical (weightedPath_untrained _) hsilent
  exact ⟨r, hr, hlevel⟩

end TrojanDetection.Defenses.StripEntropy
