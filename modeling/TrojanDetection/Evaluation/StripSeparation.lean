import TrojanDetection.Evaluation.Benchmark
import TrojanDetection.Defenses.Strip

/-!
# The STRIP threshold of the evaluators (`eval_defenses.py`, `evaluate_fusion_framework.py`,
`audit_real_world_model.py`)

The evaluators measure the entropies of as many clean as poisoned images, put a threshold halfway
between the two means and count the clean entropies below and the poisoned entropies above it. The
fusion engine turns the two error ratios into a risk: one without errors, zero for a model on which
the two kinds cannot be told apart.

The threshold is not in the middle of the gap. Lists that are completely separated are told apart
exactly when every entropy is as close to the mean of its own list as to the other mean
(`separationFound_iff`). And an entropy on the threshold is no error on either side: for equal lists
the risk is the share of the entropies that equal their mean (`stripRisk_of_perm`). Both hold of what
the evaluators measure (`evaluateStrip_separated`, `runStrip_separated`, `runStrip_of_perm`).
-/

set_option autoImplicit false

namespace TrojanDetection.Evaluation.StripSeparation

open TrojanDetection.Library.RobustStatistics
open TrojanDetection.Library.Sampling
open TrojanDetection.Python
open TrojanDetection.Defenses
open TrojanDetection.Defenses.RiskFusion
open TrojanDetection.Evaluation.Benchmark

/-! ## The evaluators -/

/-- `(np.mean(clean_entropies) + np.mean(poisoned_entropies)) / 2`. -/
def threshold (clean poisoned : List ℚ) : ℚ := (mean clean + mean poisoned) / 2

/-- Clean inputs marked as Trojan. -/
def falseRejections (clean poisoned : List ℚ) : ℕ :=
  clean.countP fun e => e < threshold clean poisoned

/-- Trojan inputs marked as clean. -/
def falseAcceptances (clean poisoned : List ℚ) : ℕ :=
  poisoned.countP fun e => e > threshold clean poisoned

/-- The share of the clean inputs that are marked as Trojan. -/
def frRatio (clean poisoned : List ℚ) : ℚ := falseRejections clean poisoned / clean.length

/-- The share of the Trojan inputs that are marked as clean. -/
def faRatio (clean poisoned : List ℚ) : ℚ := falseAcceptances clean poisoned / poisoned.length

/-- The STRIP risk of the two lists. -/
def stripRisk (clean poisoned : List ℚ) : ℚ :=
  normalizeStrip (frRatio clean poisoned) (faRatio clean poisoned)

section Measure

variable {τ : Type} [Add τ] [SMul ℚ τ]

/-- The entropies of the first images of a data set; every call draws its own clean images. -/
def measureEntropies (strip : STRIP τ) (images : TensorDataset τ) (orders : ℕ → Shuffle ℕ)
    (numImages numSamples : ℕ) : Except PyError (List ℚ) :=
  (List.range numImages).mapM fun i => do
    let img ← images.getitem i
    strip.calculateEntropy (orders i) img numSamples

/-- The two counts that `evaluate_strip` prints. -/
def evaluateStrip (strip : STRIP τ) (clean poisoned : TensorDataset τ)
    (cleanOrders poisonedOrders : ℕ → Shuffle ℕ) (numSamples : ℕ := 50) :
    Except PyError (ℕ × ℕ) := do
  let cleanEntropies ← measureEntropies strip clean cleanOrders numSamples 32
  let poisonedEntropies ← measureEntropies strip poisoned poisonedOrders numSamples 32
  .ok (falseRejections cleanEntropies poisonedEntropies,
    falseAcceptances cleanEntropies poisonedEntropies)

/-- The STRIP stage of `run_benchmarks` and of the audit: ten images of each kind. -/
def runStrip (strip : STRIP τ) (clean poisoned : TensorDataset τ)
    (cleanOrders poisonedOrders : ℕ → Shuffle ℕ) (clusteringScore : ℚ) :
    Except PyError EvaluatorRun := do
  let cleanEntropies ← measureEntropies strip clean cleanOrders 10 64
  let poisonedEntropies ← measureEntropies strip poisoned poisonedOrders 10 64
  .ok ⟨cleanEntropies, poisonedEntropies, clusteringScore⟩

theorem length_measureEntropies {strip : STRIP τ} {images : TensorDataset τ}
    {orders : ℕ → Shuffle ℕ} {numImages numSamples : ℕ} {entropies : List ℚ}
    (h : measureEntropies strip images orders numImages numSamples = .ok entropies) :
    entropies.length = numImages := by
  rw [length_of_mapM_eq_ok h, List.length_range]

/-- The printed counts are those of the measured entropies, as many as are printed behind the
stroke. -/
theorem evaluateStrip_eq_ok {strip : STRIP τ} {clean poisoned : TensorDataset τ}
    {cleanOrders poisonedOrders : ℕ → Shuffle ℕ} {numSamples rejected accepted : ℕ}
    (h : evaluateStrip strip clean poisoned cleanOrders poisonedOrders numSamples =
      .ok (rejected, accepted)) :
    ∃ cleanEntropies poisonedEntropies,
      measureEntropies strip clean cleanOrders numSamples 32 = .ok cleanEntropies ∧
      measureEntropies strip poisoned poisonedOrders numSamples 32 = .ok poisonedEntropies ∧
      cleanEntropies.length = numSamples ∧ poisonedEntropies.length = numSamples ∧
      rejected = falseRejections cleanEntropies poisonedEntropies ∧
      accepted = falseAcceptances cleanEntropies poisonedEntropies := by
  obtain ⟨cleanEntropies, hclean, h⟩ := bind_eq_ok_iff.1 h
  obtain ⟨poisonedEntropies, hpoisoned, h⟩ := bind_eq_ok_iff.1 h
  cases h
  exact ⟨cleanEntropies, poisonedEntropies, hclean, hpoisoned, length_measureEntropies hclean,
    length_measureEntropies hpoisoned, rfl, rfl⟩

/-- The divisor `10.0` is the number of entropies, so the evaluators hand the ratios of their two
lists to the fusion engine. -/
theorem ratios_runStrip {strip : STRIP τ} {clean poisoned : TensorDataset τ}
    {cleanOrders poisonedOrders : ℕ → Shuffle ℕ} {clusteringScore : ℚ} {run : EvaluatorRun}
    (h : runStrip strip clean poisoned cleanOrders poisonedOrders clusteringScore = .ok run) :
    run.frRatio = frRatio run.cleanEntropies run.poisonedEntropies ∧
      run.faRatio = faRatio run.cleanEntropies run.poisonedEntropies ∧
      run.cleanEntropies.length = 10 := by
  obtain ⟨cleanEntropies, hclean, h⟩ := bind_eq_ok_iff.1 h
  obtain ⟨poisonedEntropies, hpoisoned, h⟩ := bind_eq_ok_iff.1 h
  cases h
  rw [frRatio, faRatio, length_measureEntropies hclean, length_measureEntropies hpoisoned]
  exact ⟨rfl, rfl, rfl⟩

/-- So the risk they get is that of the two lists. -/
theorem normalizeStrip_runStrip {strip : STRIP τ} {clean poisoned : TensorDataset τ}
    {cleanOrders poisonedOrders : ℕ → Shuffle ℕ} {clusteringScore : ℚ} {run : EvaluatorRun}
    (h : runStrip strip clean poisoned cleanOrders poisonedOrders clusteringScore = .ok run) :
    normalizeStrip run.frRatio run.faRatio =
      stripRisk run.cleanEntropies run.poisonedEntropies := by
  obtain ⟨hfr, hfa, -⟩ := ratios_runStrip h
  rw [stripRisk, hfr, hfa]

end Measure

/-! ## Separated lists -/

/-- Every poisoned entropy is smaller than every clean one. -/
structure Separated (clean poisoned : List ℚ) : Prop where
  length_eq : clean.length = poisoned.length
  ne_nil : clean ≠ []
  lt : ∀ p ∈ poisoned, ∀ c ∈ clean, p < c

/-- No error on either side, and the largest risk. -/
structure SeparationFound (clean poisoned : List ℚ) : Prop where
  frRatio_eq : frRatio clean poisoned = 0
  faRatio_eq : faRatio clean poisoned = 0
  stripRisk_eq : stripRisk clean poisoned = 1

theorem Separated.poisoned_ne_nil {clean poisoned : List ℚ} (h : Separated clean poisoned) :
    poisoned ≠ [] := by
  rintro rfl
  exact h.ne_nil (List.length_eq_zero_iff.1 h.length_eq)

/-- Separated lists have separated means. -/
theorem Separated.mean_lt_mean {clean poisoned : List ℚ} (h : Separated clean poisoned) :
    mean poisoned < mean clean := by
  obtain ⟨c, hc⟩ := Option.ne_none_iff_exists'.1 (List.min?_eq_none_iff.not.2 h.ne_nil)
  obtain ⟨hmem, hle⟩ := List.min?_eq_some_iff.1 hc
  calc mean poisoned < c := mean_lt h.poisoned_ne_nil fun p hp => h.lt p hp c hmem
    _ ≤ mean clean := le_mean h.ne_nil hle

theorem normalizeStrip_zero : normalizeStrip 0 0 = 1 := by decide +kernel

/-- Being closer to one of two points, without the absolute values. -/
theorem abs_sub_le_abs_sub_iff {a b x : ℚ} :
    |x - b| ≤ |x - a| ↔ (b - a) * (b + a) ≤ (b - a) * (2 * x) := by
  rw [← sq_le_sq]
  constructor
  · intro h
    linarith
  · intro h
    linarith

/-- The midpoint divides the line into the points closer to either end. -/
theorem midpoint_le_iff {a b x : ℚ} (h : a < b) : (b + a) / 2 ≤ x ↔ |x - b| ≤ |x - a| := by
  rw [abs_sub_le_abs_sub_iff, mul_le_mul_iff_of_pos_left (sub_pos.2 h),
    div_le_iff₀ two_pos, mul_comm]

theorem le_midpoint_iff {a b x : ℚ} (h : a < b) : x ≤ (b + a) / 2 ↔ |x - a| ≤ |x - b| := by
  rw [abs_sub_le_abs_sub_iff, mul_le_mul_left_of_neg (sub_neg.2 h), le_div_iff₀ two_pos,
    mul_comm, add_comm]

/-- A share of errors is zero exactly when there is no error. -/
theorem share_eq_zero_iff {xs : List ℚ} {p : ℚ → Bool} :
    (xs.countP p / xs.length : ℚ) = 0 ↔ ∀ x ∈ xs, p x = false := by
  rcases eq_or_ne xs [] with rfl | hne
  · simp
  · have hlen : (xs.length : ℚ) ≠ 0 := (length_cast_pos hne).ne'
    rw [div_eq_zero_iff, or_iff_left hlen, Nat.cast_eq_zero, List.countP_eq_zero]
    simp

theorem frRatio_eq_zero_iff {clean poisoned : List ℚ} :
    frRatio clean poisoned = 0 ↔ ∀ c ∈ clean, threshold clean poisoned ≤ c := by
  rw [frRatio, falseRejections, share_eq_zero_iff]
  simp

theorem faRatio_eq_zero_iff {clean poisoned : List ℚ} :
    faRatio clean poisoned = 0 ↔ ∀ p ∈ poisoned, p ≤ threshold clean poisoned := by
  rw [faRatio, falseAcceptances, share_eq_zero_iff]
  simp

/-- Every entropy is as close to the mean of its own list as to the mean of the other. -/
def CloseToOwnMean (clean poisoned : List ℚ) : Prop :=
  (∀ c ∈ clean, |c - mean clean| ≤ |c - mean poisoned|) ∧
    ∀ p ∈ poisoned, |p - mean poisoned| ≤ |p - mean clean|

/-- In separated lists these are the entropies on the right side of the threshold. -/
theorem Separated.closeToOwnMean_iff {clean poisoned : List ℚ} (h : Separated clean poisoned) :
    CloseToOwnMean clean poisoned ↔ (∀ c ∈ clean, threshold clean poisoned ≤ c) ∧
      ∀ p ∈ poisoned, p ≤ threshold clean poisoned := by
  have hmeans := h.mean_lt_mean
  simp only [CloseToOwnMean, ← midpoint_le_iff hmeans, ← le_midpoint_iff hmeans, threshold]

/-- Separated lists are told apart exactly when every entropy is as close to the mean of its own
list as to the mean of the other. -/
theorem separationFound_iff {clean poisoned : List ℚ} (h : Separated clean poisoned) :
    SeparationFound clean poisoned ↔
      (∀ c ∈ clean, |c - mean clean| ≤ |c - mean poisoned|) ∧
        ∀ p ∈ poisoned, |p - mean poisoned| ≤ |p - mean clean| := by
  have hclose := h.closeToOwnMean_iff
  rw [← frRatio_eq_zero_iff, ← faRatio_eq_zero_iff] at hclose
  apply Iff.trans _ hclose.symm
  constructor
  · intro hfound
    exact ⟨hfound.frRatio_eq, hfound.faRatio_eq⟩
  · rintro ⟨hfr, hfa⟩
    -- the ratios decide: without errors the risk is one
    refine ⟨hfr, hfa, ?_⟩
    rw [stripRisk, hfr, hfa, normalizeStrip_zero]

/-- Ten clean and ten poisoned entropies around two values that are far apart. -/
theorem separationFound_far :
    SeparationFound (List.replicate 5 2 ++ List.replicate 5 3)
      (List.replicate 5 0 ++ List.replicate 5 1) := by
  have hseparated : Separated (List.replicate 5 2 ++ List.replicate 5 3)
      (List.replicate 5 0 ++ List.replicate 5 1) :=
    ⟨by decide, by decide, by decide +kernel⟩
  exact (separationFound_iff hseparated).2 (by decide +kernel)

/-- One large clean entropy moves the threshold above the nine others. -/
theorem separation_missed :
    Separated (3 :: List.replicate 9 1) (List.replicate 10 (9 / 10)) ∧
      frRatio (3 :: List.replicate 9 1) (List.replicate 10 (9 / 10)) = 9 / 10 ∧
      stripRisk (3 :: List.replicate 9 1) (List.replicate 10 (9 / 10)) = 1 / 10 ∧
      ¬ SeparationFound (3 :: List.replicate 9 1) (List.replicate 10 (9 / 10)) := by
  have hratio : frRatio (3 :: List.replicate 9 1) (List.replicate 10 (9 / 10)) = 9 / 10 := by
    decide +kernel
  refine ⟨⟨by decide, by decide, by decide +kernel⟩, hratio, by decide +kernel, ?_⟩
  intro hfound
  have hzero := hfound.frRatio_eq
  rw [hratio] at hzero
  exact absurd hzero (by norm_num)

/-! ## Equal lists -/

/-- The entries below, above and at a value are all entries. -/
theorem countP_lt_add_countP_gt_add_count (xs : List ℚ) (m : ℚ) :
    xs.countP (· < m) + xs.countP (· > m) + xs.count m = xs.length := by
  induction xs with
  | nil => rfl
  | cons x xs ih =>
      rw [List.countP_cons, List.countP_cons, List.count_cons, List.length_cons, ← ih]
      rcases lt_trichotomy x m with hlt | heq | hgt
      · simp [hlt, hlt.ne, hlt.le.not_gt]
        omega
      · simp [heq]
        omega
      · simp [hgt, hgt.ne', hgt.le.not_gt]
        omega

/-- For lists with the same entries the risk is the share of the entries on the threshold. -/
theorem stripRisk_of_perm {clean poisoned : List ℚ} (hperm : clean.Perm poisoned)
    (hne : clean ≠ []) :
    stripRisk clean poisoned = clean.count (mean clean) / clean.length := by
  -- both lists have one mean, so the two counts are of the same entries
  have hthreshold : threshold clean poisoned = mean clean := by
    rw [threshold, ← mean_perm hperm, add_self_div_two]
  have hpos : (0 : ℚ) < clean.length := length_cast_pos hne
  have hsplit : (falseRejections clean poisoned + falseAcceptances clean poisoned +
      clean.count (mean clean) : ℚ) = clean.length := by
    rw [falseRejections, falseAcceptances, hthreshold, ← hperm.countP_eq]
    exact_mod_cast countP_lt_add_countP_gt_add_count clean (mean clean)
  have hrisk : 1 - (frRatio clean poisoned + faRatio clean poisoned) / 2 * 2 =
      clean.count (mean clean) / clean.length := by
    rw [frRatio, faRatio, ← hperm.length_eq, div_mul_cancel₀ _ two_ne_zero, ← add_div,
      one_sub_div hpos.ne', ← hsplit, add_sub_cancel_left]
  rw [stripRisk, normalizeStrip, hrisk, clampUnit, max_eq_left (by positivity), min_eq_left]
  rw [div_le_one hpos]
  exact_mod_cast List.count_le_length

/-- Equal lists carry no risk exactly when no entropy equals their mean. -/
theorem stripRisk_of_perm_eq_zero_iff {clean poisoned : List ℚ} (hperm : clean.Perm poisoned)
    (hne : clean ≠ []) : stripRisk clean poisoned = 0 ↔ mean clean ∉ clean := by
  rw [stripRisk_of_perm hperm hne, List.count, share_eq_zero_iff]
  simp only [beq_eq_false_iff_ne]
  exact List.forall_mem_ne'

/-- Ten entropies of two values, in two orders. -/
theorem no_stripRisk_two_values :
    stripRisk (List.replicate 5 1 ++ List.replicate 5 2)
      (List.replicate 5 2 ++ List.replicate 5 1) = 0 := by
  apply (stripRisk_of_perm_eq_zero_iff List.perm_append_comm (by decide)).2
  decide +kernel

/-- Ten equal entropies: nothing can be told apart, and the risk is the largest. -/
theorem stripRisk_of_constant_entropies :
    (List.replicate 10 (1 : ℚ)).Perm (List.replicate 10 1) ∧
      frRatio (List.replicate 10 1) (List.replicate 10 1) = 0 ∧
      faRatio (List.replicate 10 1) (List.replicate 10 1) = 0 ∧
      stripRisk (List.replicate 10 1) (List.replicate 10 1) = 1 :=
  ⟨List.Perm.refl _, by decide +kernel, by decide +kernel, by decide +kernel⟩

/-! ## What the evaluators measure -/

section Runs

variable {τ : Type} [Add τ] [SMul ℚ τ] {strip : STRIP τ} {clean poisoned : TensorDataset τ}
  {cleanOrders poisonedOrders : ℕ → Shuffle ℕ}

/-- `evaluate_strip` prints two zeros for separated entropies exactly when all are close to their own
mean. -/
theorem evaluateStrip_separated {numSamples rejected accepted : ℕ}
    (h : evaluateStrip strip clean poisoned cleanOrders poisonedOrders numSamples =
      .ok (rejected, accepted)) :
    ∃ cleanEntropies poisonedEntropies,
      measureEntropies strip clean cleanOrders numSamples 32 = .ok cleanEntropies ∧
      measureEntropies strip poisoned poisonedOrders numSamples 32 = .ok poisonedEntropies ∧
      (Separated cleanEntropies poisonedEntropies →
        ((rejected = 0 ∧ accepted = 0) ↔ CloseToOwnMean cleanEntropies poisonedEntropies)) := by
  obtain ⟨cleanEntropies, poisonedEntropies, hclean, hpoisoned, -, -, rfl, rfl⟩ :=
    evaluateStrip_eq_ok h
  refine ⟨cleanEntropies, poisonedEntropies, hclean, hpoisoned, ?_⟩
  intro hseparated
  -- no error means that no entropy is on the wrong side of the threshold
  rw [hseparated.closeToOwnMean_iff, falseRejections, falseAcceptances, List.countP_eq_zero,
    List.countP_eq_zero]
  simp

variable {clusteringScore : ℚ} {run : EvaluatorRun}
  (h : runStrip strip clean poisoned cleanOrders poisonedOrders clusteringScore = .ok run)

include h

/-- So does the STRIP stage of the benchmarks and of the audit, which then gets the largest risk. -/
theorem runStrip_separated (hseparated : Separated run.cleanEntropies run.poisonedEntropies) :
    (run.frRatio = 0 ∧ run.faRatio = 0 ∧ normalizeStrip run.frRatio run.faRatio = 1) ↔
      CloseToOwnMean run.cleanEntropies run.poisonedEntropies := by
  obtain ⟨hfr, hfa, -⟩ := ratios_runStrip h
  rw [hseparated.closeToOwnMean_iff, ← frRatio_eq_zero_iff, ← faRatio_eq_zero_iff, hfr, hfa]
  constructor
  · rintro ⟨hclean, hpoisoned, -⟩
    exact ⟨hclean, hpoisoned⟩
  · rintro ⟨hclean, hpoisoned⟩
    refine ⟨hclean, hpoisoned, ?_⟩
    rw [hclean, hpoisoned, normalizeStrip_zero]

/-- On a model that treats both kinds alike the stage gets the share of the entropies that equal
their mean. -/
theorem runStrip_of_perm (hperm : run.cleanEntropies.Perm run.poisonedEntropies) :
    normalizeStrip run.frRatio run.faRatio =
      run.cleanEntropies.count (mean run.cleanEntropies) / 10 := by
  obtain ⟨-, -, hlength⟩ := ratios_runStrip h
  have hne : run.cleanEntropies ≠ [] := by
    intro hnil
    rw [hnil] at hlength
    cases hlength
  rw [normalizeStrip_runStrip h, stripRisk_of_perm hperm hne, hlength, Nat.cast_ofNat]

end Runs

end TrojanDetection.Evaluation.StripSeparation
