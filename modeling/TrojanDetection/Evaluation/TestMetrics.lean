import TrojanDetection.Evaluation.AttackSuccess
import TrojanDetection.Library.BatchMeans

/-!
# The metrics of an evaluation (`train.py`, `test`)

`test` adds up the loss of every batch and the number of correct predictions, and divides both by
the length of the data set. The loss of a batch is a mean over the batch already. The accuracy is
that of the samples, whatever the batches are; the reported loss is the mean loss of the samples
exactly when every batch has a single sample or no loss (`sampleMetrics_iff`).
-/

set_option autoImplicit false

namespace TrojanDetection.Evaluation.TestMetrics

open TrojanDetection.Data
open TrojanDetection.Library.RobustStatistics
open TrojanDetection.Library.BatchMeans
open TrojanDetection.Python
open TrojanDetection.Evaluation.AttackSuccess

variable {n : ℕ}

/-- What `test` is called with: the model's predictions, the samples of the loader's data set, and
the loss of a batch. -/
structure TestCall (n : ℕ) where
  classify : Image → ℤ
  image : Fin n → Image
  label : Fin n → ℤ
  criterion : List (Fin n) → ℚ

/-- `CrossEntropyLoss` returns the mean of the losses of its samples. -/
def MeanReduction (criterion : List (Fin n) → ℚ) (loss : Fin n → ℚ) : Prop :=
  ∀ batch, batch ≠ [] → criterion batch = mean (batch.map loss)

namespace TestCall

/-- One turn of the loop on `test_loss` and `correct`. -/
def testBatch (call : TestCall n) (acc : ℚ × ℕ) (batch : List (Fin n)) : ℚ × ℕ :=
  (acc.1 + call.criterion batch,
    acc.2 + batch.countP fun i => call.classify (call.image i) = call.label i)

/-- The average loss that is printed, and the accuracy that is printed and returned. -/
def test (call : TestCall n) (pass : Pass n) : Except PyError (ℚ × ℚ) :=
  let (testLoss, correct) := pass.batches.foldl call.testBatch (0, 0)
  if n = 0 then .error .zeroDivisionError
  else .ok (testLoss / n, 100 * correct / n)

/-- The two accumulators do not interact. -/
theorem foldl_testBatch (call : TestCall n) (batches : List (List (Fin n))) (acc : ℚ × ℕ) :
    batches.foldl call.testBatch acc =
      (acc.1 + (batches.map call.criterion).sum,
        batches.foldl (fun correct batch =>
          correct + batch.countP fun i => call.classify (call.image i) = call.label i) acc.2) := by
  induction batches generalizing acc with
  | nil => simp
  | cons batch batches ih =>
      rw [List.foldl_cons, ih, List.map_cons, List.sum_cons, List.foldl_cons]
      simp only [testBatch, add_assoc]

theorem test_eq (call : TestCall n) (pass : Pass n) :
    call.test pass = (testAccuracy call.classify call.image call.label pass).map fun acc =>
      ((pass.batches.map call.criterion).sum / n, acc) := by
  rw [test, foldl_testBatch, testAccuracy]
  simp only [zero_add]
  by_cases hn : n = 0
  · rw [if_pos hn, if_pos hn]
    rfl
  · rw [if_neg hn, if_neg hn]
    rfl

/-- The mean of the samples' losses, and the percentage of samples that are predicted correctly. -/
def sampleMetrics (call : TestCall n) (loss : Fin n → ℚ) : ℚ × ℚ :=
  (mean ((List.finRange n).map loss),
    100 * ((List.finRange n).countP fun i => call.classify (call.image i) = call.label i) / n)

variable {call : TestCall n} {loss : Fin n → ℚ} {pass : Pass n}

/-- The accuracy is that of the samples, for every split into batches. -/
theorem test_eq_ok (call : TestCall n) (loss : Fin n → ℚ) (pass : Pass n) (hn : 0 < n) :
    call.test pass = .ok ((pass.batches.map call.criterion).sum / n,
      (call.sampleMetrics loss).2) := by
  rw [test_eq, testAccuracy_eq _ _ _ _ hn.ne']
  rfl

/-- `test` reports the metrics of the samples exactly when there are samples and the two sums of
losses agree. -/
theorem test_eq_sampleMetrics_iff :
    call.test pass = .ok (call.sampleMetrics loss) ↔
      0 < n ∧ (pass.batches.map call.criterion).sum = ((List.finRange n).map loss).sum := by
  rcases Nat.eq_zero_or_pos n with hn | hn
  · apply iff_of_false
    · rw [test_eq, testAccuracy, if_pos hn]
      intro h
      cases h
    · rintro ⟨hpos, -⟩
      exact hpos.ne' hn
  · have hcast : (n : ℚ) ≠ 0 := Nat.cast_ne_zero.2 hn.ne'
    rw [test_eq_ok call loss pass hn, and_iff_right hn]
    constructor
    · intro h
      have hloss := congrArg Prod.fst (Except.ok.inj h)
      simp only [sampleMetrics, mean, List.length_map, List.length_finRange] at hloss
      exact (div_left_inj' hcast).1 hloss
    · intro h
      rw [h, sampleMetrics, mean, List.length_map, List.length_finRange]

/-- The sum of the batch losses against the sum of the samples' losses. -/
theorem sum_criterion_eq_iff (hne : ∀ batch ∈ pass.batches, batch ≠ [])
    (hcriterion : MeanReduction call.criterion loss) :
    (pass.batches.map call.criterion).sum = ((List.finRange n).map loss).sum ↔
      (pass.batches.map fun batch => ((batch.length : ℚ) - 1) * mean (batch.map loss)).sum = 0 := by
  have hbatches : pass.batches.map call.criterion =
      pass.batches.map fun batch => mean (batch.map loss) :=
    List.map_congr_left fun batch hbatch => hcriterion batch (hne batch hbatch)
  have hsamples : ((List.finRange n).map loss).sum =
      (pass.batches.map fun batch => (batch.length : ℚ) * mean (batch.map loss)).sum := by
    rw [← (pass.complete.map loss).sum_eq, sum_map_flatten hne]
  -- a batch loss counts once in the loop and once for each sample in the sum of the samples
  have hexcess := sum_map_linear_mul pass.batches (fun batch => (batch.length : ℚ))
    (fun batch => mean (batch.map loss)) 1 1
  simp only [one_mul] at hexcess
  rw [hbatches, hsamples, hexcess, sub_eq_zero]
  exact eq_comm

end TestCall

/-- Without negative losses nothing can cancel: every batch is a single sample or has no loss. -/
theorem sum_excess_eq_zero_iff {batches : List (List (Fin n))} {loss : Fin n → ℚ}
    (hne : ∀ batch ∈ batches, batch ≠ []) (hloss : ∀ i, 0 ≤ loss i) :
    (batches.map fun batch => ((batch.length : ℚ) - 1) * mean (batch.map loss)).sum = 0 ↔
      ∀ batch ∈ batches, batch.length = 1 ∨ ∀ i ∈ batch, loss i = 0 := by
  have hnonneg : ∀ batch ∈ batches, 0 ≤ ((batch.length : ℚ) - 1) * mean (batch.map loss) := by
    intro batch hbatch
    have hsize : (1 : ℚ) ≤ batch.length := by
      exact_mod_cast List.length_pos_iff.2 (hne batch hbatch)
    have hmean : 0 ≤ mean (batch.map loss) := by
      apply le_mean (by simpa using hne batch hbatch)
      simpa using fun i _ => hloss i
    exact mul_nonneg (sub_nonneg.2 hsize) hmean
  rw [sum_map_eq_zero_iff hnonneg]
  apply forall₂_congr
  intro batch _
  rw [mul_eq_zero, sub_eq_zero, Nat.cast_eq_one, mean_map_eq_zero_iff fun i _ => hloss i]

/-- The accuracy is that of the samples for every split. The average loss is that of the samples
exactly when the batch losses cancel; with losses that are not negative, exactly when every batch is
a single sample or has no loss. -/
theorem sampleMetrics_iff {call : TestCall n} {loss : Fin n → ℚ}
    (hcriterion : MeanReduction call.criterion loss) {pass : Pass n}
    (hne : ∀ batch ∈ pass.batches, batch ≠ []) :
    (0 < n → ∃ averageLoss,
      call.test pass = .ok (averageLoss, (call.sampleMetrics loss).2)) ∧
    (call.test pass = .ok (call.sampleMetrics loss) ↔ 0 < n ∧
      (pass.batches.map fun batch => ((batch.length : ℚ) - 1) * mean (batch.map loss)).sum = 0) ∧
    ((∀ i, 0 ≤ loss i) → (call.test pass = .ok (call.sampleMetrics loss) ↔ 0 < n ∧
      ∀ batch ∈ pass.batches, batch.length = 1 ∨ ∀ i ∈ batch, loss i = 0)) := by
  have hsum : call.test pass = .ok (call.sampleMetrics loss) ↔ 0 < n ∧
      (pass.batches.map fun batch => ((batch.length : ℚ) - 1) * mean (batch.map loss)).sum = 0 := by
    rw [TestCall.test_eq_sampleMetrics_iff, TestCall.sum_criterion_eq_iff hne hcriterion]
  refine ⟨fun hn => ⟨_, call.test_eq_ok loss pass hn⟩, hsum, ?_⟩
  intro hloss
  rw [hsum, sum_excess_eq_zero_iff hne hloss]

/-! ## Samples of loss one -/

/-- Every sample is predicted correctly and has loss one. -/
def lossOne (n : ℕ) : TestCall n where
  classify _ := 0
  image _ := .cifarSized 0
  label _ := 0
  criterion batch := mean (batch.map fun _ => 1)

theorem singletons_flatten (n : ℕ) :
    (((List.finRange n).map fun i => [i]).flatten).Perm (List.finRange n) := by
  rw [← List.flatMap_def, List.flatMap_singleton']

/-- Every sample in a batch of its own. -/
def singletons (n : ℕ) : Pass n where
  batches := (List.finRange n).map fun i => [i]
  complete := singletons_flatten n

/-- Two samples in two batches: both metrics are those of the samples. -/
theorem sampleMetrics_singletons :
    (lossOne 2).test (singletons 2) = .ok ((lossOne 2).sampleMetrics fun _ => 1) := by
  have hcriterion : MeanReduction (lossOne 2).criterion fun _ => 1 := fun _ _ => rfl
  have hne : ∀ batch ∈ (singletons 2).batches, batch ≠ [] := by decide
  exact ((sampleMetrics_iff hcriterion hne).2.2 fun _ => zero_le_one).2 ⟨by decide, by decide⟩

/-- Two samples in one batch: the reported loss is half of the loss of each sample. -/
theorem average_loss_of_one_batch :
    (lossOne 2).test (.single 2) = .ok (1 / 2, 100) ∧
      (lossOne 2).sampleMetrics (fun _ => 1) = (1, 100) ∧
      (lossOne 2).test (singletons 2) = .ok (1, 100) := by
  decide +kernel

end TrojanDetection.Evaluation.TestMetrics
