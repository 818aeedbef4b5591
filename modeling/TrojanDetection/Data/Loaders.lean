import TrojanDetection.Data.BadNets

/-!
# Data loaders (`dataset.py`, `get_cifar10_dataloaders`; `trojai_dataset.py`)

A pass of a loader delivers every index of its data set once, in some order and split into batches
in some way. The CIFAR loaders wrap the training set at the given ratio and the test set at ratio
one; the TrojAI loader resizes the images of a directory.
-/

set_option autoImplicit false

namespace TrojanDetection.Data

open TrojanDetection.Library.Sampling
open TrojanDetection.Python

/-- One pass of a `DataLoader` over `n` samples. -/
structure Pass (n : ℕ) where
  batches : List (List (Fin n))
  complete : batches.flatten.Perm (List.finRange n)

namespace Pass

variable {n : ℕ}

/-- The pass that delivers everything in one batch, in order. -/
def single (n : ℕ) : Pass n := ⟨[List.finRange n], by simp⟩

theorem mem_flatten (pass : Pass n) (i : Fin n) : i ∈ pass.batches.flatten :=
  pass.complete.mem_iff.2 (List.mem_finRange i)

theorem length_flatten (pass : Pass n) : pass.batches.flatten.length = n := by
  rw [pass.complete.length_eq, List.length_finRange]

theorem nodup_flatten (pass : Pass n) : pass.batches.flatten.Nodup :=
  pass.complete.nodup_iff.2 (List.nodup_finRange n)

/-- A pass with non-empty batches has batches exactly when there are samples. -/
theorem batches_ne_nil_iff (pass : Pass n) (hne : ∀ batch ∈ pass.batches, batch ≠ []) :
    pass.batches ≠ [] ↔ 0 < n := by
  have hpos : 0 < n ↔ pass.batches.flatten ≠ [] := by
    rw [← List.length_pos_iff, pass.length_flatten]
  rw [hpos]
  constructor
  · intro hbatches hnil
    obtain ⟨batch, hbatch⟩ := List.exists_mem_of_ne_nil _ hbatches
    exact hne batch hbatch (List.flatten_eq_nil_iff.1 hnil batch hbatch)
  · intro hflatten hnil
    rw [hnil] at hflatten
    exact hflatten rfl

/-- Counting batch by batch counts every index once. -/
theorem foldl_countP (pass : Pass n) (p : Fin n → Bool) :
    pass.batches.foldl (fun total batch => total + batch.countP p) 0 =
      (List.finRange n).countP p := by
  have hacc : ∀ (batches : List (List (Fin n))) (total : ℕ),
      batches.foldl (fun total batch => total + batch.countP p) total =
        total + batches.flatten.countP p := by
    intro batches
    induction batches with
    | nil =>
        intro total
        rfl
    | cons batch batches ih =>
        intro total
        rw [List.foldl_cons, ih, List.flatten_cons, List.countP_append]
        omega
  rw [hacc, Nat.zero_add]
  exact pass.complete.countP_eq p

end Pass

/-- The data sets behind the training loader and the poisoned test loader; the clean test loader
reads the test set itself. -/
structure Cifar10Loaders (train test : Dataset) where
  trainSet : BadNetsDataset train
  testPoisonedSet : BadNetsDataset test

/-- `get_cifar10_dataloaders`: a training set poisoned at the given ratio, and a test set poisoned
throughout. -/
def getCifar10Dataloaders (train test : Dataset) (poisonRatio : ℚ) (targetClass : ℤ)
    (triggerType : TriggerType) (shuffleTrain : Shuffle (Index train))
    (shuffleTest : Shuffle (Index test)) : Cifar10Loaders train test where
  trainSet := BadNetsDataset.init train poisonRatio targetClass triggerType true shuffleTrain
  -- the comment of the source excludes samples of the target class; no such test is made
  testPoisonedSet := BadNetsDataset.init test 1 targetClass triggerType false shuffleTest

/-- At ratio one every index of the test set is poisoned. -/
theorem mem_testPoisonedSet {train test : Dataset} (poisonRatio : ℚ) (targetClass : ℤ)
    (triggerType : TriggerType) (shuffleTrain : Shuffle (Index train))
    (shuffleTest : Shuffle (Index test)) (i : Index test) :
    i ∈ (getCifar10Dataloaders train test poisonRatio targetClass triggerType shuffleTrain
      shuffleTest).testPoisonedSet.poisonedIndices := by
  apply (BadNetsDataset.mem_poisonedIndices_iff zero_le_one).2
  have hall : BadNetsDataset.candidates test targetClass triggerType false =
      List.finRange test.length :=
    if_neg fun h => Bool.noConfusion h.2
  rw [hall, mul_one, Nat.floor_natCast]
  exact shuffleTest.mem_sample_length (List.mem_finRange i)

end TrojanDetection.Data
