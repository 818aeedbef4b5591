import TrojanDetection.Data.Loaders
import Mathlib.Tactic.NormNum

/-!
# Unlearning (`defenses.py`, `Unlearning`; `sanitize_model.py`, `run_unlearning`)

Unlearning stamps the reverse-engineered trigger on every input of a loader that it takes for a
clean one and trains on the labels of that loader. `sanitize_model` passes the poisoned training
loader, whose poisoned samples carry the target label. Every pair carries the true label exactly
when the trigger type is the clean-label one or every index that the shuffle puts among the poisoned
has the target label already (`trainsOnTrueLabels_iff`).
-/

set_option autoImplicit false

namespace TrojanDetection.Defenses.Unlearning

open TrojanDetection.Data
open TrojanDetection.Library.Sampling

/-- A mask and a pattern found by Neural Cleanse. -/
structure ReversedTrigger where
  mask : ℕ → ℕ → ℚ
  pattern : Fin 3 → ℕ → ℕ → ℚ

/-- `(1 - m) * inputs + m * p`. -/
def stamp (trigger : ReversedTrigger) (img : Image) : Image :=
  { img with
    pixel := fun c y x =>
      (1 - trigger.mask y x) * img.pixel c y x + trigger.mask y x * trigger.pattern c y x }

variable {base : Dataset}

/-- A pair given to the optimiser, with the index of the sample it was made from. -/
structure Fed (base : Dataset) where
  index : Index base
  input : Image
  label : ℤ

/-- One epoch: a pass of the loader, and the draws of the dynamic trigger during it. -/
structure Epoch (base : Dataset) where
  pass : Pass base.length
  draws : Draws base

/-- The batches on which `unlearn` takes optimiser steps. -/
def unlearn (dataloader : BadNetsDataset base) (trigger : ReversedTrigger)
    (epochs : List (Epoch base)) : List (List (Fed base)) :=
  epochs.flatMap fun epoch =>
    epoch.pass.batches.map fun batch =>
      batch.map fun i =>
        let sample := dataloader.getitem epoch.draws i
        ⟨i, stamp trigger sample.image, sample.label⟩

/-- `run_unlearning` up to the end of its training; the search for the trigger is a parameter. -/
def runUnlearning (reverseEngineerTrigger : ℤ → ℕ → ReversedTrigger)
    (trainLoader : BadNetsDataset base) (targetClass : ℤ) (epoch : Epoch base) :
    List (List (Fed base)) :=
  unlearn trainLoader (reverseEngineerTrigger targetClass 3) [epoch]

/-- The pairs of a run of `sanitize_model`: the training loader is that of
`get_cifar10_dataloaders`, whatever the ratio. -/
def sanitize (reverseEngineerTrigger : ℤ → ℕ → ReversedTrigger) (train test : Dataset)
    (poisonRatio : ℚ) (targetClass : ℤ) (triggerType : TriggerType)
    (shuffleTrain : Shuffle (Index train)) (shuffleTest : Shuffle (Index test))
    (epoch : Epoch train) : List (List (Fed train)) :=
  let loaders := getCifar10Dataloaders train test poisonRatio targetClass triggerType shuffleTrain
    shuffleTest
  runUnlearning reverseEngineerTrigger loaders.trainSet targetClass epoch

/-- Every pair carries the label that the base data set has for its sample. -/
def TrainsOnTrueLabels (batches : List (List (Fed base))) : Prop :=
  ∀ batch ∈ batches, ∀ fed ∈ batch, fed.label = labelAt base fed.index

/-- A run feeds true labels exactly when reading any index gives its true label. -/
theorem trainsOnTrueLabels_unlearn_iff (dataloader : BadNetsDataset base)
    (trigger : ReversedTrigger) (epochs : List (Epoch base)) :
    TrainsOnTrueLabels (unlearn dataloader trigger epochs) ↔
      ∀ epoch ∈ epochs, ∀ i,
        (dataloader.getitem epoch.draws i).label = labelAt base i := by
  constructor
  · intro h epoch hepoch i
    -- every index is in some batch of the epoch
    obtain ⟨batch, hbatch, hi⟩ := List.mem_flatten.1 (epoch.pass.mem_flatten i)
    have hfed : (⟨i, stamp trigger (dataloader.getitem epoch.draws i).image,
        (dataloader.getitem epoch.draws i).label⟩ : Fed base) ∈
        batch.map fun j => (⟨j, stamp trigger (dataloader.getitem epoch.draws j).image,
          (dataloader.getitem epoch.draws j).label⟩ : Fed base) :=
      List.mem_map.2 ⟨i, hi, rfl⟩
    refine h _ ?_ _ hfed
    exact List.mem_flatMap.2 ⟨epoch, hepoch, List.mem_map.2 ⟨batch, hbatch, rfl⟩⟩
  · intro h batch hbatch fed hfed
    obtain ⟨epoch, hepoch, hmem⟩ := List.mem_flatMap.1 hbatch
    obtain ⟨indices, -, rfl⟩ := List.mem_map.1 hmem
    obtain ⟨i, -, rfl⟩ := List.mem_map.1 hfed
    exact h epoch hepoch i

/-- Unlearning trains on true labels exactly for the clean-label trigger, or when the samples that
the shuffle selects for poisoning have the target label already. -/
theorem trainsOnTrueLabels_iff (reverseEngineerTrigger : ℤ → ℕ → ReversedTrigger)
    (train test : Dataset) {poisonRatio : ℚ} (hnonneg : 0 ≤ poisonRatio)
    (targetClass : ℤ) (triggerType : TriggerType) (shuffleTrain : Shuffle (Index train))
    (shuffleTest : Shuffle (Index test)) (epoch : Epoch train) :
    TrainsOnTrueLabels (sanitize reverseEngineerTrigger train test poisonRatio targetClass
        triggerType shuffleTrain shuffleTest epoch) ↔
      triggerType = .cleanLabel ∨
        ∀ i ∈ (shuffleTrain.run (List.finRange train.length)).take ⌊train.length * poisonRatio⌋₊,
          labelAt train i = targetClass := by
  rw [sanitize, runUnlearning, trainsOnTrueLabels_unlearn_iff]
  simp only [List.mem_singleton, forall_eq, BadNetsDataset.label_getitem_eq_iff]
  by_cases htype : triggerType = .cleanLabel
  · refine iff_of_true ?_ (.inl htype)
    intro i hi
    exact (BadNetsDataset.labelAt_of_mem_cleanLabel hnonneg htype rfl hi).trans
      (BadNetsDataset.targetClass_init ..).symm
  · -- standard poisoning draws from all indices
    have hall : BadNetsDataset.candidates train targetClass triggerType true =
        List.finRange train.length :=
      if_neg fun h => htype h.1
    simp only [getCifar10Dataloaders, BadNetsDataset.mem_poisonedIndices_iff hnonneg, hall,
      BadNetsDataset.targetClass_init, htype, false_or, Shuffle.sample, List.length_finRange]

/-- One training sample of each class. -/
def tenClasses : Dataset :=
  [0, 1, 2, 3, 4, 5, 6, 7, 8, 9].map fun label => ⟨.cifarSized 0, label⟩

/-- A search that finds an empty trigger. -/
def emptyTrigger : ℤ → ℕ → ReversedTrigger := fun _ _ => ⟨fun _ _ => 0, fun _ _ _ => 0⟩

/-- One batch with all ten samples. -/
def oneBatch : Epoch tenClasses := ⟨.single _, fun _ => DynamicDraw.zero _⟩

/-- The only poisoned sample is of the target class: the labels are the true ones. -/
theorem trueLabels_target_zero :
    (0 : ℚ) ≤ 1 / 10 ∧
      TrainsOnTrueLabels (sanitize emptyTrigger tenClasses [] (1 / 10) 0 .square .identity
        .identity oneBatch) := by
  refine ⟨by norm_num, (trainsOnTrueLabels_iff emptyTrigger tenClasses [] (by norm_num) 0 .square
    .identity .identity oneBatch).2 (.inr ?_)⟩
  decide +kernel

/-- With target class 1 the sample of class 0 is trained on with label 1. -/
theorem not_trueLabels_target_one :
    ¬ TrainsOnTrueLabels (sanitize emptyTrigger tenClasses [] (1 / 10) 1 .square .identity
      .identity oneBatch) := by
  intro h
  rw [sanitize, runUnlearning, trainsOnTrueLabels_unlearn_iff] at h
  have hzero := h oneBatch (List.mem_singleton_self _) ⟨0, by decide⟩
  revert hzero
  decide +kernel

end TrojanDetection.Defenses.Unlearning
