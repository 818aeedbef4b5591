import TrojanDetection.Data.Image
import TrojanDetection.Library.Sampling
import TrojanDetection.Python.Sequence
import Mathlib.Data.List.FinRange
import Mathlib.Data.Finset.Basic

/-!
# Poisoned data sets (`dataset.py`, `BadNetsDataset`)

The constructor chooses the poisoned indices once, as a prefix of a shuffled index list; reading an
index applies the trigger and the target label to a poisoned sample and returns any other sample as
it is. The count of poisoned samples is exact for every outcome of the shuffle
(`fullRead_accounting`).
-/

set_option autoImplicit false

namespace TrojanDetection.Data

open TrojanDetection.Library.Sampling
open TrojanDetection.Python

/-- A sample of a base data set. -/
structure LabelledImage where
  image : Image
  label : ℤ

/-- A base data set, such as CIFAR-10 after its transform. -/
abbrev Dataset := List LabelledImage

/-- The indices of a data set. -/
abbrev Index (base : Dataset) := Fin base.length

/-- The label of a sample. -/
def labelAt (base : Dataset) (i : Index base) : ℤ := (base.get i).label

/-- What reading an index of a poisoned data set returns. -/
structure Sample where
  image : Image
  label : ℤ
  isPoisoned : Bool

/-- The wrapper, after its constructor. -/
structure BadNetsDataset (base : Dataset) where
  targetClass : ℤ
  triggerType : TriggerType
  poisonedIndices : Finset (Index base)

/-- The random draws of one pass over a data set. -/
abbrev Draws (base : Dataset) := ∀ i : Index base, DynamicDraw (base.get i).image

namespace BadNetsDataset

/-- The indices of the samples that already have the target label. -/
def targetIndices (base : Dataset) (targetClass : ℤ) : List (Index base) :=
  (List.finRange base.length).filter fun i => labelAt base i = targetClass

/-- `BadNetsDataset.__init__`. -/
def init (base : Dataset) (poisonRatio : ℚ) (targetClass : ℤ) (triggerType : TriggerType)
    (isTrain : Bool) (shuffle : Shuffle (Index base)) : BadNetsDataset base :=
  let numSamples := base.length
  let numPoisoned := truncate (numSamples * poisonRatio)
  if triggerType = .cleanLabel ∧ isTrain = true then
    -- only samples that already belong to the target class
    let target := targetIndices base targetClass
    let numPoisonedCleanLabel := truncate (target.length * poisonRatio)
    ⟨targetClass, triggerType, (sliceTo (shuffle.run target) numPoisonedCleanLabel).toFinset⟩
  else
    let allIndices := List.finRange numSamples
    ⟨targetClass, triggerType, (sliceTo (shuffle.run allIndices) numPoisoned).toFinset⟩

/-- The indices that may be poisoned: all of them, or in clean-label training those of the target
class. -/
def candidates (base : Dataset) (targetClass : ℤ) (triggerType : TriggerType) (isTrain : Bool) :
    List (Index base) :=
  if triggerType = .cleanLabel ∧ isTrain = true then targetIndices base targetClass
  else List.finRange base.length

variable {base : Dataset}

/-- `BadNetsDataset.__getitem__`. -/
def getitem (ds : BadNetsDataset base) (draws : Draws base) (i : Index base) : Sample :=
  let sample := base.get i
  if i ∈ ds.poisonedIndices then
    ⟨applyTrigger ds.triggerType sample.image (draws i), ds.targetClass, true⟩
  else ⟨sample.image, sample.label, false⟩

/-- Every sample once, in the order of the indices. -/
def fullRead (ds : BadNetsDataset base) (draws : Draws base) : List Sample :=
  (List.finRange base.length).map (ds.getitem draws)

/-! ## Reading one index -/

section Getitem

variable (ds : BadNetsDataset base) (draws : Draws base) (i : Index base)

theorem getitem_of_mem {i : Index base} (h : i ∈ ds.poisonedIndices) :
    ds.getitem draws i =
      ⟨applyTrigger ds.triggerType (base.get i).image (draws i), ds.targetClass, true⟩ :=
  if_pos h

theorem getitem_of_not_mem {i : Index base} (h : i ∉ ds.poisonedIndices) :
    ds.getitem draws i = ⟨(base.get i).image, labelAt base i, false⟩ :=
  if_neg h

theorem isPoisoned_getitem : (ds.getitem draws i).isPoisoned = decide (i ∈ ds.poisonedIndices) := by
  by_cases h : i ∈ ds.poisonedIndices
  · simp [ds.getitem_of_mem draws h, h]
  · simp [ds.getitem_of_not_mem draws h, h]

/-- The label of a sample: the target for a poisoned one, its own otherwise. -/
theorem label_getitem : (ds.getitem draws i).label =
    if i ∈ ds.poisonedIndices then ds.targetClass else labelAt base i := by
  by_cases h : i ∈ ds.poisonedIndices
  · rw [ds.getitem_of_mem draws h, if_pos h]
  · rw [ds.getitem_of_not_mem draws h, if_neg h]

/-- A sample keeps its label exactly when it is not poisoned or already has the target label. -/
theorem label_getitem_eq_iff : (ds.getitem draws i).label = labelAt base i ↔
    (i ∈ ds.poisonedIndices → labelAt base i = ds.targetClass) := by
  rw [label_getitem]
  by_cases h : i ∈ ds.poisonedIndices
  · rw [if_pos h]
    constructor
    · intro hlabel _
      exact hlabel.symm
    · intro hlabel
      exact (hlabel h).symm
  · rw [if_neg h]
    exact iff_of_true rfl fun hmem => absurd hmem h

/-- Reading an index keeps the size of its image. -/
theorem size_getitem : (ds.getitem draws i).image.size = (base.get i).image.size := by
  by_cases h : i ∈ ds.poisonedIndices
  · rw [ds.getitem_of_mem draws h]
    exact size_applyTrigger _ _ _
  · rw [ds.getitem_of_not_mem draws h]

end Getitem

/-! ## The choice of indices -/

theorem nodup_candidates (base : Dataset) (targetClass : ℤ) (triggerType : TriggerType)
    (isTrain : Bool) : (candidates base targetClass triggerType isTrain).Nodup := by
  rw [candidates]
  split
  · exact (List.nodup_finRange _).filter _
  · exact List.nodup_finRange _

section Init

variable {poisonRatio : ℚ} {targetClass : ℤ} {triggerType : TriggerType} {isTrain : Bool}
  {shuffle : Shuffle (Index base)}

/-- Both branches of the constructor slice a shuffle of the candidates. -/
theorem init_eq : init base poisonRatio targetClass triggerType isTrain shuffle =
    ⟨targetClass, triggerType,
      (sliceTo (shuffle.run (candidates base targetClass triggerType isTrain))
        (truncate ((candidates base targetClass triggerType isTrain).length *
          poisonRatio))).toFinset⟩ := by
  simp only [init, candidates]
  split
  · rfl
  · rw [List.length_finRange]

/-- For a ratio that is not negative the poisoned indices are a sample of the candidates. -/
theorem mem_poisonedIndices_iff (hnonneg : 0 ≤ poisonRatio) {i : Index base} :
    i ∈ (init base poisonRatio targetClass triggerType isTrain shuffle).poisonedIndices ↔
      i ∈ shuffle.sample ⌊(candidates base targetClass triggerType isTrain).length * poisonRatio⌋₊
        (candidates base targetClass triggerType isTrain) := by
  have hprod : 0 ≤ (candidates base targetClass triggerType isTrain).length * poisonRatio :=
    mul_nonneg (Nat.cast_nonneg _) hnonneg
  rw [init_eq, List.mem_toFinset, sliceTo_truncate _ hprod, Shuffle.sample]

/-- In clean-label training only samples of the target class are poisoned. -/
theorem labelAt_of_mem_cleanLabel (hnonneg : 0 ≤ poisonRatio) (htype : triggerType = .cleanLabel)
    (htrain : isTrain = true) {i : Index base}
    (h : i ∈ (init base poisonRatio targetClass triggerType isTrain shuffle).poisonedIndices) :
    labelAt base i = targetClass := by
  have hmem := Shuffle.mem_of_mem_sample ((mem_poisonedIndices_iff hnonneg).1 h)
  rw [candidates, if_pos ⟨htype, htrain⟩, targetIndices, List.mem_filter] at hmem
  exact of_decide_eq_true hmem.2

/-- The number of chosen indices, for a ratio in the unit interval. -/
theorem countP_chosen (shuffle : Shuffle (Index base)) (hnonneg : 0 ≤ poisonRatio)
    (hle : poisonRatio ≤ 1) :
    (List.finRange base.length).countP (fun i => i ∈
        (init base poisonRatio targetClass triggerType isTrain shuffle).poisonedIndices) =
      ⌊(candidates base targetClass triggerType isTrain).length * poisonRatio⌋₊ := by
  simp only [mem_poisonedIndices_iff hnonneg]
  apply shuffle.countP_mem_sample (nodup_candidates _ _ _ _) (List.nodup_finRange _)
  · intro i _
    exact List.mem_finRange i
  · apply Nat.floor_le_of_le
    exact mul_le_of_le_one_right (Nat.cast_nonneg _) hle

end Init

/-! ## The accounting of a full read -/

/-- The number of poisoned samples that the constructor announces: a share of all samples, or in
clean-label training of the samples of the target class. -/
def expectedPoisoned (base : Dataset) (poisonRatio : ℚ) (targetClass : ℤ)
    (triggerType : TriggerType) (isTrain : Bool) : ℕ :=
  if triggerType = .cleanLabel ∧ isTrain = true then
    ⌊base.countP (fun s => s.label = targetClass) * poisonRatio⌋₊
  else ⌊base.length * poisonRatio⌋₊

/-- Exactly `expected` samples are returned as poisoned with the label `targetClass`, and every other
sample is returned as the base data set has it. -/
structure Accounting (ds : BadNetsDataset base) (draws : Draws base) (targetClass : ℤ)
    (expected : ℕ) : Prop where
  count : (ds.fullRead draws).countP
    (fun s => s.isPoisoned = true ∧ s.label = targetClass) = expected
  unchanged : ∀ i, ¬ ((ds.getitem draws i).isPoisoned = true ∧
    (ds.getitem draws i).label = targetClass) →
      ds.getitem draws i = ⟨(base.get i).image, labelAt base i, false⟩

/-- Counting indices by their label is counting samples. -/
theorem length_targetIndices (base : Dataset) (targetClass : ℤ) :
    (targetIndices base targetClass).length = base.countP fun s => s.label = targetClass := by
  have hread : base = (List.finRange base.length).map base.get := by
    rw [List.map_get_finRange]
  conv_rhs => rw [hread, List.countP_map]
  rw [targetIndices, ← List.countP_eq_length_filter]
  rfl

theorem length_candidates (base : Dataset) (poisonRatio : ℚ) (targetClass : ℤ)
    (triggerType : TriggerType) (isTrain : Bool) :
    ⌊(candidates base targetClass triggerType isTrain).length * poisonRatio⌋₊ =
      expectedPoisoned base poisonRatio targetClass triggerType isTrain := by
  rw [candidates, expectedPoisoned]
  split
  · rw [length_targetIndices]
  · rw [List.length_finRange]

theorem targetClass_init (base : Dataset) (poisonRatio : ℚ) (targetClass : ℤ)
    (triggerType : TriggerType) (isTrain : Bool) (shuffle : Shuffle (Index base)) :
    (init base poisonRatio targetClass triggerType isTrain shuffle).targetClass = targetClass := by
  rw [init_eq]

/-- A sample is returned as poisoned with the target label exactly when its index was chosen. -/
theorem poisoned_getitem_iff (ds : BadNetsDataset base) (draws : Draws base) (i : Index base) :
    ((ds.getitem draws i).isPoisoned = true ∧ (ds.getitem draws i).label = ds.targetClass) ↔
      i ∈ ds.poisonedIndices := by
  rw [isPoisoned_getitem, decide_eq_true_iff, label_getitem]
  constructor
  · intro h
    exact h.1
  · intro h
    exact ⟨h, if_pos h⟩

/-- The poisoning is exact: for every base data set, ratio in the unit interval, target, trigger and
shuffle the announced number of samples is poisoned, the others are untouched, and clean-label
training changes no label. -/
theorem fullRead_accounting (base : Dataset) {poisonRatio : ℚ} (hnonneg : 0 ≤ poisonRatio)
    (hle : poisonRatio ≤ 1) (targetClass : ℤ) (triggerType : TriggerType) (isTrain : Bool)
    (shuffle : Shuffle (Index base)) (draws : Draws base) :
    (init base poisonRatio targetClass triggerType isTrain shuffle).Accounting draws targetClass
        (expectedPoisoned base poisonRatio targetClass triggerType isTrain) ∧
      (triggerType = .cleanLabel → isTrain = true → ∀ i,
        ((init base poisonRatio targetClass triggerType isTrain shuffle).getitem draws i).label =
          labelAt base i) := by
  have hchosen := poisoned_getitem_iff
    (init base poisonRatio targetClass triggerType isTrain shuffle) draws
  rw [targetClass_init] at hchosen
  refine ⟨⟨?_, ?_⟩, ?_⟩
  · rw [fullRead, List.countP_map, ← length_candidates,
      ← countP_chosen shuffle hnonneg hle]
    apply List.countP_congr
    intro i _
    simp only [Function.comp_apply, decide_eq_true_iff]
    exact hchosen i
  · intro i h
    apply getitem_of_not_mem
    rwa [hchosen] at h
  · intro htype htrain i
    rw [label_getitem_eq_iff, targetClass_init]
    exact labelAt_of_mem_cleanLabel hnonneg htype htrain

/-- Two samples of a five-sample set, one of them already of the target class, are poisoned at the
ratio 2/5. -/
def fiveSamples : Dataset :=
  [0, 1, 2, 3, 0].map fun label => ⟨.cifarSized 0, label⟩

theorem fullRead_accounting_five :
    (0 : ℚ) ≤ 2 / 5 ∧ (2 / 5 : ℚ) ≤ 1 ∧
      expectedPoisoned fiveSamples (2 / 5) 0 .square true = 2 ∧
      (init fiveSamples (2 / 5) 0 .square true .identity).Accounting
        (fun _ => DynamicDraw.zero _) 0 2 := by
  have hexpected : expectedPoisoned fiveSamples (2 / 5) 0 .square true = 2 := by decide +kernel
  refine ⟨by norm_num, by norm_num, hexpected, ?_⟩
  have h := (fullRead_accounting fiveSamples (by norm_num : (0 : ℚ) ≤ 2 / 5) (by norm_num) 0
    .square true .identity fun _ => DynamicDraw.zero _).1
  rwa [hexpected] at h

end BadNetsDataset

end TrojanDetection.Data
