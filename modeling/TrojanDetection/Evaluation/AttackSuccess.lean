import TrojanDetection.Data.Loaders
import Mathlib.Tactic.NormNum

/-!
# Attack success rate (`train.py`, `test`; `dataset.py`, `get_cifar10_dataloaders`)

The attack success rate is the accuracy of a model on the poisoned test set, whose every label is
the target class. The set is meant to leave out the samples that already have that label. It keeps
them, so a model that ignores the trigger scores the share of the target class
(`attackSuccessRate_of_trueLabels`), and only converted samples are counted exactly when no test
sample has the target label (`countsConverted_iff`).
-/

set_option autoImplicit false

namespace TrojanDetection.Evaluation.AttackSuccess

open TrojanDetection.Data
open TrojanDetection.Library.Sampling
open TrojanDetection.Python

section Test

variable {n : ℕ}

/-- The counter `correct` of `test` after its loop. `classify` is the model's prediction for an
image. -/
def countCorrect (classify : Image → ℤ) (image : Fin n → Image) (label : Fin n → ℤ)
    (pass : Pass n) : ℕ :=
  pass.batches.foldl
    (fun correct batch => correct + batch.countP fun i => classify (image i) = label i) 0

/-- The accuracy that `test` returns, in percent. -/
def testAccuracy (classify : Image → ℤ) (image : Fin n → Image) (label : Fin n → ℤ)
    (pass : Pass n) : Except PyError ℚ :=
  -- the loss is divided by the length of the data set before the accuracy is
  if n = 0 then .error .zeroDivisionError
  else .ok (100 * countCorrect classify image label pass / n)

/-- The accuracy does not depend on the order and the batches. -/
theorem testAccuracy_eq (classify : Image → ℤ) (image : Fin n → Image) (label : Fin n → ℤ)
    (pass : Pass n) (hn : n ≠ 0) :
    testAccuracy classify image label pass =
      .ok (100 * ((List.finRange n).countP fun i => classify (image i) = label i) / n) := by
  rw [testAccuracy, if_neg hn, countCorrect, pass.foldl_countP]

end Test

section PoisonedTest

variable {train test : Dataset} (loaders : Cifar10Loaders train test) (draws : Draws test)

/-- The accuracy on the poisoned test loader. -/
def attackSuccessRate (classify : Image → ℤ) (pass : Pass test.length) : Except PyError ℚ :=
  testAccuracy classify (fun i => (loaders.testPoisonedSet.getitem draws i).image)
    (fun i => (loaders.testPoisonedSet.getitem draws i).label) pass

/-- The model gives every sample its true label, with or without a trigger on it. -/
def TrueLabels (classify : Image → ℤ) : Prop :=
  ∀ i, classify (loaders.testPoisonedSet.getitem draws i).image = labelAt test i

/-- Every sample that enters the accuracy had another label before, and a model that classifies by
the true labels has rate zero. -/
structure CountsConverted (targetClass : ℤ) (pass : Pass test.length) : Prop where
  converted : ∀ i ∈ pass.batches.flatten, labelAt test i ≠ targetClass
  trueLabels : test ≠ [] → ∀ classify, TrueLabels loaders draws classify →
    attackSuccessRate loaders draws classify pass = .ok 0

end PoisonedTest

section Loaders

variable (train test : Dataset) (poisonRatio : ℚ) (targetClass : ℤ) (triggerType : TriggerType)
  (shuffleTrain : Shuffle (Index train)) (shuffleTest : Shuffle (Index test)) (draws : Draws test)

/-- Every label of the poisoned test set is the target class. -/
theorem label_testPoisonedSet (i : Index test) :
    ((getCifar10Dataloaders train test poisonRatio targetClass triggerType shuffleTrain
      shuffleTest).testPoisonedSet.getitem draws i).label = targetClass := by
  rw [BadNetsDataset.label_getitem, if_pos (mem_testPoisonedSet ..)]
  exact BadNetsDataset.targetClass_init ..

/-- A model that ignores the trigger scores the share of the target class in the test set. -/
theorem attackSuccessRate_of_trueLabels (htest : test ≠ []) (pass : Pass test.length)
    {classify : Image → ℤ}
    (htrue : TrueLabels (getCifar10Dataloaders train test poisonRatio targetClass triggerType
      shuffleTrain shuffleTest) draws classify) :
    attackSuccessRate (getCifar10Dataloaders train test poisonRatio targetClass triggerType
        shuffleTrain shuffleTest) draws classify pass =
      .ok (100 * (test.countP fun s => s.label = targetClass) / test.length) := by
  have hlen : test.length ≠ 0 := List.length_eq_zero_iff.not.2 htest
  rw [attackSuccessRate, testAccuracy_eq _ _ _ _ hlen,
    ← BadNetsDataset.length_targetIndices, BadNetsDataset.targetIndices,
    ← List.countP_eq_length_filter]
  -- the prediction is the true label, the label is the target class
  simp only [htrue _, label_testPoisonedSet]

/-- Only converted samples are counted exactly when no test sample has the target label. -/
theorem countsConverted_iff (pass : Pass test.length) :
    CountsConverted (getCifar10Dataloaders train test poisonRatio targetClass triggerType
        shuffleTrain shuffleTest) draws targetClass pass ↔
      ∀ s ∈ test, s.label ≠ targetClass := by
  constructor
  · intro h s hs
    obtain ⟨i, rfl⟩ := List.get_of_mem hs
    exact h.converted i (pass.mem_flatten i)
  · intro h
    refine ⟨fun i _ => h _ (List.get_mem test i), ?_⟩
    intro htest classify htrue
    have hnone : test.countP (fun s => s.label = targetClass) = 0 := by
      rw [List.countP_eq_zero]
      intro s hs
      simpa using h s hs
    rw [attackSuccessRate_of_trueLabels _ _ _ _ _ _ _ _ htest pass htrue, hnone]
    simp

end Loaders

/-- One test sample of class 0 and one of class 1, told apart by their brightness. -/
def twoClasses : Dataset := [⟨.cifarSized 0, 0⟩, ⟨.cifarSized 1, 1⟩]

/-- A model that reads the top left corner, where the square trigger never is. -/
def readCorner (img : Image) : ℤ := (img.corner ⟨0, Nat.zero_lt_succ 2⟩).num

/-- The loaders of the two samples, with the square trigger and target class 0. -/
def twoClassLoaders : Cifar10Loaders [] twoClasses :=
  getCifar10Dataloaders [] twoClasses (1 / 10) 0 .square .identity .identity

/-- The model that ignores the trigger has an attack success rate of 50 percent. -/
theorem rate_of_ignored_trigger :
    TrueLabels twoClassLoaders (fun _ => DynamicDraw.zero _) readCorner ∧
      attackSuccessRate twoClassLoaders (fun _ => DynamicDraw.zero _) readCorner (.single _) =
        .ok 50 ∧
      ¬ CountsConverted twoClassLoaders (fun _ => DynamicDraw.zero _) 0 (.single _) := by
  have htrue : TrueLabels twoClassLoaders (fun _ => DynamicDraw.zero _) readCorner := by
    rw [TrueLabels]
    decide +kernel
  have hrate : attackSuccessRate twoClassLoaders (fun _ => DynamicDraw.zero _) readCorner
      (.single _) = .ok 50 := by
    have hne : twoClasses ≠ [] := List.cons_ne_nil _ _
    have hcount : (100 * (twoClasses.countP fun s => s.label = 0) / twoClasses.length : ℚ) =
        50 := by
      decide +kernel
    rw [twoClassLoaders, attackSuccessRate_of_trueLabels _ _ _ _ _ _ _ _ hne _ htrue, hcount]
  refine ⟨htrue, hrate, ?_⟩
  intro h
  have hzero := h.trueLabels (List.cons_ne_nil _ _) readCorner htrue
  rw [hrate] at hzero
  exact absurd (Except.ok.inj hzero) (by norm_num)

end TrojanDetection.Evaluation.AttackSuccess
