import TrojanDetection.Library.Sampling
import TrojanDetection.Python.Basic
import Mathlib.Algebra.Order.Ring.Rat

/-!
# STRIP (`defenses.py`, `STRIP`)

The entropy of an input is the mean entropy of the network's answers on mixtures of the input with
clean images. The clean images are drawn without replacement, so that a data set with fewer images
than are asked for raises (`returns_calculateEntropy_iff`).
-/

set_option autoImplicit false

namespace TrojanDetection.Defenses

open TrojanDetection.Library.Sampling
open TrojanDetection.Python

/-- A data set of tensors: its length, and what reading an index returns or raises. -/
structure TensorDataset (τ : Type) where
  len : ℕ
  getitem : ℕ → Except PyError τ

/-- Every index below the length can be read, and no other. -/
def TensorDataset.Readable {τ : Type} (ds : TensorDataset τ) : Prop :=
  ∀ i, returns (ds.getitem i) ↔ i < ds.len

/-- `np.random.choice(population, size, replace=False)`. -/
def randomChoice (order : Shuffle ℕ) (population size : ℕ) : Except PyError (List ℕ) :=
  if population < size then
    .error (.valueError "Cannot take a larger sample than population when 'replace=False'")
  else .ok (order.sample size (List.range population))

theorem randomChoice_of_le (order : Shuffle ℕ) {population size : ℕ} (h : size ≤ population) :
    randomChoice order population size = .ok (order.sample size (List.range population)) :=
  if_neg (not_lt.2 h)

/-- A draw has the size asked for, which the population must have, and stays inside it. -/
theorem randomChoice_eq_ok {order : Shuffle ℕ} {population size : ℕ} {indices : List ℕ}
    (h : randomChoice order population size = .ok indices) :
    size ≤ population ∧ indices.length = size ∧ ∀ i ∈ indices, i < population := by
  rw [randomChoice] at h
  split at h
  · cases h
  · next hsize =>
      cases h
      refine ⟨not_lt.1 hsize, ?_, ?_⟩
      · apply order.length_sample
        rw [List.length_range]
        exact not_lt.1 hsize
      · intro i hi
        exact List.mem_range.1 (Shuffle.mem_of_mem_sample hi)

/-- `torch.stack`. -/
def stack {τ : Type} (tensors : List τ) : Except PyError (List τ) :=
  if tensors.isEmpty then .error (.runtimeError "stack expects a non-empty TensorList")
  else .ok tensors

theorem stack_of_length_pos {τ : Type} {tensors : List τ} (h : 0 < tensors.length) :
    stack tensors = .ok tensors := by
  apply if_neg
  rw [List.isEmpty_iff]
  exact List.length_pos_iff.1 h

theorem length_pos_of_stack {τ : Type} {tensors batch : List τ} (h : stack tensors = .ok batch) :
    0 < tensors.length := by
  rw [stack] at h
  split at h
  · cases h
  · next hne =>
      rw [List.isEmpty_iff] at hne
      exact List.length_pos_iff.2 hne

/-- The detector. The forward pass and the mean entropy of its softmax outputs are a parameter. -/
structure STRIP (τ : Type) where
  cleanDataset : TensorDataset τ
  meanEntropy : List τ → ℚ

namespace STRIP

variable {τ : Type} [Add τ] [SMul ℚ τ]

/-- `STRIP.superimpose`. -/
def superimpose (img1 img2 : τ) (alpha : ℚ := 1 / 2) : τ := alpha • img1 + (1 - alpha) • img2

/-- `STRIP.calculate_entropy`. -/
def calculateEntropy (strip : STRIP τ) (order : Shuffle ℕ) (input : τ) (numSamples : ℕ := 64) :
    Except PyError ℚ := do
  let indices ← randomChoice order strip.cleanDataset.len numSamples
  let perturbedInputs ← indices.mapM fun idx => do
    let cleanImg ← strip.cleanDataset.getitem idx
    pure (superimpose input cleanImg)
  let perturbedBatch ← stack perturbedInputs
  pure (strip.meanEntropy perturbedBatch)

/-- On a readable data set the entropy is returned exactly if there are enough images, and at least
one is asked for. -/
theorem returns_calculateEntropy_iff {strip : STRIP τ} (hreadable : strip.cleanDataset.Readable)
    {order : Shuffle ℕ} {input : τ} {numSamples : ℕ} :
    returns (strip.calculateEntropy order input numSamples) ↔
      0 < numSamples ∧ numSamples ≤ strip.cleanDataset.len := by
  constructor
  · rintro ⟨entropy, h⟩
    obtain ⟨indices, hindices, h⟩ := bind_eq_ok_iff.1 h
    obtain ⟨perturbedInputs, hperturbed, h⟩ := bind_eq_ok_iff.1 h
    obtain ⟨perturbedBatch, hbatch, -⟩ := bind_eq_ok_iff.1 h
    obtain ⟨hsize, hlength, -⟩ := randomChoice_eq_ok hindices
    refine ⟨?_, hsize⟩
    rw [← hlength, ← length_of_mapM_eq_ok hperturbed]
    exact length_pos_of_stack hbatch
  · rintro ⟨hpos, hsize⟩
    have hindices := randomChoice_of_le order hsize
    obtain ⟨-, hlength, hbound⟩ := randomChoice_eq_ok hindices
    have hloop : returns ((order.sample numSamples (List.range strip.cleanDataset.len)).mapM
        fun idx => do
          let cleanImg ← strip.cleanDataset.getitem idx
          pure (superimpose input cleanImg)) := by
      apply returns_mapM_iff.2
      intro idx hidx
      obtain ⟨cleanImg, hread⟩ := (hreadable idx).2 (hbound idx hidx)
      exact ⟨_, bind_eq_ok_iff.2 ⟨cleanImg, hread, rfl⟩⟩
    obtain ⟨perturbedInputs, hperturbed⟩ := hloop
    have hstack : stack perturbedInputs = .ok perturbedInputs := by
      apply stack_of_length_pos
      rw [length_of_mapM_eq_ok hperturbed, hlength]
      exact hpos
    exact ⟨_, bind_eq_ok_iff.2 ⟨_, hindices, bind_eq_ok_iff.2 ⟨_, hperturbed,
      bind_eq_ok_iff.2 ⟨_, hstack, rfl⟩⟩⟩⟩

end STRIP

end TrojanDetection.Defenses
