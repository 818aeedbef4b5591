import TrojanDetection.Defenses.Representations
import TrojanDetection.Library.RobustStatistics

/-!
# Gradient similarity (`defenses.py`, `GradientSimilarity`)

The detector takes samples from the batches of a loader until it has as many as it was asked for. It
computes a gradient for each sample and one for a poisoned version of it, and returns the mean of
the cosine similarities. Both loops test the counter before they go on.

The two loops together are one loop over the samples (`collect_eq_collectBatch`), and that one stops
after a prefix of them. So the result depends on the samples alone and not on how they were put into
batches (`detect_takes_first_samples`).
-/

set_option autoImplicit false

namespace TrojanDetection.Defenses

open TrojanDetection.Defenses.Activations
open TrojanDetection.Defenses.Representations
open TrojanDetection.Library.RobustStatistics
open TrojanDetection.Python

/-- The gradient of the output for a class with respect to an image, and the similarity of two
gradients. -/
structure GradientSimilarity (τ γ : Type) where
  computeGradient : τ → ℤ → Except PyError γ
  cosineSimilarity : γ → γ → ℚ

namespace GradientSimilarity

variable {τ γ : Type}

/-- The arguments of a call that stay the same through its loops, and the tensors that
`torch.randn_like` returns one after the other. -/
structure Call (τ : Type) where
  targetClass : ℤ
  numSamples : ℕ
  triggerMask : Option τ
  triggerPattern : Option τ
  noise : ℕ → τ

/-- The local variables, with the number of noise tensors drawn. -/
structure Collected (γ : Type) where
  cleanGrads : List γ
  poisonedGrads : List γ
  count : ℕ
  draws : ℕ

variable [Add τ] [Sub τ] [Mul τ] [One τ] [SMul ℚ τ]

/-! ## The loops -/

/-- The poisoned image: with the trigger, or with weak noise if mask or pattern is missing. -/
def poison (call : Call τ) (img : τ) (draws : ℕ) : τ × ℕ :=
  match call.triggerMask, call.triggerPattern with
  | some m, some p => ((1 - m) * img + m * p, draws)
  | _, _ => (img + (5 / 100 : ℚ) • call.noise draws, draws + 1)

/-- The body of the inner loop. -/
def collectSample (gs : GradientSimilarity τ γ) (call : Call τ) (img : τ)
    (acc : Collected γ) : Except PyError (Collected γ) := do
  let cg ← gs.computeGradient img call.targetClass
  let (poisoned, draws) := poison call img acc.draws
  let pg ← gs.computeGradient poisoned call.targetClass
  pure ⟨acc.cleanGrads ++ [cg], acc.poisonedGrads ++ [pg], acc.count + 1, draws⟩

/-- `for i in range(len(inputs))`. -/
def collectBatch (gs : GradientSimilarity τ γ) (call : Call τ) :
    List τ → Collected γ → Except PyError (Collected γ)
  | [], acc => .ok acc
  | img :: inputs, acc =>
      if acc.count ≥ call.numSamples then .ok acc
      else do
        let acc ← collectSample gs call img acc
        collectBatch gs call inputs acc

/-- `for inputs, labels, *_ in dataloader`. -/
def collect (gs : GradientSimilarity τ γ) (call : Call τ) :
    List (Batch τ) → Collected γ → Except PyError (Collected γ)
  | [], acc => .ok acc
  | batch :: dataloader, acc =>
      if acc.count ≥ call.numSamples then .ok acc
      else do
        let acc ← collectBatch gs call batch.inputs acc
        collect gs call dataloader acc

/-- `GradientSimilarity.detect`: the mean similarity over the collected pairs of gradients. -/
def detect (gs : GradientSimilarity τ γ) (call : Call τ) (dataloader : List (Batch τ)) :
    Except PyError ℚ := do
  let acc ← collect gs call dataloader ⟨[], [], 0, 0⟩
  if acc.cleanGrads.isEmpty then pure 0
  else pure (mean (List.zipWith gs.cosineSimilarity acc.cleanGrads acc.poisonedGrads))

/-! ## One loop over the samples -/

variable (gs : GradientSimilarity τ γ) (call : Call τ)

theorem collectBatch_of_le {acc : Collected γ} (h : call.numSamples ≤ acc.count)
    (inputs : List τ) : collectBatch gs call inputs acc = .ok acc := by
  cases inputs with
  | nil => rfl
  | cons img inputs => exact if_pos h

theorem collectBatch_append (a b : List τ) (acc : Collected γ) :
    collectBatch gs call (a ++ b) acc =
      (collectBatch gs call a acc >>= fun acc => collectBatch gs call b acc) := by
  induction a generalizing acc with
  | nil => rfl
  | cons img a ih =>
      by_cases hfull : call.numSamples ≤ acc.count
      · rw [collectBatch_of_le gs call hfull, collectBatch_of_le gs call hfull]
        exact (collectBatch_of_le gs call hfull b).symm
      · rw [List.cons_append, collectBatch, collectBatch, if_neg hfull, if_neg hfull]
        cases collectSample gs call img acc with
        | error e => rfl
        | ok acc => exact ih acc

/-- The batches do not matter. -/
theorem collect_eq_collectBatch (dataloader : List (Batch τ)) (acc : Collected γ) :
    collect gs call dataloader acc =
      collectBatch gs call (dataloader.flatMap Batch.inputs) acc := by
  induction dataloader generalizing acc with
  | nil => rfl
  | cons batch dataloader ih =>
      rw [List.flatMap_cons]
      by_cases hfull : call.numSamples ≤ acc.count
      · -- a limit that falls on the end of a batch stops either loop at once
        rw [collect, if_pos hfull, collectBatch_of_le gs call hfull]
      · rw [collect, if_neg hfull, collectBatch_append]
        cases collectBatch gs call batch.inputs acc with
        | error e => rfl
        | ok acc => exact ih acc

/-! ## The prefix -/

/-- The poisoned version of the sample at a position, which has its own noise tensor. -/
def poisonedAt (call : Call τ) (i : ℕ) (img : τ) : τ := (poison call img i).1

/-- The gradients of the sample at a position. -/
def gradientPair (gs : GradientSimilarity τ γ) (call : Call τ) (sample : τ × ℕ) :
    Except PyError (γ × γ) := do
  let cg ← gs.computeGradient sample.1 call.targetClass
  let pg ← gs.computeGradient (poisonedAt call sample.2 sample.1) call.targetClass
  pure (cg, pg)

/-- The noise tensors drawn for a number of samples: none if there is a trigger. -/
def drawsFor (call : Call τ) (n : ℕ) : ℕ :=
  if call.triggerMask.isSome && call.triggerPattern.isSome then 0 else n

theorem poison_drawsFor (img : τ) (n : ℕ) :
    poison call img (drawsFor call n) = (poisonedAt call n img, drawsFor call (n + 1)) := by
  rw [poisonedAt, poison, poison, drawsFor, drawsFor]
  cases call.triggerMask with
  | none => rfl
  | some m =>
      cases call.triggerPattern with
      | none => rfl
      | some p => rfl

/-- The local variables after the samples with the given gradients. -/
def collectedOf (call : Call τ) (pairs : List (γ × γ)) : Collected γ where
  cleanGrads := pairs.map Prod.fst
  poisonedGrads := pairs.map Prod.snd
  count := pairs.length
  draws := drawsFor call pairs.length

/-- The body of the loop adds the gradients of its sample at the end of both lists. -/
theorem collectSample_eq (img : τ) (pairs : List (γ × γ)) :
    collectSample gs call img (collectedOf call pairs) =
      (gradientPair gs call (img, pairs.length) >>= fun pair =>
        .ok (collectedOf call (pairs ++ [pair]))) := by
  have hpoison := poison_drawsFor call img pairs.length
  simp only [collectSample, gradientPair, collectedOf, hpoison]
  cases gs.computeGradient img call.targetClass with
  | error e => rfl
  | ok cg =>
      cases gs.computeGradient (poisonedAt call pairs.length img) call.targetClass with
      | error e => rfl
      | ok pg => simp [bind, Except.bind, pure, Except.pure]

/-- From samples with known gradients on, the loop takes what is left to the number asked for. -/
theorem collectBatch_eq (inputs : List τ) (pairs : List (γ × γ)) :
    collectBatch gs call inputs (collectedOf call pairs) =
      (((inputs.take (call.numSamples - pairs.length)).zipIdx pairs.length).mapM
        (gradientPair gs call) >>= fun more => .ok (collectedOf call (pairs ++ more))) := by
  -- the gradients so far are the accumulator of the induction; they fix counter and draws
  induction inputs generalizing pairs with
  | nil => simp [collectBatch, bind, Except.bind, pure, Except.pure]
  | cons img inputs ih =>
      by_cases hfull : call.numSamples ≤ pairs.length
      · rw [collectBatch_of_le gs call hfull, Nat.sub_eq_zero_of_le hfull]
        simp [bind, Except.bind, pure, Except.pure]
      · have hleft : call.numSamples - pairs.length =
            (call.numSamples - (pairs.length + 1)) + 1 := by
          omega
        have hgo : ¬ (collectedOf call pairs).count ≥ call.numSamples := hfull
        rw [collectBatch, if_neg hgo, collectSample_eq, hleft, List.take_succ_cons,
          List.zipIdx_cons, List.mapM_cons]
        cases hpair : gradientPair gs call (img, pairs.length) with
        | error e => rfl
        | ok pair =>
            have hrest := ih (pairs ++ [pair])
            rw [List.length_append, List.length_singleton] at hrest
            show collectBatch gs call inputs (collectedOf call (pairs ++ [pair])) = _
            rw [hrest]
            show _ = ((_ >>= fun more => pure (pair :: more)) >>= fun more => _)
            cases ((inputs.take (call.numSamples - (pairs.length + 1))).zipIdx
                (pairs.length + 1)).mapM (gradientPair gs call) with
            | error e => rfl
            | ok more =>
                simp [bind, Except.bind, pure, Except.pure]

/-- The gradients of the first samples, in order. -/
def samplePairs (gs : GradientSimilarity τ γ) (call : Call τ) (samples : List τ) :
    Except PyError (List (γ × γ)) :=
  ((samples.take call.numSamples).zipIdx).mapM (gradientPair gs call)

theorem length_of_samplePairs {samples : List τ} {pairs : List (γ × γ)}
    (h : samplePairs gs call samples = .ok pairs) :
    pairs.length = min call.numSamples samples.length := by
  rw [length_of_mapM_eq_ok h, List.length_zipIdx, List.length_take]

/-- The mean similarity of pairs of gradients, zero for none. -/
def meanSimilarity (gs : GradientSimilarity τ γ) (pairs : List (γ × γ)) : ℚ :=
  if pairs.isEmpty then 0
  else mean (pairs.map fun pair => gs.cosineSimilarity pair.1 pair.2)

theorem collect_eq (dataloader : List (Batch τ)) :
    collect gs call dataloader ⟨[], [], 0, 0⟩ =
      (samplePairs gs call (dataloader.flatMap Batch.inputs) >>= fun pairs =>
        .ok (collectedOf call pairs)) := by
  have hstart : (⟨[], [], 0, 0⟩ : Collected γ) = collectedOf call [] := by
    simp [collectedOf, drawsFor]
  rw [hstart, collect_eq_collectBatch, collectBatch_eq]
  rfl

theorem detect_eq (dataloader : List (Batch τ)) :
    detect gs call dataloader =
      (samplePairs gs call (dataloader.flatMap Batch.inputs) >>= fun pairs =>
        .ok (meanSimilarity gs pairs)) := by
  rw [detect, collect_eq]
  cases samplePairs gs call (dataloader.flatMap Batch.inputs) with
  | error e => rfl
  | ok pairs =>
      cases pairs with
      | nil => rfl
      | cons pair pairs =>
          simp [collectedOf, meanSimilarity, bind, Except.bind, pure, Except.pure,
            List.zipWith_map]

/-- For every split of samples into batches, with or without poison flags, the loops leave the clean
and the poisoned gradient of each of the first samples at its position, the result is the mean of
their similarities, and another split gives the same. -/
theorem detect_takes_first_samples (samples : List (Entry τ)) (split : DataLoader τ)
    (hsplit : split.flatten = samples) :
    collect gs call (split.map collate) ⟨[], [], 0, 0⟩ =
      (samplePairs gs call (samples.map Entry.input) >>= fun pairs =>
        .ok (collectedOf call pairs)) ∧
    (∀ pairs, samplePairs gs call (samples.map Entry.input) = .ok pairs →
      pairs.length = min call.numSamples samples.length) ∧
    detect gs call (split.map collate) =
      (samplePairs gs call (samples.map Entry.input) >>= fun pairs =>
        .ok (meanSimilarity gs pairs)) ∧
    (min call.numSamples samples.length = 0 → detect gs call (split.map collate) = .ok 0) ∧
    ∀ split' : DataLoader τ, split'.flatten = samples →
      detect gs call (split'.map collate) = detect gs call (split.map collate) := by
  have hinputs : ∀ split : DataLoader τ, split.flatten = samples →
      (split.map collate).flatMap Batch.inputs = samples.map Entry.input := by
    rintro split rfl
    rw [List.flatMap_map, List.map_flatten, List.flatMap_def]
    rfl
  have hdetect : ∀ split : DataLoader τ, split.flatten = samples →
      detect gs call (split.map collate) =
        (samplePairs gs call (samples.map Entry.input) >>= fun pairs =>
          .ok (meanSimilarity gs pairs)) := by
    intro split hsplit
    rw [detect_eq, hinputs split hsplit]
  refine ⟨?_, ?_, hdetect split hsplit, ?_, ?_⟩
  · rw [collect_eq, hinputs split hsplit]
  · intro pairs hpairs
    rw [length_of_samplePairs gs call hpairs, List.length_map]
  · intro hnone
    have htake : (samples.map Entry.input).take call.numSamples = [] := by
      rw [← List.length_eq_zero_iff, List.length_take, List.length_map]
      exact hnone
    rw [hdetect split hsplit, samplePairs, htake]
    rfl
  · intro split' hsplit'
    rw [hdetect split' hsplit', hdetect split hsplit]

/-- The gradient is the image itself. -/
def identityGradient : GradientSimilarity ℚ ℚ := ⟨fun img _ => .ok img, fun cg pg => cg - pg⟩

/-- Two samples are asked for, and noise moves an image by one. -/
def twoSamples : Call ℚ := ⟨0, 2, none, none, fun _ => 20⟩

/-- Three entries with different images and the same label. -/
def threeEntries : List (Entry ℚ) := [⟨1, 0, none⟩, ⟨2, 0, none⟩, ⟨3, 0, none⟩]

/-- The first two of three samples, in batches of one and two and of two and one. -/
theorem two_splits_agree :
    detect identityGradient twoSamples
      ([threeEntries.take 1, threeEntries.drop 1].map collate) = .ok (-1) ∧
    [threeEntries.take 1, threeEntries.drop 1].flatten = threeEntries ∧
    detect identityGradient twoSamples
        ([threeEntries.take 2, threeEntries.drop 2].map collate) =
      detect identityGradient twoSamples
        ([threeEntries.take 1, threeEntries.drop 1].map collate) := by
  refine ⟨by decide +kernel, rfl, ?_⟩
  exact (detect_takes_first_samples identityGradient twoSamples threeEntries
    [threeEntries.take 1, threeEntries.drop 1] rfl).2.2.2.2
      [threeEntries.take 2, threeEntries.drop 2] rfl

end GradientSimilarity

end TrojanDetection.Defenses
